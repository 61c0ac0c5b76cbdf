import TwoWaySchema.Regex.CharSet

/-!
# Matching regular expressions

A node denotes a relation between positions of a text: from where it starts to where it may end.
`Node.ends` maps a set of starting positions to the set of all ends, so a search needs no
backtracking and a repetition is the same map iterated.  Sets of positions are lists in ascending
order.
-/

namespace TwoWaySchema.Regex

inductive Anchor where
  | textStart
  | textEnd
  | lineStart
  | lineEnd
  | wordBoundary (negated : Bool)
  | wordStart
  | wordEnd
  /-- No word character comes before. -/
  | wordStartHalf
  /-- No word character comes next. -/
  | wordEndHalf
deriving DecidableEq, Repr

inductive Node where
  | empty
  | one (ignoreCase : Bool) (chars : CharSet)
  | anchor (a : Anchor)
  /-- A node the matches of which can be told apart from those of the nodes around it. -/
  | group (node : Node)
  | seq (first second : Node)
  | either (first second : Node)
  | repeated (node : Node) (least : Nat) (most : Option Nat)
deriving DecidableEq, Repr

def isWordAt (text : Array Char) (i : Nat) : Bool :=
  (text[i]?).any Text.isWordChar

def Anchor.holds (text : Array Char) (i : Nat) (a : Anchor) : Bool :=
  let before := 0 < i && isWordAt text (i - 1)
  let after := isWordAt text i
  match a with
  | textStart => i = 0
  | textEnd => i = text.size
  | lineStart => i = 0 || text[i - 1]? == some '\n'
  | lineEnd => i = text.size || text[i]? == some '\n'
  | wordBoundary negated => (before != after) != negated
  | wordStart => !before && after
  | wordEnd => before && !after
  | wordStartHalf => !before
  | wordEndHalf => !after

/-! ## Sets of positions -/

/-- The positions in one list or the other. -/
def unite : List Nat → List Nat → List Nat
  | [], others => others
  | positions, [] => positions
  | i :: positions, j :: others =>
    if i < j then i :: unite positions (j :: others)
    else if j < i then j :: unite (i :: positions) others
    else i :: unite positions others
termination_by positions others => positions.length + others.length

/-- Applies a map this many times, or until nothing is left. -/
def iterate (f : List Nat → List Nat) : Nat → List Nat → List Nat
  | 0, positions => positions
  | _, [] => []
  | n + 1, positions => iterate f n (f positions)

/-- Marks the positions that a map reaches from `positions` in this many steps, if they are not
marked yet. -/
def mark (f : List Nat → List Nat) : Nat → (marked : Array Bool) → List Nat → Array Bool
  | 0, marked, _ => marked
  | _, marked, [] => marked
  | n + 1, marked, positions =>
    let fresh := (f positions).filter fun i ↦ marked[i]? = some false
    mark f n (fresh.foldl (fun marked i ↦ marked.setIfInBounds i true) marked) fresh

/-- The positions up to `size` that a map reaches in up to this many steps. -/
def closure (f : List Nat → List Nat) (size steps : Nat) (positions : List Nat) : List Nat :=
  let marked := positions.foldl (fun marked i ↦ marked.setIfInBounds i true)
    (Array.replicate (size + 1) false)
  let marked := mark f steps marked positions
  (List.range (size + 1)).filter fun i ↦ marked[i]? = some true

/-! ## Ends -/

/-- All positions where a match that starts at one of the given positions may end.  A chain of more
matches than the text has characters repeats a position, so further repetitions add nothing. -/
def Node.ends (text : Array Char) : Node → List Nat → List Nat
  | empty, starts => starts
  | one ignoreCase chars, starts =>
    starts.filterMap fun i ↦
      match text[i]? with
      | some c => if chars.contains ignoreCase c then some (i + 1) else none
      | none => none
  | anchor a, starts => starts.filter fun i ↦ a.holds text i
  | group node, starts => node.ends text starts
  | seq first second, starts => second.ends text (first.ends text starts)
  | either first second, starts => unite (first.ends text starts) (second.ends text starts)
  | repeated node least most, starts =>
    let bound := text.size + 1
    let more := (most.map (· - least)).getD bound
    let positions := iterate (node.ends text) (min least bound) starts
    if more = 0 then positions else closure (node.ends text) text.size (min more bound) positions

/-- Whether some part of a text matches. -/
def Node.isMatch (node : Node) (text : String) : Bool :=
  let chars := text.toList.toArray
  !(node.ends chars (List.range (chars.size + 1))).isEmpty

end TwoWaySchema.Regex
