import TwoWaySchema.Regex.Interval
import TwoWaySchema.Regex.Node

/-!
# The size of a pattern

A pattern is as large as the automata that recognise it byte by byte, one in reading order and one
against it.  A state takes 32 bytes, a transition of a state with several takes 8, and a choice
takes 4 for each way on.  Repetitions with counts multiply what they repeat, so patterns that are
short as text can be too large.
-/

namespace TwoWaySchema.Regex

/-! ## Sequences of bytes -/

/-- A set of sequences of bytes: those with the first byte in the first interval, and so on. -/
abbrev ByteSequence : Type := List Interval

/-- The sequences for the numbers of an interval when they are written as a lead byte, counted from
`lead` on, and this many bytes of six bits.  Within a sequence every byte but those before a free
one is fixed. -/
def sequencesFrom (lead : Nat) : (more : Nat) → Interval → List ByteSequence
  | 0, (first, last) => [[(lead + first, lead + last)]]
  | more + 1, (first, last) =>
    let block := Nat.pow 64 (more + 1)
    let (a, b) := (first / block, last / block)
    let under (a b : Nat) (i : Interval) : List ByteSequence :=
      (sequencesFrom 0x80 more i).map ((lead + a, lead + b) :: ·)
    if a = b then under a a (first % block, last % block)
    else
      let opening := if first % block = 0 then [] else under a a (first % block, block - 1)
      let closing := if last % block = block - 1 then [] else under b b (0, last % block)
      let c := if opening.isEmpty then a else a + 1
      let d := if closing.isEmpty then b else b - 1
      opening ++ (if c ≤ d then under c d (0, block - 1) else []) ++ closing

/-- The sequences for the UTF-8 of an interval of characters, in ascending order. -/
def utf8Sequences (i : Interval) : List ByteSequence :=
  let part (least most lead more : Nat) : List ByteSequence :=
    let (first, last) := (max i.1 least, min i.2 most)
    if first ≤ last then sequencesFrom lead more (first, last) else []
  part 0 0x7F 0 0 ++ part 0x80 0x7FF 0xC0 1 ++ part 0x800 0xD7FF 0xE0 2
    ++ part 0xE000 0xFFFF 0xE0 2 ++ part 0x10000 0x10FFFF 0xF0 3

/-! ## Sets of characters -/

/-- A state with its transitions: intervals of bytes and the places of the states they lead to. -/
abbrev ByteState : Type := List (Interval × Nat)

/-- Splits sequences by their first interval; equal ones stand side by side. -/
def groupByFirst : List ByteSequence → List (Interval × List ByteSequence)
  | [] => []
  | [] :: rest => groupByFirst rest
  | (i :: tail) :: rest =>
    match groupByFirst rest with
    | (j, tails) :: groups =>
      if i = j then (j, tail :: tails) :: groups else (i, [tail]) :: (j, tails) :: groups
    | [] => [(i, [tail])]

/-- Adds the state from which sequences of up to this length lead to the end, unless there is one
like it, and gives its place.  The end itself has place 0. -/
def addState : (length : Nat) → List ByteSequence → StateM (List ByteState) Nat
  | 0, _ => pure 0
  | length + 1, sequences => do
    if sequences.all List.isEmpty then return 0
    let state : ByteState ← (groupByFirst sequences).mapM fun (i, tails) ↦ do
      return (i, ← addState length tails)
    let states ← get
    let place := states.idxOf state
    if place < states.length then return states.length - place
    set (state :: states)
    return states.length + 1

/-- The size of a set of characters in reading order, where equal endings share their states. -/
def forwardSize (sequences : List ByteSequence) : Nat :=
  let (_, states) := (addState 4 sequences).run []
  states.foldl (fun size state ↦ size + 32 + 8 * state.length) 32

def sharedLength : ByteSequence → ByteSequence → Nat
  | i :: a, j :: b => if i = j then sharedLength a b + 1 else 0
  | _, _ => 0

/-- The size of a set of characters against the reading order, where equal beginnings share their
states and a choice stands before all the endings. -/
def backwardSize (sequences : List ByteSequence) : Nat :=
  let states := sequences.foldl
    (fun (count, before) s ↦ (count + s.length - sharedLength before s, s)) (0, [])
  64 + 32 * states.1 + 4 * sequences.length

/-- The number of bytes of a character in UTF-8. -/
def utf8Length (code : Nat) : Nat :=
  if code ≤ 0x7F then 1 else if code ≤ 0x7FF then 2 else if code ≤ 0xFFFF then 3 else 4

/-- The size of one character of a set. -/
def intervalsSize (backward : Bool) (intervals : List Interval) : Nat :=
  let single :=
    match intervals with
    | [(first, last)] => if first = last then some (32 * utf8Length first) else none
    | _ => none
  match single with
  | some size => size
  | none =>
    if intervals.all fun i ↦ i.2 ≤ 0x7F then 64 + 8 * intervals.length
    else
      let sequences := intervals.flatMap utf8Sequences
      if backward then backwardSize sequences else forwardSize sequences

/-! ## Nodes -/

namespace Node

/-- Whether a node is written but matches nothing more than its absence would. -/
def isVoid : Node → Bool
  | empty => true
  | seq a b => a.isVoid && b.isVoid
  | repeated node least most =>
    most = some 0 || (least = 1 && most = some 1 && node.isVoid)
  | _ => false

/-- Whether all matches are empty. -/
def isEmptyOnly : Node → Bool
  | empty | anchor _ => true
  | one _ _ => false
  | group node => node.isEmptyOnly
  | seq a b | either a b => a.isEmptyOnly && b.isEmptyOnly
  | repeated node _ most => most = some 0 || node.isEmptyOnly

/-- Whether no match is empty. -/
def consumes : Node → Bool
  | one _ _ => true
  | empty | anchor _ => false
  | group node => node.consumes
  | seq a b => a.consumes || b.consumes
  | either a b => a.consumes && b.consumes
  | repeated node least _ => 0 < least && node.consumes

/-- The characters of alternatives that are all one character. -/
def alternativeChars? : Node → Option (List Interval)
  | one ignoreCase chars => some (chars.intervals ignoreCase)
  | either a b => do return Interval.union (← a.alternativeChars?) (← b.alternativeChars?)
  | _ => none

/-- The size of a repetition of something of this size. -/
def repeatedSize (consumes : Bool) (least : Nat) (most : Option Nat) (size : Nat) : Nat :=
  match least, most with
  | 0, none => if consumes then size + 40 else size + 112
  | least, none => least * size + 40
  | 0, some 1 => size + 72
  | least, some most =>
    if least = most then least * size
    else (if least = 0 then 32 else least * size) + 32 + (most - least) * (size + 40)

/-- The sizes of a node in the places where it may stand. -/
structure Sizes where
  /-- In a sequence, to which nothing is added where nothing is written. -/
  inner : Nat
  /-- On its own, where it takes a state at least. -/
  alone : Nat
  /-- As one alternative, or as the alternatives that it consists of, with the ways to them. -/
  branches : Nat

def Sizes.ofInner (node : Node) (inner : Nat) : Sizes :=
  let alone := if node.isVoid then 32 else inner
  ⟨inner, alone, alone + 4⟩

def sizes (backward : Bool) : Node → Sizes
  | empty => .ofInner empty 0
  | one ignoreCase chars =>
    .ofInner (one ignoreCase chars) (intervalsSize backward (chars.intervals ignoreCase))
  | anchor a => .ofInner (anchor a) 32
  | group node =>
    .ofInner (group node) ((node.sizes backward).alone + if backward then 0 else 64)
  | seq a b => .ofInner (seq a b) ((a.sizes backward).inner + (b.sizes backward).inner)
  | either a b =>
    let branches := (a.sizes backward).branches + (b.sizes backward).branches
    let inner :=
      match alternativeChars? (either a b) with
      | some intervals => intervalsSize backward intervals
      | none => 64 + branches
    ⟨inner, inner, branches⟩
  | repeated node least most =>
    let (fewest, furthest) :=
      if node.isEmptyOnly then (min least 1, some (min (most.getD 1) 1)) else (least, most)
    .ofInner (repeated node least most)
      (if furthest = some 0 then 0
      else if fewest = 1 && furthest = some 1 then (node.sizes backward).inner
      else repeatedSize node.consumes fewest furthest (node.sizes backward).alone)

/-- The size of a pattern as a whole, the search for its beginning included. -/
def size (backward : Bool) (node : Node) : Nat :=
  (node.sizes backward).alone + if backward then 144 else 208

end Node

/-! ## The limit -/

/-- No set of characters has more intervals. -/
def CharSet.intervalBound (ignoreCase : Bool) : CharSet → Nat
  | nothing => 1
  | range first last => if ignoreCase then min (4 * (last.toNat - first.toNat + 1)) 4000 else 1
  | digit => 100
  | word => 1000
  | blank => 10
  | complement s => s.intervalBound ignoreCase + 2
  | union s t => s.intervalBound ignoreCase + t.intervalBound ignoreCase
  | inter s t | diff s t | symmDiff s t =>
    2 * (s.intervalBound ignoreCase + t.intervalBound ignoreCase) + 4

namespace Node

/-- A size that is quick to find and not too small. -/
def sizeBound : Node → Nat
  | empty | anchor _ => 32
  | one ignoreCase chars => 4000 * chars.intervalBound ignoreCase
  | group node => node.sizeBound + 64
  | seq a b => a.sizeBound + b.sizeBound
  | either a b => a.sizeBound + b.sizeBound + 72
  | repeated node least most => (node.sizeBound + 40) * (max least (most.getD 0) + 1) + 112

/-- How large a pattern may be, in bytes. -/
def sizeLimit : Nat := 10485760

def isTooLarge (node : Node) : Bool :=
  sizeLimit < node.sizeBound + 208
    && (sizeLimit < node.size false || sizeLimit < node.size true)

end Node

end TwoWaySchema.Regex
