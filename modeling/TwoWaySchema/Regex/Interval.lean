import TwoWaySchema.Regex.CharSet

/-!
# Sets of characters as intervals

The characters of a set, as inclusive intervals of code points in ascending order with gaps between
them.
-/

namespace TwoWaySchema.Regex

abbrev Interval : Type := Nat × Nat

namespace Interval

/-- Joins intervals in ascending order of their beginnings where they overlap or touch. -/
def join : List Interval → List Interval
  | [] => []
  | i :: rest => go i rest
where
  go (current : Interval) : List Interval → List Interval
    | [] => [current]
    | i :: rest =>
      if i.1 ≤ current.2 + 1 then go (current.1, max current.2 i.2) rest
      else current :: go i rest

def normalize (intervals : List Interval) : List Interval :=
  join (intervals.mergeSort fun i j ↦ i.1 ≤ j.1)

/-- What intervals leave of the code points from `next` to `last`. -/
def gaps (last : Nat) : (next : Nat) → List Interval → List Interval
  | next, [] => if next ≤ last then [(next, last)] else []
  | next, i :: rest =>
    let tail := gaps last (max next (i.2 + 1)) rest
    if next < i.1 then (next, i.1 - 1) :: tail else tail

/-- The characters that are in none of the intervals; surrogates are no characters. -/
def complement (intervals : List Interval) : List Interval :=
  gaps 0x10FFFF 0 (normalize ((0xD800, 0xDFFF) :: intervals))

def union (a b : List Interval) : List Interval :=
  normalize (a ++ b)

def inter (a b : List Interval) : List Interval :=
  complement (union (complement a) (complement b))

def diff (a b : List Interval) : List Interval :=
  inter a (complement b)

/-- Every character that case folding changes, with what it becomes. -/
def folds : List (Nat × Nat) :=
  Text.foldRuns.flatMap fun run ↦
    (List.range ((run.last - run.first) / run.step + 1)).map fun i ↦
      let code := run.first + i * run.step
      (code, Text.foldCode code)

/-- The characters that differ from one of an interval at most in case. -/
def foldCase (i : Interval) : List Interval :=
  let meets (code : Nat) : Bool := i.1 ≤ code && code ≤ i.2
  let targets := folds.filterMap fun (code, target) ↦
    if meets code || meets target then some target else none
  let sources := folds.filterMap fun (code, target) ↦
    if targets.contains target then some code else none
  normalize (i :: (targets ++ sources).map fun code ↦ (code, code))

end Interval

namespace CharSet

def intervals (ignoreCase : Bool) : CharSet → List Interval
  | nothing => []
  | range first last =>
    let i := (first.toNat, last.toNat)
    let halves := Interval.diff [i] []
    if ignoreCase then Interval.union halves (Interval.foldCase i) else halves
  | digit =>
    Interval.normalize (('0'.toNat :: Text.digitZeros).map fun first ↦ (first, first + 9))
  | word =>
    let ascii := [('0', '9'), ('A', 'Z'), ('_', '_'), ('a', 'z')].map fun (first, last) ↦
      (first.toNat, last.toNat)
    Interval.normalize (ascii ++ Text.wordLow ++ Text.wordMiddle ++ Text.wordHigh)
  | blank => Interval.normalize Text.blankRanges
  | complement s => Interval.complement (s.intervals ignoreCase)
  | union s t => Interval.union (s.intervals ignoreCase) (t.intervals ignoreCase)
  | inter s t => Interval.inter (s.intervals ignoreCase) (t.intervals ignoreCase)
  | diff s t => Interval.diff (s.intervals ignoreCase) (t.intervals ignoreCase)
  | symmDiff s t =>
    let a := s.intervals ignoreCase
    let b := t.intervals ignoreCase
    Interval.union (Interval.diff a b) (Interval.diff b a)

end CharSet

end TwoWaySchema.Regex
