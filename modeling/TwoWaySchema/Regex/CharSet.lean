import TwoWaySchema.Text.Blank
import TwoWaySchema.Text.CaseFold
import TwoWaySchema.Text.WordChar

/-!
# Sets of characters

What stands for one character in a pattern is a set of characters, built from ranges and the
classes of Unicode.  Where case counts for nothing, a range also holds the characters that differ
from one of its own at most in case.
-/

namespace TwoWaySchema.Regex

inductive CharSet where
  | nothing
  | range (first last : Char)
  | digit
  | word
  | blank
  | complement (s : CharSet)
  | union (s t : CharSet)
  | inter (s t : CharSet)
  | diff (s t : CharSet)
  /-- The characters in exactly one of the two. -/
  | symmDiff (s t : CharSet)
deriving DecidableEq, Repr

namespace CharSet

/-- Whether a set holds a character, the variants of which also count for ranges. -/
def holds (variants : List Char) (c : Char) : CharSet → Bool
  | nothing => false
  | range first last => variants.any fun v ↦ first ≤ v && v ≤ last
  | digit => Text.isDecimalDigit c
  | word => Text.isWordChar c
  | blank => Text.isBlank c
  | complement s => !s.holds variants c
  | union s t => s.holds variants c || t.holds variants c
  | inter s t => s.holds variants c && t.holds variants c
  | diff s t => s.holds variants c && !t.holds variants c
  | symmDiff s t => s.holds variants c != t.holds variants c

def contains (s : CharSet) (ignoreCase : Bool) (c : Char) : Bool :=
  s.holds (if ignoreCase then Text.caseVariants c else [c]) c

def single (c : Char) : CharSet :=
  range c c

/-- Every character, or every one but the line break. -/
def dot (dotAll : Bool) : CharSet :=
  complement (if dotAll then nothing else single '\n')

def ofList (sets : List CharSet) : CharSet :=
  sets.foldl union nothing

/-- The classes of ASCII that have names. -/
def named? (name : String) : Option CharSet :=
  let lower := range 'a' 'z'
  let upper := range 'A' 'Z'
  let digits := range '0' '9'
  match name with
  | "alnum" => some (ofList [digits, upper, lower])
  | "alpha" => some (ofList [upper, lower])
  | "ascii" => some (range '\x00' '\x7f')
  | "blank" => some (ofList [single '\t', single ' '])
  | "cntrl" => some (ofList [range '\x00' '\x1f', single '\x7f'])
  | "digit" => some digits
  | "graph" => some (range '!' '~')
  | "lower" => some lower
  | "print" => some (range ' ' '~')
  | "punct" => some (ofList [range '!' '/', range ':' '@', range '[' '\x60', range '\x7b' '~'])
  | "space" => some (ofList [range '\t' '\r', single ' '])
  | "upper" => some upper
  | "word" => some (ofList [digits, upper, single '_', lower])
  | "xdigit" => some (ofList [digits, range 'A' 'F', range 'a' 'f'])
  | _ => none

end CharSet

end TwoWaySchema.Regex
