/-!
# Engines of regular expressions

What makes regular expressions of patterns is an engine, and any engine will do: nothing is asked of
a regular expression but the pattern that it was made of and which texts it matches.  In its untyped
form it is a source with flags apart, which together make up the pattern.
-/

namespace TwoWaySchema.Regex

/-- Makes regular expressions of the patterns that it accepts. -/
class Engine (ρ : outParam Type) where
  /-- The regular expression of a pattern, or what is wrong with the pattern. -/
  compile : String → Except String ρ
  /-- The pattern that a regular expression was made of. -/
  pattern : ρ → String
  /-- Whether some part of a text matches. -/
  isMatch : ρ → String → Bool
  pattern_of_compile {p : String} {r : ρ} : compile p = .ok r → pattern r = p

/-! ## Flags written apart from the source -/

/-- The flags that a source can be given, each of which goes into the pattern. -/
def wireFlags : List Char := ['i', 'm', 's']

/-- Flags of other engines that have no effect on what matches. -/
def ignoredFlags : List Char := ['g', 'y', 'u', 'd']

/-- The flags to put before a source, each once and in the order given; the first letter that is
no flag is the error. -/
def inlineFlags : (read : List Char) → List Char → Except Char (List Char)
  | read, [] => .ok read
  | read, c :: rest =>
    if wireFlags.contains c then inlineFlags (if read.contains c then read else read ++ [c]) rest
    else if ignoredFlags.contains c then inlineFlags read rest
    else .error c

/-- The pattern of a source with flags. -/
def joinFlags (flags : List Char) (source : String) : String :=
  if flags.isEmpty then source else "(?" ++ String.ofList flags ++ ")" ++ source

/-- Splits a leading group of flags off a pattern, when it is one that a source can be given. -/
def splitFlags (pattern : String) : String × String :=
  match pattern.toList with
  | '(' :: '?' :: rest =>
    let flags := rest.takeWhile (· ≠ ')')
    match rest.dropWhile (· ≠ ')') with
    | _ :: source =>
      if !flags.isEmpty && flags.all wireFlags.contains then
        (String.ofList flags, String.ofList source)
      else ("", pattern)
    | [] => ("", pattern)
  | _ => ("", pattern)

end TwoWaySchema.Regex
