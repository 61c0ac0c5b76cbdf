import TwoWaySchema.Json.Printer
import TwoWaySchema.Text.Invisible

/-!
# Quoted text in messages

A message quotes text so that nothing in it can be mistaken or overlooked: the quote and the
backslash are escaped, and so is every character without a visible form of its own.
-/

namespace TwoWaySchema.Text

/-- A character inside quotes of the kind `mark`; the other kind of quote stays as it is. -/
def quotedChar (mark : Char) (c : Char) : List Char :=
  if c = mark || c = '\\' then ['\\', c]
  else
    match c with
    | '\x00' => ['\\', '0']
    | '\t' => ['\\', 't']
    | '\r' => ['\\', 'r']
    | '\n' => ['\\', 'n']
    | _ =>
      if isInvisible c then ['\\', 'u', '{'] ++ hexDigits 1 c.toNat ++ ['}'] else [c]

def quote (s : String) : String :=
  String.ofList ('"' :: s.toList.flatMap (quotedChar '"') ++ ['"'])

def quoteChar (c : Char) : String :=
  String.ofList ('\x27' :: quotedChar '\x27' c ++ ['\x27'])

end TwoWaySchema.Text
