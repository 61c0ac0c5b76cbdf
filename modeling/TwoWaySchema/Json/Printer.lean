import TwoWaySchema.Double.Text
import TwoWaySchema.Json.Document

/-!
# JSON text

Documents are written compactly, or over several lines with two spaces for each level.  Strings
escape the quote, the backslash and the control characters below the space, and nothing else.
-/

namespace TwoWaySchema

/-- The digits of a natural number in base sixteen, at least `width` of them. -/
def hexDigits (width n : Nat) : List Char :=
  let digits := Nat.toDigits 16 n
  List.replicate (width - digits.length) '0' ++ digits

namespace Json

def escapeChar (c : Char) : List Char :=
  match c with
  | '"' => ['\\', '"']
  | '\\' => ['\\', '\\']
  | '\n' => ['\\', 'n']
  | '\r' => ['\\', 'r']
  | '\t' => ['\\', 't']
  | '\x08' => ['\\', 'b']
  | '\x0c' => ['\\', 'f']
  | c => if c.toNat < 0x20 then '\\' :: 'u' :: hexDigits 4 c.toNat else [c]

def quote (s : String) : String :=
  String.ofList ('"' :: s.toList.flatMap escapeChar ++ ['"'])

end Json

def Number.text : Number → String
  | whole n _ => toString n
  | real x _ => x.numberText

namespace Document

mutual

def compactText : Document → String
  | null => "null"
  | bool b => if b then "true" else "false"
  | number n => n.text
  | string s => Json.quote s
  | array items => "[" ++ ",".intercalate (compactItems items) ++ "]"
  | object members => "\x7b" ++ ",".intercalate (compactMembers members) ++ "\x7d"

def compactItems : List Document → List String
  | [] => []
  | item :: rest => compactText item :: compactItems rest

def compactMembers : List (String × Document) → List String
  | [] => []
  | (key, item) :: rest => (Json.quote key ++ ":" ++ compactText item) :: compactMembers rest

end

/-- Puts each line between the brackets on a line of its own. -/
def block (opening closing : String) (indent : String) (lines : List String) : String :=
  if lines.isEmpty then opening ++ closing
  else
    opening ++ "\n" ++ ",\n".intercalate (lines.map (indent ++ "  " ++ ·)) ++ "\n" ++ indent
      ++ closing

mutual

/-- The text over several lines; `indent` is what stands before each further line. -/
def prettyText (indent : String) : Document → String
  | null => "null"
  | bool b => if b then "true" else "false"
  | number n => n.text
  | string s => Json.quote s
  | array items => block "[" "]" indent (prettyItems (indent ++ "  ") items)
  | object members => block "\x7b" "\x7d" indent (prettyMembers (indent ++ "  ") members)

def prettyItems (indent : String) : List Document → List String
  | [] => []
  | item :: rest => prettyText indent item :: prettyItems indent rest

def prettyMembers (indent : String) : List (String × Document) → List String
  | [] => []
  | (key, item) :: rest =>
    (Json.quote key ++ ": " ++ prettyText indent item) :: prettyMembers indent rest

end

end Document

/-- The compact text of a value. -/
def Json.text (x : Json) : String :=
  (Document.ofValue x).compactText

end TwoWaySchema
