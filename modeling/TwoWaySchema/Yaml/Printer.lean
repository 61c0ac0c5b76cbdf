import TwoWaySchema.Json.Printer
import TwoWaySchema.Yaml.LineBreak
import TwoWaySchema.Yaml.Scalar

/-!
# YAML text

Documents are written in block style.  Entries under a key are indented by two spaces, except those
of a sequence, which stand at the column of the key; empty collections are written as a pair of
brackets.  A key that is long or takes up several lines has a mark of its own, and its value
another.  A string stands plainly where it then reads as itself, otherwise between single quotes
or, if it holds characters that only escapes can write, between double quotes.  A string with line
feeds is written as a block.
-/

namespace TwoWaySchema.Yaml

/-! ## Strings -/

/-- The characters that need no escape. -/
def isPrintable (c : Char) : Bool :=
  let code := c.toNat
  c = '\n' || (0x20 ≤ code && code ≤ 0x7E) || (0xA0 ≤ code && code ≤ 0xFFFD && code ≠ 0xFEFF)
    || 0x10000 ≤ code

/-- Whether a mark inside a text would end a plain scalar: a colon before a blank, or a number sign
after one. -/
def hasInnerMark (afterBlank : Bool) : List Char → Bool
  | [] => false
  | c :: rest =>
    (c = ':' && startsBlank rest) || (c = '#' && afterBlank) || hasInnerMark (startsBlank [c]) rest

def hasMark (text : List Char) : Bool :=
  match text with
  | [] => false
  | c :: rest =>
    isIndicator c || (['?', ':', '-'].contains c && startsBlank rest)
      || hasInnerMark (startsBlank [c]) rest
      || text.take 3 = ['-', '-', '-'] || text.take 3 = ['.', '.', '.']

/-- Whether two neighbours satisfy these. -/
def hasNeighbours (first second : Char → Bool) : List Char → Bool
  | c :: d :: rest => (first c && second d) || hasNeighbours first second (d :: rest)
  | _ => false

def isSpace (c : Char) : Bool :=
  c = ' '

/-- Whether a text holds what only an escape writes: an unprintable character, or a space at the
end of a line. -/
def needsEscape (text : List Char) : Bool :=
  text.any (!isPrintable ·) || hasNeighbours isSpace isBreak text

def allowsPlain (text : List Char) : Bool :=
  let ends := text.head?.toList ++ text.getLast?.toList
  !needsEscape text && !text.any isBreak && !ends.any isSpace && !hasMark text

def allowsSingleQuotes (text : List Char) : Bool :=
  !needsEscape text && !hasNeighbours isBreak isSpace text

def allowsBlock (text : List Char) : Bool :=
  !needsEscape text && !text.isEmpty && text.getLast? ≠ some ' '

/-- Whether a text without quotes reads as a string, also for readers that take digits after a zero
for a number. -/
def readsAsString (text : String) : Bool :=
  match Scalar.plainTranscript text with
  | .string _ => !Scalar.isPadded (Numeral.takeSign text.toList).2
  | _ => false

def upperHexDigits (width n : Nat) : List Char :=
  (hexDigits width n).map Char.toUpper

def escape (c : Char) : List Char :=
  let code := c.toNat
  let letter (d : Char) : List Char := ['\\', d]
  match c with
  | '\x00' => letter '0'
  | '\x07' => letter 'a'
  | '\x08' => letter 'b'
  | '\t' => letter 't'
  | '\n' => letter 'n'
  | '\x0b' => letter 'v'
  | '\x0c' => letter 'f'
  | '\r' => letter 'r'
  | '\x1b' => letter 'e'
  | '"' => letter '"'
  | '\\' => letter '\\'
  | '\u0085' => letter 'N'
  | '\u2028' => letter 'L'
  | '\u2029' => letter 'P'
  | c =>
    if isPrintable c then [c]
    else if code ≤ 0xFF then letter 'x' ++ upperHexDigits 2 code
    else if code ≤ 0xFFFF then letter 'u' ++ upperHexDigits 4 code
    else letter 'U' ++ upperHexDigits 8 code

def doubleQuoted (text : List Char) : List Char :=
  '"' :: text.flatMap escape ++ ['"']

def singleQuoted (text : List Char) : List Char :=
  '\x27' :: text.flatMap (fun c ↦ if c = '\x27' then [c, c] else [c]) ++ ['\x27']

/-! ## Lines -/

/-- A line and the character that ends it. -/
structure Line where
  text : List Char
  ending : Char
deriving Repr

namespace Line

/-- A line that a line feed ends. -/
def ofChars (text : List Char) : Line :=
  ⟨text, '\n'⟩

def before (mark : List Char) (line : Line) : Line :=
  { line with text := mark ++ line.text }

/-- An empty line is not indented. -/
def indent (line : Line) : Line :=
  if line.text.isEmpty then line else line.before [' ', ' ']

/-- The lines of a text.  A line break at its end begins no further line. -/
def split : List Char → List Line
  | [] => []
  | c :: rest =>
    if isBreak c then ⟨[], c⟩ :: split rest
    else
      match split rest with
      | [] => [ofChars [c]]
      | line :: lines => line.before [c] :: lines

/-- Hangs lines below their first one, which stands after a mark. -/
def hang (mark : String) : List Line → List Line
  | [] => [ofChars mark.toList]
  | first :: rest => first.before mark.toList :: rest.map indent

end Line

/-- What stands behind the mark of a block: the indentation if the first line cannot show it, and
what becomes of the line breaks at the end. -/
def blockHints (text : List Char) : List Char :=
  let indentation := if text.head?.any fun c ↦ isSpace c || isBreak c then ['2'] else []
  let chomping :=
    match text.reverse with
    | [] => ['-']
    | [c] => [if isBreak c then '+' else '-']
    | c :: d :: _ => if !isBreak c then ['-'] else if isBreak d then ['+'] else []
  indentation ++ chomping

/-- The lines of a string.  Where it has line feeds these are the mark of a block and its lines. -/
def stringLines (s : String) : List Line :=
  let text := s.toList
  if text.contains '\n' then
    if allowsBlock text then .ofChars ('|' :: blockHints text) :: Line.split text
    else [.ofChars (doubleQuoted text)]
  else if readsAsString s && allowsPlain text then [.ofChars text]
  else if allowsSingleQuotes text then Line.split (singleQuoted text)
  else [.ofChars (doubleQuoted text)]

/-! ## Documents -/

/-- A number as in JSON, but without a sign before a positive exponent. -/
def numberText (n : Number) : List Char :=
  n.text.toList.filter (· ≠ '+')

/-- The longest key without a mark of its own, in bytes. -/
def simpleKeyLimit : Nat := 128

/-- Whether a key needs no mark of its own. -/
def isSimpleKey (key : String) : Bool :=
  !key.toList.any isBreak && key.utf8ByteSize ≤ simpleKeyLimit

/-- Puts the lines of a document behind its key or under it. -/
def underKey (key : String) (d : Document) (lines : List Line) : List Line :=
  if isSimpleKey key then
    let keyText := (stringLines key).flatMap Line.text
    match d with
    | .array (_ :: _) => .ofChars (keyText ++ [':']) :: lines
    | .object (_ :: _) => .ofChars (keyText ++ [':']) :: lines.map Line.indent
    | _ => Line.hang (String.ofList keyText ++ ": ") lines
  else Line.hang "? " (stringLines key) ++ Line.hang ": " lines

mutual

/-- The lines of a document. -/
def lines : Document → List Line
  | .null => [.ofChars "null".toList]
  | .bool b => [.ofChars (if b then "true" else "false").toList]
  | .number n => [.ofChars (numberText n)]
  | .string s => stringLines s
  | .array [] => [.ofChars "[]".toList]
  | .array (first :: rest) => Line.hang "- " (lines first) ++ itemLines rest
  | .object [] => [.ofChars "\x7b\x7d".toList]
  | .object ((key, first) :: rest) => underKey key first (lines first) ++ memberLines rest

def itemLines : List Document → List Line
  | [] => []
  | item :: rest => Line.hang "- " (lines item) ++ itemLines rest

def memberLines : List (String × Document) → List Line
  | [] => []
  | (key, item) :: rest => underKey key item (lines item) ++ memberLines rest

end

end TwoWaySchema.Yaml

/-- The text of a document, every line of it ended. -/
def TwoWaySchema.Document.yamlText (d : Document) : String :=
  String.ofList ((Yaml.lines d).flatMap fun line ↦ line.text ++ [line.ending])
