import TwoWaySchema.Yaml.Cursor
import TwoWaySchema.Yaml.Scalar

/-!
# Reading YAML scalars

A scalar is written plainly, between single or double quotes, or as a block of lines.  In the first
three a line feed, with the blanks around it, folds to a space, and further line breaks are kept.  A
literal block keeps its lines, and a folded one joins those that no blank begins.
-/

namespace TwoWaySchema.Yaml

/-- What stands between two pieces of a scalar: the text that it reads as, the last character
first, and whether it holds a line break. -/
structure Joint where
  text : List Char
  isBroken : Bool

namespace Joint

def empty : Joint := ⟨[], false⟩

def isEmpty (j : Joint) : Bool :=
  j.text.isEmpty && !j.isBroken

/-- Blanks around a line break do not count. -/
def blank (j : Joint) (c : Char) : Joint :=
  if j.isBroken then j else { j with text := c :: j.text }

/-- A line feed alone reads as a space, and as nothing where more line breaks follow. -/
def lineBreak (j : Joint) (c : Char) : Joint :=
  if !j.isBroken then ⟨[if c = '\n' then ' ' else c], true⟩
  else if j.text = [' '] then ⟨[c], true⟩
  else ⟨c :: j.text, true⟩

/-- A line break that stands for nothing. -/
def hiddenBreak : Joint := ⟨[], true⟩

/-- Puts what stands in between after what has been read, the last character first. -/
def after (j : Joint) (read : List Char) : List Char :=
  j.text ++ read

end Joint

/-! ## Plain scalars -/

def isFlowMark (c : Char) : Bool :=
  [',', '[', ']', '{', '}'].contains c

def startsPlain (inFlow : Bool) : List Char → Bool
  | [] => false
  | '-' :: rest => !startsBlank rest
  | '?' :: rest | ':' :: rest => !inFlow && !startsBlank rest
  | c :: rest => !startsBlank (c :: rest) && !isIndicator c

/-- Whether a plain scalar ends before this character. -/
def endsPlain (inFlow : Bool) : List Char → Bool
  | [] => true
  | ':' :: rest => startsBlank rest
  | c :: _ => inFlow && isFlowMark c

/-- Whether a colon stands here that neither belongs to a plain scalar nor ends it. -/
def isStrayColon (inFlow : Bool) : List Char → Bool
  | ':' :: c :: _ => inFlow && (isFlowMark c || c = '?')
  | _ => false

/-- Reads on in a plain scalar and over the blanks behind it.  Its further lines begin at column
`least` or later, which brackets do not demand but no tab may reach.  `read` is what has been read,
the last character first. -/
def readPlainFrom (inFlow : Bool) (least : Nat) (read : List Char) (joint : Joint)
    (line column : Nat) : List Char → Option (String × Cursor)
  | [] => some (String.ofList read.reverse, ⟨line, column, joint.isBroken, []⟩)
  | c :: rest =>
    let isOutside := joint.isBroken && column < least
    if isBreak c then readPlainFrom inFlow least read (joint.lineBreak c) (line + 1) 0 rest
    else if isBlank c then
      if isOutside && c = '\t' then none
      else readPlainFrom inFlow least read (joint.blank c) line (column + 1) rest
    else if (isOutside && !inFlow) || isDocumentMark column (c :: rest)
        || (c = '#' && !joint.isEmpty) || endsPlain inFlow (c :: rest) then
      some (String.ofList read.reverse, ⟨line, column, joint.isBroken, c :: rest⟩)
    else if isStrayColon inFlow (c :: rest) then none
    else readPlainFrom inFlow least (c :: joint.after read) .empty line (column + 1) rest

/-! ## Quoted scalars -/

/-- Reads on between single quotes, where two of them stand for one. -/
def readSingleQuotedFrom (read : List Char) (joint : Joint) (line column : Nat) :
    List Char → Option (String × Cursor)
  | [] => none
  | '\x27' :: '\x27' :: rest =>
    readSingleQuotedFrom ('\x27' :: joint.after read) .empty line (column + 2) rest
  | '\x27' :: rest =>
    some (String.ofList (joint.after read).reverse, ⟨line, column + 1, false, rest⟩)
  | c :: rest =>
    if isBreak c then readSingleQuotedFrom read (joint.lineBreak c) (line + 1) 0 rest
    else if isBlank c then readSingleQuotedFrom read (joint.blank c) line (column + 1) rest
    else if isDocumentMark column (c :: rest) then none
    else readSingleQuotedFrom (c :: joint.after read) .empty line (column + 1) rest

/-- The character that a backslash and this character stand for. -/
def escapedChar? : Char → Option Char
  | '0' => some '\x00'
  | 'a' => some '\x07'
  | 'b' => some '\x08'
  | 't' | '\t' => some '\t'
  | 'n' => some '\n'
  | 'v' => some '\x0b'
  | 'f' => some '\x0c'
  | 'r' => some '\r'
  | 'e' => some '\x1b'
  | ' ' => some ' '
  | '"' => some '"'
  | '/' => some '/'
  | '\\' => some '\\'
  | 'N' => some '\u0085'
  | '_' => some '\u00a0'
  | 'L' => some '\u2028'
  | 'P' => some '\u2029'
  | _ => none

/-- The character whose code these digits are. -/
def codedChar? (digits : List Char) : Option Char :=
  (Scalar.digits? 16 digits).bind fun code ↦
    if h : code.isValidChar then some (.ofNatAux code h) else none

/-- Reads on between double quotes, where a backslash escapes. -/
def readDoubleQuotedFrom (read : List Char) (joint : Joint) (line column : Nat) :
    List Char → Option (String × Cursor)
  | [] => none
  | '"' :: rest =>
    some (String.ofList (joint.after read).reverse, ⟨line, column + 1, false, rest⟩)
  | '\\' :: 'x' :: a :: b :: rest => do
    let c ← codedChar? [a, b]
    readDoubleQuotedFrom (c :: joint.after read) .empty line (column + 4) rest
  | '\\' :: 'u' :: a :: b :: c :: d :: rest => do
    let c ← codedChar? [a, b, c, d]
    readDoubleQuotedFrom (c :: joint.after read) .empty line (column + 6) rest
  | '\\' :: 'U' :: a :: b :: c :: d :: e :: f :: g :: h :: rest => do
    let c ← codedChar? [a, b, c, d, e, f, g, h]
    readDoubleQuotedFrom (c :: joint.after read) .empty line (column + 10) rest
  | '\\' :: c :: rest =>
    if isBreak c then readDoubleQuotedFrom (joint.after read) .hiddenBreak (line + 1) 0 rest
    else do
      let c ← escapedChar? c
      readDoubleQuotedFrom (c :: joint.after read) .empty line (column + 2) rest
  | c :: rest =>
    if isBreak c then readDoubleQuotedFrom read (joint.lineBreak c) (line + 1) 0 rest
    else if isBlank c then readDoubleQuotedFrom read (joint.blank c) line (column + 1) rest
    else if c = '\\' || isDocumentMark column (c :: rest) then none
    else readDoubleQuotedFrom (c :: joint.after read) .empty line (column + 1) rest

/-! ## Blocks -/

/-- What becomes of the line breaks at the end of a block. -/
inductive Chomping where
  | strip
  /-- One is kept. -/
  | clip
  | keep
deriving DecidableEq, Repr

/-- How the lines of a block are to be read: their indentation, if it is given, and what becomes of
the last line breaks. -/
structure BlockHeader where
  indent : Option Nat
  chomping : Chomping

def chomping? (c : Char) : Option Chomping :=
  if c = '-' then some .strip else if c = '+' then some .keep else none

def indentation? (c : Char) : Option Nat :=
  if '1' ≤ c && c ≤ '9' then some (Numeral.digitValue c) else none

/-- The header that stands behind the mark of a block: a digit for the indentation and a sign, in
either order. -/
def BlockHeader.ofMarks? : List Char → Option BlockHeader
  | [] => some ⟨none, .clip⟩
  | [c] =>
    match chomping? c with
    | some chomping => some ⟨none, chomping⟩
    | none => (indentation? c).map fun n ↦ ⟨some n, .clip⟩
  | [c, d] =>
    match chomping? c with
    | some chomping => (indentation? d).map fun n ↦ ⟨some n, chomping⟩
    | none => do return ⟨some (← indentation? c), ← chomping? d⟩
  | _ => none

/-- The indentation of a block that does not give it: the greatest column of its first line and the
blank lines before it, but not less than `least`.  A tab must not stand there. -/
def detectIndent? (least column : Nat) : List Char → Option Nat
  | [] => some (max least column)
  | c :: rest =>
    if c = ' ' then detectIndent? least (column + 1) rest
    else if isBreak c then detectIndent? (max least column) 0 rest
    else if c = '\t' then none
    else some (max least column)

/-- A block as far as it has been read. -/
structure Block where
  /-- What has been read, the last character first. -/
  read : List Char
  /-- The line break that ended the last line. -/
  lineEnd : Option Char
  /-- The line breaks of the blank lines that follow it, the last one first. -/
  blankLines : List Char
  /-- The last line begins with a blank. -/
  isIndented : Bool

namespace Block

def empty : Block := ⟨[], none, [], false⟩

/-- Begins a line with this character.  In a folded block a line feed between two lines that no
blank begins reads as a space, or as nothing before blank lines. -/
def beginLine (isFolded : Bool) (c : Char) (b : Block) : Block :=
  let isJoined := isFolded && b.lineEnd = some '\n' && !b.isIndented && !isBlank c
  let joint :=
    if !isJoined then b.blankLines ++ b.lineEnd.toList
    else if b.blankLines.isEmpty then [' ']
    else b.blankLines
  ⟨c :: (joint ++ b.read), none, [], isBlank c⟩

def text (chomping : Chomping) (b : Block) : String :=
  let ending :=
    match chomping with
    | .strip => []
    | .clip => b.lineEnd.toList
    | .keep => b.blankLines ++ b.lineEnd.toList
  String.ofList (ending ++ b.read).reverse

end Block

/-- Reads the lines of a block, up to the first one that is less indented.  `inLine` says that the
place lies past the indentation of its line. -/
def readBlockLines (isFolded : Bool) (indent : Nat) (b : Block) (inLine : Bool)
    (line column : Nat) : List Char → Option (Block × Cursor)
  | [] => some (b, ⟨line, column, true, []⟩)
  | c :: rest =>
    if isBreak c then
      let b := if inLine then { b with lineEnd := some c } else
        { b with blankLines := c :: b.blankLines }
      readBlockLines isFolded indent b false (line + 1) 0 rest
    else if inLine then
      readBlockLines isFolded indent { b with read := c :: b.read } true line (column + 1) rest
    else if indent ≤ column then
      readBlockLines isFolded indent (b.beginLine isFolded c) true line (column + 1) rest
    else if c = ' ' then readBlockLines isFolded indent b false line (column + 1) rest
    else if c = '\t' then none
    else some (b, ⟨line, column, true, c :: rest⟩)

/-- Reads a block after its mark.  Its lines are indented to column `least` or further. -/
def readBlock (isFolded : Bool) (least line : Nat) (text : List Char) :
    Option (String × Cursor) := do
  let isHeader (c : Char) : Bool := c = '+' || c = '-' || c.isDigit
  let header ← BlockHeader.ofMarks? (text.takeWhile isHeader)
  let rest := (text.dropWhile isHeader).dropWhile isBlank
  let lines ←
    match rest with
    | [] => some []
    | '#' :: rest => some ((rest.dropWhile (!isBreak ·)).drop 1)
    | c :: rest => if isBreak c then some rest else none
  let indent ←
    match header.indent with
    | some n => some (least - 1 + n)
    | none => detectIndent? (max 1 least) 0 lines
  let (b, c) ← readBlockLines isFolded indent .empty false (line + 1) 0 lines
  return (b.text header.chomping, c)

end TwoWaySchema.Yaml
