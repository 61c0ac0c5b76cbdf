import TwoWaySchema.Numeral
import TwoWaySchema.Regex.Node
import TwoWaySchema.Text.Letter

/-!
# Reading patterns

A pattern is alternatives of pieces; a piece is a character, a class, an anchor or a group, and may
be repeated.  A group of flags alone holds to the end of the group around it.  A flag may stand
only once in its group, and there is no reference back and no look around.  Groups, repetitions and
classes nest up to a limit, for which each of them counts, and so do several alternatives or pieces.
This is a part of what larger engines read: classes of characters by their Unicode properties, lines
that end in carriage returns and matching by bytes are unknown here, and patterns with them are not
read.
-/

namespace TwoWaySchema.Regex

structure Flags where
  ignoreCase : Bool := false
  multiLine : Bool := false
  dotAll : Bool := false
  verbose : Bool := false
deriving DecidableEq, Repr

/-! ## Blanks -/

/-- Skips blanks and comments, which a verbose pattern may hold between its parts. -/
def skipVerbose (verbose : Bool) (text : List Char) : List Char :=
  if verbose then skip false text else text
where
  skip (inComment : Bool) : List Char → List Char
    | [] => []
    | c :: rest =>
      if inComment then skip (c ≠ '\n') rest
      else if Text.isBlank c then skip false rest
      else if c = '#' then skip true rest
      else c :: rest

/-- The next character that counts for a hyphen before this text. -/
def peekVerbose (verbose : Bool) (text : List Char) : Option Char :=
  if verbose then
    match text.dropWhile Text.isBlank with
    | '#' :: rest => (rest.dropWhile Text.isBlank).head?
    | rest => rest.head?
  else text.head?

/-! ## Flags and groups -/

/-- The flags that can be switched on.  The greed of repetitions, `U`, and Unicode, `u`, have no
effect on which texts match. -/
def flagLetters : List Char := ['i', 'm', 's', 'U', 'u', 'x']

/-- The flags that can be switched off; without Unicode a pattern would be about bytes. -/
def offLetters : List Char := ['i', 'm', 's', 'U', 'x']

def Flags.set (flags : Flags) (letter : Char) (on : Bool) : Flags :=
  match letter with
  | 'i' => { flags with ignoreCase := on }
  | 'm' => { flags with multiLine := on }
  | 's' => { flags with dotAll := on }
  | 'x' => { flags with verbose := on }
  | _ => flags

inductive GroupHead where
  /-- Flags for the rest of the group that they stand in. -/
  | setFlags (flags : Flags)
  /-- A group that only holds its body together, with its flags. -/
  | plain (flags : Flags)
  /-- A group of its own, with the name given to it. -/
  | own (name : Option (List Char))

/-- Reads flags up to `)` or `:`.  `seen` holds the letters so far, and `on` turns false after the
minus sign. -/
def readFlags (flags : Flags) (seen : List Char) (on : Bool) (afterMinus : Bool) :
    List Char → Option (GroupHead × List Char)
  | [] => none
  | ')' :: rest => if seen.isEmpty || afterMinus then none else some (.setFlags flags, rest)
  | ':' :: rest => if afterMinus then none else some (.plain flags, rest)
  | '-' :: rest => if on then readFlags flags seen false true rest else none
  | c :: rest =>
    if (if on then flagLetters else offLetters).contains c && !seen.contains c then
      readFlags (flags.set c on) (c :: seen) on false rest
    else none

def isNameStart (c : Char) : Bool :=
  c = '_' || Text.isLetter c

def isNameChar (c : Char) : Bool :=
  c = '_' || c = '.' || c = '[' || c = ']' || Text.isLetterOrNumeral c

/-- Reads the name of a group up to `>`. -/
def readName (text : List Char) : Option (GroupHead × List Char) :=
  let name := text.takeWhile (· ≠ '>')
  match name, text.dropWhile (· ≠ '>') with
  | first :: others, _ :: rest =>
    if isNameStart first && others.all isNameChar then some (.own (some name), rest) else none
  | _, _ => none

/-- Reads what follows an opening parenthesis before the body of the group. -/
def readGroupHead (flags : Flags) (text : List Char) : Option (GroupHead × List Char) :=
  match skipVerbose flags.verbose text with
  | '?' :: 'P' :: '<' :: rest => readName rest
  | '?' :: '<' :: rest => readName rest
  | '?' :: rest => readFlags flags [] true false rest
  | rest => some (.own none, rest)

/-! ## Escapes -/

inductive Escape where
  | char (c : Char)
  | chars (s : CharSet)
  | anchor (a : Anchor)

def hexChar? (digits : List Char) : Option Char :=
  let code := Numeral.natOfDigits 16 digits
  if !digits.isEmpty && digits.all Numeral.isHexDigit && code.isValidChar then
    some (.ofNat code)
  else none

/-- Reads the digits of a code up to a closing brace. -/
def readBracedDigits (verbose : Bool) :
    (fuel : Nat) → (digits : List Char) → List Char → Option (List Char × List Char)
  | 0, _, _ => none
  | fuel + 1, digits, text =>
    match skipVerbose verbose text with
    | [] => none
    | '}' :: rest => some (digits.reverse, rest)
    | c :: rest => readBracedDigits verbose fuel (c :: digits) rest

/-- Reads this many digits of a code. -/
def readDigits (verbose : Bool) :
    (width : Nat) → (digits : List Char) → List Char → Option (List Char × List Char)
  | 0, digits, text => some (digits.reverse, text)
  | width + 1, digits, text =>
    match skipVerbose verbose text with
    | [] => none
    | c :: rest => readDigits verbose width (c :: digits) rest

/-- Reads the code of a character, either in braces or exactly `width` digits. -/
def readHexEscape (verbose : Bool) (width : Nat) (text : List Char) :
    Option (Escape × List Char) := do
  let (digits, rest) ←
    match skipVerbose verbose text with
    | '{' :: rest => readBracedDigits verbose (rest.length + 1) [] rest
    | text => readDigits verbose width [] text
  return (.char (← hexChar? digits), skipVerbose verbose rest)

def isBoundaryChar (c : Char) : Bool :=
  c = '-' || c.isAlpha

/-- Reads the letters of a boundary's name. -/
def readBoundaryName (verbose : Bool) :
    (fuel : Nat) → (name : List Char) → List Char → List Char × List Char
  | 0, name, text => (name.reverse, text)
  | _, name, [] => (name.reverse, [])
  | fuel + 1, name, c :: rest =>
    if isBoundaryChar c then readBoundaryName verbose fuel (c :: name) (skipVerbose verbose rest)
    else (name.reverse, c :: rest)

/-- Reads what follows `\b`: a name in braces makes it a boundary of a certain kind, and braces with
anything else are a repetition. -/
def readBoundary (verbose : Bool) (text : List Char) : Option (Escape × List Char) :=
  let plain : Option (Escape × List Char) := some (.anchor (.wordBoundary false), text)
  match text with
  | '{' :: rest =>
    match skipVerbose verbose rest with
    | [] => none
    | c :: rest =>
      if isBoundaryChar c then
        match readBoundaryName verbose (rest.length + 2) [] (c :: rest) with
        | (name, '}' :: rest) =>
          match String.ofList name with
          | "start" => some (.anchor .wordStart, rest)
          | "end" => some (.anchor .wordEnd, rest)
          | "start-half" => some (.anchor .wordStartHalf, rest)
          | "end-half" => some (.anchor .wordEndHalf, rest)
          | _ => none
        | _ => none
      else plain
  | _ => plain

/-- Reads what follows a backslash. -/
def readEscape (verbose : Bool) : List Char → Option (Escape × List Char)
  | [] => none
  | c :: rest =>
    match c with
    | 'd' => some (.chars .digit, rest)
    | 'D' => some (.chars (.complement .digit), rest)
    | 'w' => some (.chars .word, rest)
    | 'W' => some (.chars (.complement .word), rest)
    | 's' => some (.chars .blank, rest)
    | 'S' => some (.chars (.complement .blank), rest)
    | 'A' => some (.anchor .textStart, rest)
    | 'z' => some (.anchor .textEnd, rest)
    | 'b' => readBoundary verbose rest
    | 'B' => some (.anchor (.wordBoundary true), rest)
    | '<' => some (.anchor .wordStart, rest)
    | '>' => some (.anchor .wordEnd, rest)
    | 'a' => some (.char '\x07', rest)
    | 'f' => some (.char '\x0c', rest)
    | 'n' => some (.char '\n', rest)
    | 'r' => some (.char '\r', rest)
    | 't' => some (.char '\t', rest)
    | 'v' => some (.char '\x0b', rest)
    | 'x' => readHexEscape verbose 2 rest
    | 'u' => readHexEscape verbose 4 rest
    | 'U' => readHexEscape verbose 8 rest
    | c => if c.toNat < 0x80 && !c.isAlphanum then some (.char c, rest) else none

/-! ## Classes -/

/-- A set of characters and how deep it nests as it is written. -/
structure ClassPart where
  set : CharSet
  depth : Nat

/-- The members of a class that stand side by side. -/
def ClassPart.ofMembers : List ClassPart → ClassPart
  | [] => ⟨.nothing, 0⟩
  | [part] => part
  | parts => ⟨.ofList (parts.map (·.set)), (parts.map (·.depth)).foldl max 0 + 1⟩

inductive ClassOperation where
  | inter | diff | symmDiff

/-- What has been read of a class: the operation under way with what is to its left, and the
members after it, the last first. -/
structure ClassProgress where
  negated : Bool
  left : Option (ClassOperation × ClassPart)
  members : List ClassPart

namespace ClassProgress

def push (p : ClassProgress) (part : ClassPart) : ClassProgress :=
  { p with members := part :: p.members }

def part (p : ClassProgress) : ClassPart :=
  let right := ClassPart.ofMembers p.members.reverse
  match p.left with
  | none => right
  | some (operation, left) =>
    let set :=
      match operation with
      | .inter => CharSet.inter left.set right.set
      | .diff => .diff left.set right.set
      | .symmDiff => .symmDiff left.set right.set
    ⟨set, max left.depth right.depth + 1⟩

def operate (p : ClassProgress) (operation : ClassOperation) : ClassProgress :=
  { p with left := some (operation, p.part), members := [] }

/-- The class as a whole, between its brackets. -/
def whole (p : ClassProgress) : ClassPart :=
  ⟨if p.negated then .complement p.part.set else p.part.set, p.part.depth + 1⟩

end ClassProgress

/-- Reads one member of a class, which may be the start of a range. -/
def readClassItem (verbose : Bool) : List Char → Option (Except CharSet Char × List Char)
  | '\\' :: rest =>
    match readEscape verbose rest with
    | some (.char c, rest) => some (.ok c, rest)
    | some (.chars s, rest) => some (.error s, rest)
    | _ => none
  | c :: rest => some (.ok c, rest)
  | [] => none

def ClassPart.ofItem : Except CharSet Char → ClassPart
  | .ok c => ⟨.single c, 0⟩
  | .error s => ⟨s, 0⟩

/-- Reads a member or a range.  A hyphen before the closing bracket or another hyphen makes no
range. -/
def readClassRange (verbose : Bool) (text : List Char) : Option (ClassPart × List Char) := do
  let (first, rest) ← readClassItem verbose text
  match skipVerbose verbose rest with
  | [] => none
  | '-' :: rest =>
    let next := peekVerbose verbose rest
    if next = some ']' || next = some '-' then return (.ofItem first, '-' :: rest)
    else
      match first, ← readClassItem verbose (skipVerbose verbose rest) with
      | .ok a, (.ok b, rest) => if a ≤ b then return (⟨.range a b, 0⟩, rest) else none
      | _, _ => none
  | rest => return (.ofItem first, rest)

/-- Reads the name of a class of ASCII after its opening bracket and colon. -/
def readNamedClass (text : List Char) : Option (ClassPart × List Char) := do
  let (negated, text) :=
    match text with
    | '^' :: rest => (true, rest)
    | _ => (false, text)
  let set ← CharSet.named? (String.ofList (text.takeWhile (· ≠ ':')))
  match text.dropWhile (· ≠ ':') with
  | ':' :: ']' :: rest => return (⟨if negated then .complement set else set, 0⟩, rest)
  | _ => none

/-- Reads hyphens, which stand for themselves where a class begins. -/
def readHyphens (verbose : Bool) : (fuel : Nat) → ClassProgress → List Char →
    ClassProgress × List Char
  | 0, p, text => (p, text)
  | fuel + 1, p, text =>
    match text with
    | '-' :: rest => readHyphens verbose fuel (p.push ⟨.single '-', 0⟩) (skipVerbose verbose rest)
    | text => (p, text)

/-- Reads the beginning of a class after its bracket: a caret, hyphens, or else a closing bracket
that stands for itself. -/
def readClassStart (verbose : Bool) (text : List Char) : ClassProgress × List Char :=
  let text := skipVerbose verbose text
  let (negated, text) :=
    match text with
    | '^' :: rest => (true, skipVerbose verbose rest)
    | _ => (false, text)
  match readHyphens verbose text.length ⟨negated, none, []⟩ text with
  | (p, ']' :: rest) =>
    if p.members.isEmpty then (p.push ⟨.single ']', 0⟩, rest) else (p, ']' :: rest)
  | (p, text) => (p, text)

/-- Reads on in a class up to its closing bracket; `outer` are the classes around it. -/
def readClassFrom (verbose : Bool) :
    (fuel : Nat) → (outer : List ClassProgress) → ClassProgress → List Char →
      Option (ClassPart × List Char)
  | 0, _, _, _ => none
  | fuel + 1, outer, p, text =>
    match skipVerbose verbose text with
    | [] => none
    | '[' :: rest =>
      let named :=
        match rest with
        | ':' :: rest => readNamedClass rest
        | _ => none
      match named with
      | some (part, rest) => readClassFrom verbose fuel outer (p.push part) rest
      | none =>
        let (inner, rest) := readClassStart verbose rest
        readClassFrom verbose fuel (p :: outer) inner rest
    | ']' :: rest =>
      match outer with
      | [] => some (p.whole, rest)
      | around :: outer => readClassFrom verbose fuel outer (around.push p.whole) rest
    | '&' :: '&' :: rest => readClassFrom verbose fuel outer (p.operate .inter) rest
    | '-' :: '-' :: rest => readClassFrom verbose fuel outer (p.operate .diff) rest
    | '~' :: '~' :: rest => readClassFrom verbose fuel outer (p.operate .symmDiff) rest
    | text =>
      match readClassRange verbose text with
      | none => none
      | some (part, rest) => readClassFrom verbose fuel outer (p.push part) rest

/-- Reads a class after its opening bracket. -/
def readClass (verbose : Bool) (text : List Char) : Option (ClassPart × List Char) :=
  let (p, text) := readClassStart verbose text
  readClassFrom verbose (text.length + 1) [] p text

/-! ## Repetition -/

/-- Reads the digits of a number, which in a verbose pattern may stand apart. -/
def readCountDigits (verbose : Bool) :
    (fuel : Nat) → (digits : List Char) → List Char → List Char × List Char
  | 0, digits, text => (digits.reverse, text)
  | _, digits, [] => (digits.reverse, [])
  | fuel + 1, digits, c :: rest =>
    if c.isDigit then readCountDigits verbose fuel (c :: digits) (skipVerbose verbose rest)
    else (digits.reverse, c :: rest)

/-- Reads a decimal number with blanks allowed around it. -/
def readCount (verbose : Bool) (text : List Char) : Option Nat × List Char :=
  let text := text.dropWhile Text.isBlank
  let (digits, rest) := readCountDigits verbose text.length [] text
  let rest :=
    match rest with
    | c :: _ => if Text.isBlank c then skipVerbose verbose (rest.dropWhile Text.isBlank) else rest
    | [] => []
  (if digits.isEmpty then none else some (Numeral.natOfDigits 10 digits), rest)

/-- Reads the bounds of a repetition after the opening brace. -/
def readBounds (verbose : Bool) (text : List Char) : Option (Nat × Option Nat × List Char) :=
  let bounded (least : Nat) (most : Option Nat) (rest : List Char) :=
    let ordered := most.all fun most ↦ least ≤ most && most < 4294967296
    if ordered && least < 4294967296 then some (least, most, skipVerbose verbose rest) else none
  match readCount verbose (skipVerbose verbose text) with
  | (some least, '}' :: rest) => bounded least (some least) rest
  | (some least, ',' :: rest) =>
    match skipVerbose verbose rest with
    | '}' :: rest => bounded least none rest
    | rest =>
      match readCount verbose rest with
      | (some most, '}' :: rest) => bounded least (some most) rest
      | _ => none
  | _ => none

/-- Reads a repetition and the mark that makes it lazy, which the set of matches does not show. -/
def readRepetition (verbose : Bool) (text : List Char) : Option (Nat × Option Nat × List Char) :=
  let bounds :=
    match text with
    | '*' :: rest => some (0, none, rest)
    | '+' :: rest => some (1, none, rest)
    | '?' :: rest => some (0, some 1, rest)
    | '{' :: rest => readBounds verbose rest
    | _ => none
  bounds.map fun (least, most, rest) ↦
    match rest with
    | '?' :: rest => (least, most, rest)
    | _ => (least, most, rest)

/-! ## Patterns -/

/-- A part of a pattern and how deep it nests as it is written.  One without a node is a change of
flags, which cannot be repeated. -/
structure Piece where
  node : Option Node
  depth : Nat

/-- How deep a list nests, the parts of which nest this deep. -/
def listDepth : List Nat → Nat
  | [] => 0
  | [depth] => depth
  | depths => depths.foldl max 0 + 1

/-- A node and how deep it nests as it is written. -/
structure Alternative where
  node : Node
  depth : Nat

/-- What has been read of a group: the alternatives before the current one and the pieces of that
one, the last first. -/
structure Progress where
  flags : Flags
  names : List (List Char)
  alternatives : List Alternative
  pieces : List Piece

namespace Progress

def alternative (p : Progress) : Alternative :=
  ⟨p.pieces.foldl (fun node piece ↦
      match piece.node, node with
      | none, node => node
      | some piece, .empty => piece
      | some piece, node => .seq piece node) .empty,
    listDepth (p.pieces.map (·.depth))⟩

def body (p : Progress) : Alternative :=
  let last := p.alternative
  ⟨p.alternatives.foldl (fun node other ↦ .either other.node node) last.node,
    listDepth ((last :: p.alternatives).map (·.depth))⟩

def push (p : Progress) (node : Node) (depth : Nat) : Progress :=
  { p with pieces := ⟨some node, depth⟩ :: p.pieces }

end Progress

/-- Reads one piece that is neither a group nor a repetition. -/
def readPiece (flags : Flags) : List Char → Option (Alternative × List Char)
  | [] => none
  | '.' :: rest => some (⟨.one false (.dot flags.dotAll), 0⟩, rest)
  | '^' :: rest => some (⟨.anchor (if flags.multiLine then .lineStart else .textStart), 0⟩, rest)
  | '$' :: rest => some (⟨.anchor (if flags.multiLine then .lineEnd else .textEnd), 0⟩, rest)
  | '[' :: rest =>
    (readClass flags.verbose rest).map fun (part, rest) ↦
      (⟨.one flags.ignoreCase part.set, part.depth⟩, rest)
  | '\\' :: rest =>
    match readEscape flags.verbose rest with
    | some (.char c, rest) => some (⟨.one flags.ignoreCase (.single c), 0⟩, rest)
    | some (.chars s, rest) => some (⟨.one false s, 0⟩, rest)
    | some (.anchor a, rest) => some (⟨.anchor a, 0⟩, rest)
    | none => none
  | c :: rest => some (⟨.one flags.ignoreCase (.single c), 0⟩, rest)

/-- Reads a group's body up to its closing parenthesis, or to the end of the pattern. -/
def readBody : (fuel : Nat) → Progress → List Char → Option (Progress × List Char)
  | 0, _, _ => none
  | fuel + 1, p, text =>
    match skipVerbose p.flags.verbose text with
    | [] => some (p, [])
    | ')' :: rest => some (p, ')' :: rest)
    | '|' :: rest =>
      readBody fuel { p with alternatives := p.alternative :: p.alternatives, pieces := [] } rest
    | '(' :: rest =>
      match readGroupHead p.flags rest with
      | none => none
      | some (.setFlags flags, rest) =>
        readBody fuel { p with flags := flags, pieces := ⟨none, 0⟩ :: p.pieces } rest
      | some (.plain flags, rest) =>
        match readBody fuel ⟨flags, p.names, [], []⟩ rest with
        | some (inner, ')' :: rest) =>
          let body := inner.body
          readBody fuel ({ p with names := inner.names }.push body.node (body.depth + 1)) rest
        | _ => none
      | some (.own name, rest) =>
        if name.any p.names.contains then none
        else
          match readBody fuel ⟨p.flags, name.toList ++ p.names, [], []⟩ rest with
          | some (inner, ')' :: rest) =>
            let body := inner.body
            readBody fuel
              ({ p with names := inner.names }.push (.group body.node) (body.depth + 1)) rest
          | _ => none
    | c :: rest =>
      if c = '*' || c = '+' || c = '?' || c = '{' then
        match readRepetition p.flags.verbose (c :: rest), p.pieces with
        | some (least, most, rest), ⟨some node, depth⟩ :: pieces =>
          readBody fuel ({ p with pieces := pieces }.push (.repeated node least most) (depth + 1))
            rest
        | _, _ => none
      else
        match readPiece p.flags (c :: rest) with
        | some (piece, rest) => readBody fuel (p.push piece.node piece.depth) rest
        | none => none

/-- How deep a pattern may nest. -/
def nestingLimit : Nat := 250

/-- The node of a pattern, if the pattern is one. -/
def Node.ofPattern? (pattern : String) : Option Node :=
  let text := pattern.toList
  match readBody (text.length + 1) ⟨⟨false, false, false, false⟩, [], [], []⟩ text with
  | some (p, []) => if p.body.depth ≤ nestingLimit then some p.body.node else none
  | _ => none

end TwoWaySchema.Regex
