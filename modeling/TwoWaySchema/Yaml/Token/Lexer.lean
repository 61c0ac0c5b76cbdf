import TwoWaySchema.Yaml.Scalar.Reader
import TwoWaySchema.Yaml.Token

/-!
# Reading YAML tokens

The lexer goes through a text from left to right and knows at which columns the open blocks stand.
A key is written without a mark of its own, so the lexer remembers where one may have begun; when
it meets a colon it puts the tokens of the key, and of the block that begins with it, before what
stands there.
-/

namespace TwoWaySchema.Yaml

/-- A place where a key may have begun. -/
structure KeyPlace where
  line : Nat
  column : Nat
  /-- How many bytes on the line come before it, from the first token of the line on. -/
  offset : Nat
  /-- How many tokens come before it. -/
  position : Nat
  /-- Nothing but a key can stand here, at the column of a block. -/
  isRequired : Bool

/-- How many bytes a key without a mark may take up, the blanks before the colon included. -/
def keySizeLimit : Nat := 1024

structure Lexer where
  cursor : Cursor
  /-- The place of the last token. -/
  last : Cursor
  /-- How many bytes on the line come before the last token, from the first token of the line on. -/
  offset : Nat
  tokens : Array Token
  /-- The open blocks, the innermost first, each by the column after the one at which it stands. -/
  blocks : List Nat
  /-- Where a key may have begun inside the innermost brackets. -/
  key : Option KeyPlace
  /-- For each open pair of brackets, the innermost first, where a key may have begun outside. -/
  outerKeys : List (Option KeyPlace)

namespace Lexer

def start (text : List Char) : Lexer :=
  ⟨.start text, .start text, 0, #[], [], none, []⟩

def inFlow (l : Lexer) : Bool :=
  !l.outerKeys.isEmpty

/-- The column from which on text belongs to the innermost block. -/
def least (l : Lexer) : Nat :=
  l.blocks.headD 0

/-- Adds a token that takes up this many characters. -/
def advance (t : Token) (count : Nat) (isFresh : Bool) (l : Lexer) : Lexer :=
  { l with tokens := l.tokens.push t, cursor := l.cursor.forward count isFresh }

/-! ## Keys -/

/-- A key ends on its line and is not long.  Where nothing but a key can stand it must be one. -/
def refreshKey (line offset : Nat) : Option KeyPlace → Option (Option KeyPlace)
  | none => some none
  | some key =>
    if key.line = line && offset ≤ key.offset + keySizeLimit then some (some key)
    else if key.isRequired then none
    else some none

/-- Goes on to the place of the next token.  A key outside of the brackets counts again after
them. -/
def goTo (c : Cursor) (l : Lexer) : Option Lexer := do
  let passed := (String.ofList (l.last.rest.take (c.column - l.last.column))).utf8ByteSize
  let offset := if l.last.line = c.line then l.offset + passed else 0
  return { l with cursor := c, last := c, offset, key := ← refreshKey c.line offset l.key }

/-- Gives up the key that may have begun. -/
def dropKey (l : Lexer) : Option Lexer :=
  if l.key.any KeyPlace.isRequired then none else some { l with key := none }

/-- Remembers that a key may begin here. -/
def saveKey (l : Lexer) : Option Lexer :=
  let c := l.cursor
  if c.isFresh then do
    let isRequired := !l.inFlow && l.least = c.column + 1
    return { (← l.dropKey) with
      key := some ⟨c.line, c.column, l.offset, l.tokens.size, isRequired⟩ }
  else some l

/-! ## Blocks -/

/-- Puts a token in front of those from a position on. -/
def insert (t : Token) (position : Nat) (l : Lexer) : Lexer :=
  { l with tokens := l.tokens.insertIdxIfInBounds position t }

/-- Begins a block at a column, unless the innermost one stands there or further to the right.
There are no blocks inside brackets. -/
def openBlock (t : Token) (column position : Nat) (l : Lexer) : Lexer :=
  if !l.inFlow && l.least ≤ column then
    { l.insert t position with blocks := (column + 1) :: l.blocks }
  else l

/-- Begins a block with a mark at this place, if it may stand here. -/
def openBlockHere (t : Token) (l : Lexer) : Option Lexer :=
  if l.inFlow then some l
  else if l.cursor.isFresh then some (l.openBlock t l.cursor.column l.tokens.size)
  else none

/-- Ends the blocks to which text before this column does not belong. -/
def closeBlocks (column : Nat) (l : Lexer) : Lexer :=
  if l.inFlow then l
  else
    let closed := l.blocks.takeWhile (column < ·)
    { l with
      tokens := l.tokens ++ Array.replicate closed.length .blockEnd
      blocks := l.blocks.drop closed.length }

/-! ## Tokens -/

def readDocumentMark (t : Token) (l : Lexer) : Option Lexer := do
  return (← (l.closeBlocks 0).dropKey).advance t 3 false

def readOpening (t : Token) (l : Lexer) : Option Lexer := do
  let l ← l.saveKey
  return { l.advance t 1 true with key := none, outerKeys := l.key :: l.outerKeys }

def readClosing (t : Token) (l : Lexer) : Option Lexer := do
  let l := (← l.dropKey).advance t 1 false
  match l.outerKeys with
  | [] => return l
  | key :: outerKeys => return { l with key, outerKeys }

def readComma (l : Lexer) : Option Lexer := do
  return (← l.dropKey).advance .comma 1 true

def readEntry (l : Lexer) : Option Lexer := do
  return (← (← l.openBlockHere .sequenceStart).dropKey).advance .entry 1 true

def readKey (l : Lexer) : Option Lexer := do
  let l ← (← l.openBlockHere .mappingStart).dropKey
  return l.advance .key 1 !l.inFlow

/-- Reads the mark of a value, with which the key that may have begun is one. -/
def readValue (l : Lexer) : Option Lexer :=
  match l.key with
  | some key =>
    let l := (l.insert .key key.position).openBlock .mappingStart key.column key.position
    some ({ l with key := none }.advance .value 1 false)
  | none => do
    let l ← l.openBlockHere .mappingStart
    return l.advance .value 1 !l.inFlow

/-- Adds the token of a scalar that has been read. -/
def addScalar (isPlain : Bool) (l : Lexer) (read : Option (String × Cursor)) : Option Lexer :=
  read.map fun (text, c) ↦ { l with tokens := l.tokens.push (.scalar ⟨text, isPlain⟩), cursor := c }

def readPlain (l : Lexer) : Option Lexer := do
  let c := l.cursor
  if startsPlain l.inFlow c.rest then
    (← l.saveKey).addScalar true
      (readPlainFrom l.inFlow l.least [] .empty c.line c.column c.rest)
  else none

/-- Reads a token at its first character. -/
def readToken (l : Lexer) : Option Lexer :=
  let c := l.cursor
  if isBeginning c.column c.rest then l.readDocumentMark .documentStart
  else if isEnding c.column c.rest then l.readDocumentMark .documentEnd
  else
    match c.rest with
    | '[' :: _ => l.readOpening .openBracket
    | ']' :: _ => l.readClosing .closeBracket
    | '{' :: _ => l.readOpening .openBrace
    | '}' :: _ => l.readClosing .closeBrace
    | ',' :: _ => l.readComma
    | '-' :: rest => if startsBlank rest then l.readEntry else l.readPlain
    | '?' :: rest => if l.inFlow || startsBlank rest then l.readKey else l.readPlain
    | ':' :: rest => if l.inFlow || startsBlank rest then l.readValue else l.readPlain
    | '|' :: rest =>
      if l.inFlow then none
      else do (← l.dropKey).addScalar false (readBlock false l.least c.line rest)
    | '>' :: rest =>
      if l.inFlow then none
      else do (← l.dropKey).addScalar false (readBlock true l.least c.line rest)
    | '\x27' :: rest => do
      (← l.saveKey).addScalar false (readSingleQuotedFrom [] .empty c.line (c.column + 1) rest)
    | '"' :: rest => do
      (← l.saveKey).addScalar false (readDoubleQuotedFrom [] .empty c.line (c.column + 1) rest)
    | _ => l.readPlain

/-- Reads on to the end of the text; `fuel` is more than the length of the rest of it. -/
def readTokens : (fuel : Nat) → Lexer → Option (Array Token)
  | 0, _ => none
  | fuel + 1, l => do
    let c := l.cursor.skip l.inFlow
    let l := (← l.goTo c).closeBlocks (c.column + 1)
    if c.rest.isEmpty then
      return (← (l.closeBlocks 0).dropKey).tokens
    else readTokens fuel (← l.readToken)

end Lexer

/-- The characters that a text may hold. -/
def isReadable (c : Char) : Bool :=
  let code := c.toNat
  c = '\t' || c = '\n' || c = '\r' || (0x20 ≤ code && code ≤ 0x7E) || code = 0x85
    || (0xA0 ≤ code && code ≤ 0xFFFD) || 0x10000 ≤ code

/-- The tokens of a text. -/
def Token.ofText? (text : String) : Option (List Token) := do
  let text := text.toList
  if !text.all isReadable then none
  let text := unifyBreaks text
  return (← (Lexer.start text).readTokens (text.length + 1)).toList

end TwoWaySchema.Yaml
