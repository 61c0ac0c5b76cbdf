import TwoWaySchema.Yaml.LineBreak

/-!
# Places in a YAML text

What a mark means in a YAML text depends on its line and its column, and on whether a key may begin
where it stands.  A cursor is such a place together with the rest of the text.
-/

namespace TwoWaySchema.Yaml

structure Cursor where
  line : Nat
  column : Nat
  /-- A key or an entry of a block may begin here. -/
  isFresh : Bool
  rest : List Char

namespace Cursor

/-- The first place of a text.  A byte order mark before it takes up a column. -/
def start : List Char → Cursor
  | '\ufeff' :: text => ⟨0, 1, true, text⟩
  | text => ⟨0, 0, true, text⟩

/-- The place this many characters further on the line. -/
def forward (count : Nat) (isFresh : Bool) (c : Cursor) : Cursor :=
  ⟨c.line, c.column + count, isFresh, c.rest.drop count⟩

def skipFrom (inFlow inComment : Bool) (line column : Nat) (isFresh : Bool) :
    List Char → Cursor
  | [] => ⟨line, column, isFresh, []⟩
  | c :: rest =>
    if isBreak c then skipFrom inFlow false (line + 1) 0 (isFresh || !inFlow) rest
    else if inComment || c = ' ' || (c = '\t' && (inFlow || !isFresh)) then
      skipFrom inFlow inComment line (column + 1) isFresh rest
    else if c = '#' then skipFrom inFlow true line (column + 1) isFresh rest
    else ⟨line, column, isFresh, c :: rest⟩

/-- The next place that is neither blank nor in a comment.  Tabs count as blank except where a key
may begin, for they do not indent; outside of brackets one may begin on every new line. -/
def skip (inFlow : Bool) (c : Cursor) : Cursor :=
  skipFrom inFlow false c.line c.column c.isFresh c.rest

end Cursor

/-- Whether a line that goes on like this from this column consists of these three characters. -/
def isMark (mark : List Char) (column : Nat) (text : List Char) : Bool :=
  column = 0 && text.take 3 = mark && startsBlank (text.drop 3)

/-- The mark that begins a document. -/
def isBeginning (column : Nat) (text : List Char) : Bool :=
  isMark ['-', '-', '-'] column text

/-- The mark that ends a document. -/
def isEnding (column : Nat) (text : List Char) : Bool :=
  isMark ['.', '.', '.'] column text

def isDocumentMark (column : Nat) (text : List Char) : Bool :=
  isBeginning column text || isEnding column text

end TwoWaySchema.Yaml
