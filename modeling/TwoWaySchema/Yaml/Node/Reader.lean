import TwoWaySchema.Yaml.Node
import TwoWaySchema.Yaml.Token.Lexer

/-!
# Reading YAML nodes

A node begins with a token that says what it is.  Where a mark announces a node and none is
written, the node is blank.  The number of tokens bounds the recursion.
-/

namespace TwoWaySchema.Yaml

/-- A reader takes a part off the tokens. -/
abbrev Reader (α : Type) : Type :=
  List Token → Option (α × List Token)

/-- Reads a node, or a blank one where one of these tokens comes next. -/
def orBlank (ends : List Token) (readNode : Reader Node) : Reader Node := fun tokens ↦
  if tokens.head?.any ends.contains then some (.blank, tokens) else readNode tokens

/-- Reads a value if its mark is there. -/
def readAnyValue (ends : List Token) (readNode : Reader Node) : Reader Node
  | .value :: rest => orBlank ends readNode rest
  | tokens => some (.blank, tokens)

/-! ## Block style -/

/-- The tokens before which nothing is written in a block mapping. -/
def entryEnds : List Token :=
  [.key, .value, .blockEnd]

/-- Reads the items of a block sequence. -/
def readItems (readNode : Reader Node) : (fuel : Nat) → Reader (List Node)
  | fuel + 1, .entry :: rest => do
    let (item, rest) ← orBlank (.entry :: entryEnds) readNode rest
    let (items, rest) ← readItems readNode fuel rest
    return (item :: items, rest)
  | _, tokens => some ([], tokens)

/-- Reads the entries of a block mapping and its end. -/
def readEntries (readNode : Reader Node) : (fuel : Nat) → Reader (List (Node × Node))
  | fuel + 1, .key :: rest => do
    let (key, rest) ← orBlank entryEnds readNode rest
    let (node, rest) ← readAnyValue entryEnds readNode rest
    let (entries, rest) ← readEntries readNode fuel rest
    return ((key, node) :: entries, rest)
  | _, .blockEnd :: rest => some ([], rest)
  | _, _ => none

/-! ## Flow style -/

/-- Reads a mapping of one entry after the mark of its key, where no braces stand around it.  A key
that is blank takes the place of the token that comes next. -/
def readPair (readNode : Reader Node) : Reader Node := fun tokens ↦ do
  let (key, rest) ←
    match tokens with
    | .value :: rest | .comma :: rest | .closeBracket :: rest => some (.blank, rest)
    | _ => readNode tokens
  let (node, rest) ← readAnyValue [.comma, .closeBracket] readNode rest
  return (.mapping [(key, node)], rest)

/-- Reads items up to the closing bracket. -/
def readFlowItems (readNode : Reader Node) : (fuel : Nat) → Reader (List Node)
  | 0, _ => none
  | fuel + 1, tokens =>
    if let .closeBracket :: rest := tokens then some ([], rest)
    else do
      let (item, rest) ←
        match tokens with
        | .key :: rest => readPair readNode rest
        | _ => readNode tokens
      match rest with
      | .closeBracket :: rest => return ([item], rest)
      | .comma :: rest =>
        let (items, rest) ← readFlowItems readNode fuel rest
        return (item :: items, rest)
      | _ => none

/-- Reads an entry in braces.  A key without a mark has no value. -/
def readFlowEntry (readNode : Reader Node) : Reader (Node × Node)
  | .key :: rest => do
    let (key, rest) ← orBlank [.value, .comma, .closeBrace] readNode rest
    let (node, rest) ← readAnyValue [.comma, .closeBrace] readNode rest
    return ((key, node), rest)
  | tokens => (readNode tokens).map fun (key, rest) ↦ ((key, .blank), rest)

/-- Reads entries up to the closing brace. -/
def readFlowEntries (readNode : Reader Node) : (fuel : Nat) → Reader (List (Node × Node))
  | 0, _ => none
  | fuel + 1, tokens =>
    if let .closeBrace :: rest := tokens then some ([], rest)
    else do
      let (entry, rest) ← readFlowEntry readNode tokens
      match rest with
      | .closeBrace :: rest => return ([entry], rest)
      | .comma :: rest =>
        let (entries, rest) ← readFlowEntries readNode fuel rest
        return (entry :: entries, rest)
      | _ => none

/-! ## Nodes -/

/-- Where a node is written. -/
inductive Site where
  /-- Between brackets, where there are no blocks. -/
  | flow
  | block
  /-- As the key or the value of an entry of a block mapping, where the items of a sequence may
  stand at the column of the mapping. -/
  | entry
deriving DecidableEq, Repr

/-- Reads a node; `fuel` is more than the number of tokens. -/
def readNode : (fuel : Nat) → Site → Reader Node
  | 0, _, _ => none
  | fuel + 1, site, tokens =>
    match tokens with
    | .scalar s :: rest => some (.scalar s, rest)
    | .openBracket :: rest => do
      let (items, rest) ← readFlowItems (readNode fuel .flow) (fuel + 1) rest
      return (.sequence items, rest)
    | .openBrace :: rest => do
      let (entries, rest) ← readFlowEntries (readNode fuel .flow) (fuel + 1) rest
      return (.mapping entries, rest)
    | .entry :: _ =>
      if site = .entry then do
        let (items, rest) ← readItems (readNode fuel .block) (fuel + 1) tokens
        return (.sequence items, rest)
      else none
    | .sequenceStart :: rest =>
      if site = .flow then none
      else do
        match ← readItems (readNode fuel .block) (fuel + 1) rest with
        | (items, .blockEnd :: rest) => return (.sequence items, rest)
        | _ => none
    | .mappingStart :: rest =>
      if site = .flow then none
      else do
        let (entries, rest) ← readEntries (readNode fuel .entry) (fuel + 1) rest
        return (.mapping entries, rest)
    | _ => none

namespace Node

/-- The node of a text, which is one document and not empty. -/
def ofText? (text : String) : Option Node := do
  let tokens ← Token.ofText? text
  let read := readNode (tokens.length + 1) .block
  let (node, rest) ←
    match tokens with
    | [.documentStart] => some (.blank, [])
    | .documentStart :: rest => orBlank [.documentStart, .documentEnd] read rest
    | _ => read tokens
  if rest.all (· = .documentEnd) then return node else none

end Node

end TwoWaySchema.Yaml
