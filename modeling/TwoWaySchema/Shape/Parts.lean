import TwoWaySchema.Failure
import TwoWaySchema.Record

/-!
# Reading containers

How a container is read, given how its parts are.  Every part is read even after a failure, and
each error gets the index or the key of its part.
-/

namespace TwoWaySchema.Parts

variable {α κ ν σ : Type}

def requireArray (input : Option Json) : Outcome (List Json) := do
  match ← requirePresent input with
  | .array items => .ok items
  | x => .error (.shapeMismatch ("expected array, found " ++ x.kindName))

def requireObject (input : Option Json) : Outcome (List (String × Json)) := do
  match ← requirePresent input with
  | .object members => .ok members
  | x => .error (.shapeMismatch ("expected object, found " ++ x.kindName))

/-! ## Elements -/

/-- The outcomes of the items, the first of which has the given index. -/
def outcomesFrom (read : Json → Outcome α) : (index : Nat) → List Json → List (Outcome α)
  | _, [] => []
  | i, x :: rest => (read x).within (.index i) :: outcomesFrom read (i + 1) rest

def readElements (read : Json → Outcome α) (items : List Json) : Outcome (List α) :=
  Outcome.collect (outcomesFrom read 0 items)

/-- The elements, in order, but for those that an earlier one equals. -/
def dropRepeated [BEq α] (values : List α) : List α :=
  values.eraseDupsBy fun later earlier ↦ earlier == later

/-- Whether no element equals a later one. -/
def areDistinct [BEq α] : List α → Bool
  | [] => true
  | x :: rest => !rest.contains x && areDistinct rest

def readMember (read : Json → Outcome α) (member : String × Json) : Outcome (String × α) :=
  Outcome.within (.key member.1) ((read member.2).map (member.1, ·))

def readMembers (read : Json → Outcome α) (members : List (String × Json)) :
    Outcome (SortedMap String α) :=
  (Outcome.collect (members.map (readMember read))).map SortedMap.ofList

/-! ## Pairs -/

def describePairCandidate : Json → String
  | .array items => "array of length " ++ toString items.length
  | x => x.kindName

def readPair (readKey : Json → Outcome κ) (readValue : Json → Outcome ν) :
    Json → Outcome (κ × ν)
  | .array [k, v] =>
    match readKey k, readValue v with
    | .ok key, .ok value => .ok (key, value)
    | key, value =>
      .error ⟨(key.within (.index 0)).errors ++ (value.within (.index 1)).errors, none⟩
  | x =>
    .error (.shapeMismatch ("expected [key, value] pair, found " ++ describePairCandidate x))

def duplicateKey (index : Nat) : ErrorEntry :=
  ⟨[.index index, .index 0], .shapeMismatch, "duplicate key in map"⟩

/-- Adds the pairs, the first of which has the given index, to a map.  A pair whose key the map
has already is an error at that key. -/
def addPairs [Ord κ] (read : Json → Outcome (κ × ν)) :
    (index : Nat) → SortedMap κ ν → List Json → List ErrorEntry × SortedMap κ ν
  | _, map, [] => ([], map)
  | i, map, x :: rest =>
    match (read x).within (.index i) with
    | .ok (key, value) =>
      if map.contains key then
        let (errors, map) := addPairs read (i + 1) map rest
        (duplicateKey i :: errors, map)
      else addPairs read (i + 1) (map.insert key value) rest
    | .error failure =>
      let (errors, map) := addPairs read (i + 1) map rest
      (failure.errors ++ errors, map)

def readPairs [Ord κ] (readKey : Json → Outcome κ) (readValue : Json → Outcome ν)
    (items : List Json) : Outcome (SortedMap κ ν) :=
  let (errors, map) := addPairs (readPair readKey readValue) 0 .empty items
  if errors.isEmpty then .ok map else .error ⟨errors, none⟩

/-! ## Positions -/

def expectedLength (length : Nat) : String :=
  "expected array of length " ++ toString length

/-- The items of an array, which has to have the given length. -/
def requireLength (length : Nat) (input : Option Json) : Outcome (List Json) := do
  match ← requirePresent input with
  | .array items =>
    if items.length = length then .ok items
    else
      .error (.shapeMismatch
        (expectedLength length ++ ", found length " ++ toString items.length))
  | x => .error (.shapeMismatch (expectedLength length ++ ", found " ++ x.kindName))

/-! ## Fields -/

def unknownField (name : String) : ErrorEntry :=
  ⟨[.key name], .shapeMismatch, "unknown field"⟩

def unknownFields (names : List String) (members : List (String × Json)) : List ErrorEntry :=
  ((members.map Prod.fst).filter fun name ↦ !names.contains name).map unknownField

/-- Stores the slots that were read under their names, in order. -/
def storeAll : Record σ → List (String × Outcome σ) → Record σ
  | r, [] => r
  | r, (name, .ok slot) :: rest => storeAll (r.store name slot) rest
  | r, (_, .error _) :: rest => storeAll r rest

/-- The record of the slots that were read, unless there are errors of theirs or others. -/
def collectRecord (slots : List (String × Outcome σ)) (others : List ErrorEntry) :
    Outcome (Record σ) :=
  let errors := slots.flatMap (fun slot ↦ slot.2.errors) ++ others
  if errors.isEmpty then .ok (storeAll .empty slots) else .error ⟨errors, none⟩

/-- Reads an object with fields of these names; undeclared members are errors when denied. -/
def readObject (names : List String) (denyUnknown : Bool)
    (readFields : List (String × Json) → List (String × Outcome σ)) (input : Option Json) :
    Outcome (Record σ) := do
  let members ← requireObject input
  collectRecord (readFields members) (if denyUnknown then unknownFields names members else [])

/-! ## Alternatives -/

/-- The failure of a union both of whose alternatives failed: one summary, then the errors of both
without summaries of their own.  A value that is missing for both is simply missing. -/
def exhausted (description : Thunk String) (first second : Failure) : Failure :=
  if first.isMissing && second.isMissing then .missing
  else
    let summary : ErrorEntry := ⟨[], .unionExhausted, "value matches none of " ++ description.get⟩
    ⟨summary :: (first.errors ++ second.errors).filter fun entry ↦ !entry.isSummary, none⟩

/-- The first outcome, or the second where the first is a failure.  The second alternative is read
only then, and described only where it fails too. -/
def readEither (description : Thunk String) (first : Outcome α) (second : Thunk (Outcome α)) :
    Outcome α :=
  match first with
  | .ok a => .ok a
  | .error f =>
    match second.get with
    | .ok a => .ok a
    | .error g => .error (exhausted description f g)

end TwoWaySchema.Parts
