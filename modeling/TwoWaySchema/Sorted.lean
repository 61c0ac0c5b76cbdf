/-!
# Sorted sets and maps

A sorted set and a sorted map are lists in strictly ascending order.  Insertion keeps them so when
the order is a linear one; the predicates `IsAscending` say what they are after any number of
insertions.  An element or a key that compares equal to a stored one takes its place.
-/

namespace TwoWaySchema

/-- Puts an element before the first larger one, in place of an equal one. -/
def insertSorted {α : Type} [Ord α] (a : α) : List α → List α
  | [] => [a]
  | b :: rest =>
    match compare a b with
    | .lt => a :: b :: rest
    | .eq => a :: rest
    | .gt => b :: insertSorted a rest

/-- Puts an entry before the first one with a larger key, in place of one with an equal key. -/
def insertEntry {κ ν : Type} [Ord κ] (key : κ) (value : ν) : List (κ × ν) → List (κ × ν)
  | [] => [(key, value)]
  | (other, stored) :: rest =>
    match compare key other with
    | .lt => (key, value) :: (other, stored) :: rest
    | .eq => (key, value) :: rest
    | .gt => (other, stored) :: insertEntry key value rest

/-- The value stored under a key that compares equal. -/
def lookupEntry? {κ ν : Type} [Ord κ] (key : κ) : List (κ × ν) → Option ν
  | [] => none
  | (other, stored) :: rest =>
    if compare key other = .eq then some stored else lookupEntry? key rest

def IsAscending {α : Type} [Ord α] (elements : List α) : Prop :=
  elements.Pairwise fun a b ↦ compare a b = .lt

/-- A set of elements, listed in ascending order. -/
structure SortedSet (α : Type) where
  elements : List α
deriving Repr

namespace SortedSet

variable {α : Type} [Ord α]

def empty : SortedSet α := ⟨[]⟩

def insert (s : SortedSet α) (a : α) : SortedSet α :=
  ⟨insertSorted a s.elements⟩

/-- The set of the elements of a list; of equal elements the last is kept. -/
def ofList (elements : List α) : SortedSet α :=
  elements.foldl insert empty

def WellFormed (s : SortedSet α) : Prop :=
  IsAscending s.elements

end SortedSet

/-- A map, its entries listed in ascending order of their keys. -/
structure SortedMap (κ ν : Type) where
  entries : List (κ × ν)
deriving Repr

namespace SortedMap

variable {κ ν : Type} [Ord κ]

def empty : SortedMap κ ν := ⟨[]⟩

def insert (m : SortedMap κ ν) (key : κ) (value : ν) : SortedMap κ ν :=
  ⟨insertEntry key value m.entries⟩

def get? (m : SortedMap κ ν) (key : κ) : Option ν :=
  lookupEntry? key m.entries

def contains (m : SortedMap κ ν) (key : κ) : Bool :=
  (m.get? key).isSome

/-- The map of these entries; of entries with equal keys the last is kept. -/
def ofList (entries : List (κ × ν)) : SortedMap κ ν :=
  entries.foldl (fun m entry ↦ m.insert entry.1 entry.2) empty

def keys (m : SortedMap κ ν) : List κ :=
  m.entries.map Prod.fst

def WellFormed (m : SortedMap κ ν) : Prop :=
  IsAscending m.keys

end SortedMap

end TwoWaySchema
