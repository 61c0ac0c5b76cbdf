import TwoWaySchema.Failure
import TwoWaySchema.Proofs.Lookup
import TwoWaySchema.Proofs.Sorted

/-!
# Paths into JSON values

A path is followed from a value into objects by their keys and into arrays by indices.  In a
well-formed value, whose objects have each key once, it leads to one place at most.  Two values can
differ at one place only, which a path leads to in both.
-/

namespace TwoWaySchema.Json

/-- Followed from the first value, the path leads to the second one. -/
inductive Reaches : Json → Path → Json → Prop
  | root (x : Json) : Reaches x [] x
  | item {items : List Json} {i : Nat} {path : Path} {x y : Json} (hx : items[i]? = some x)
      (h : Reaches x path y) : Reaches (.array items) (.index i :: path) y
  | member {members : List (String × Json)} {name : String} {path : Path} {x y : Json}
      (hx : (name, x) ∈ members) (h : Reaches x path y) :
      Reaches (.object members) (.key name :: path) y

/-- The value that a path leads to, if it leads anywhere. -/
def at? : Json → Path → Option Json
  | x, [] => some x
  | array items, .index i :: path => items[i]?.bind (at? · path)
  | object members, .key name :: path => (members.lookup name).bind (at? · path)
  | _, _ => none

variable {x y : Json} {path before : Path}

theorem reaches_nil_iff : x.Reaches [] y ↔ x = y := by
  constructor
  · intro h
    cases h
    rfl
  · rintro rfl
    exact .root x

/-- Where a path leads somewhere, so does every path that it continues. -/
theorem Reaches.exists_of_isPrefix (h : x.Reaches path y) (hbefore : before <+: path) :
    ∃ z, x.Reaches before z := by
  induction h generalizing before with
  | root x =>
    obtain rfl := List.prefix_nil.1 hbefore
    exact ⟨x, .root x⟩
  | @item _ _ _ x _ hx _ ih =>
    rcases List.prefix_cons_iff.1 hbefore with rfl | ⟨rest, rfl, hrest⟩
    · exact ⟨_, .root _⟩
    · obtain ⟨z, hz⟩ := ih hrest
      exact ⟨z, .item hx hz⟩
  | @member _ _ _ x _ hx _ ih =>
    rcases List.prefix_cons_iff.1 hbefore with rfl | ⟨rest, rfl, hrest⟩
    · exact ⟨_, .root _⟩
    · obtain ⟨z, hz⟩ := ih hrest
      exact ⟨z, .member hx hz⟩

theorem wellFormed_of_getElem? {items : List Json} {i : Nat} (h : WellFormedItems items)
    (hx : items[i]? = some x) : x.WellFormed := by
  induction items generalizing i with
  | nil => cases hx
  | cons item rest ih =>
    cases i with
    | zero =>
      cases hx
      exact h.1
    | succ i => exact ih h.2 (by simpa using hx)

theorem wellFormed_of_mem {members : List (String × Json)} {name : String}
    (h : WellFormedMembers members) (hx : (name, x) ∈ members) : x.WellFormed := by
  induction members with
  | nil => cases hx
  | cons member rest ih =>
    rcases List.mem_cons.1 hx with rfl | hrest
    · exact h.1
    · exact ih h.2 hrest

/-- In a well-formed value a path leads to the value found by looking up its keys. -/
theorem reaches_iff_at? (hx : x.WellFormed) : x.Reaches path y ↔ x.at? path = some y := by
  induction path generalizing x with
  | nil =>
    rw [reaches_nil_iff]
    cases x <;> simp [at?]
  | cons segment rest ih =>
    constructor
    · intro h
      cases h with
      | item hitem hrest =>
        rw [at?, hitem]
        exact (ih (wellFormed_of_getElem? hx hitem)).1 hrest
      | member hmember hrest =>
        rw [at?, lookup_of_mem hx.1.nodup hmember]
        exact (ih (wellFormed_of_mem hx.2 hmember)).1 hrest
    · intro h
      cases x <;> cases segment <;> simp only [at?, reduceCtorEq, Option.bind_eq_some_iff] at h
      case array.index items i =>
        obtain ⟨z, hz, hrest⟩ := h
        exact .item hz ((ih (wellFormed_of_getElem? hx hz)).2 hrest)
      case object.key members name =>
        obtain ⟨z, hz, hrest⟩ := h
        have hmember := mem_of_lookup_eq_some hz
        exact .member hmember ((ih (wellFormed_of_mem hx.2 hmember)).2 hrest)

/-! ## Changing one place -/

/-- The values differ at most in what the path leads to; all containers on the way have the same
keys or lengths. -/
inductive EqualBut : Path → Json → Json → Prop
  | root (x y : Json) : EqualBut [] x y
  | item {before after : List Json} {path : Path} {x y : Json} (h : EqualBut path x y) :
      EqualBut (.index before.length :: path) (.array (before ++ x :: after))
        (.array (before ++ y :: after))
  | member {before after : List (String × Json)} {name : String} {path : Path} {x y : Json}
      (h : EqualBut path x y) :
      EqualBut (.key name :: path) (.object (before ++ (name, x) :: after))
        (.object (before ++ (name, y) :: after))

/-- Two lookups find the same, or else the values of the one name under which they differ. -/
theorem lookup_eq_or_of_member (before after : List (String × Json)) (name key : String)
    (x y : Json) :
    (before ++ (name, x) :: after).lookup key = (before ++ (name, y) :: after).lookup key ∨
      key = name ∧ (before ++ (name, x) :: after).lookup key = some x ∧
        (before ++ (name, y) :: after).lookup key = some y := by
  by_cases hkey : key = name
  · subst hkey
    cases hbefore : before.lookup key with
    | some z => simp [List.lookup_append, hbefore]
    | none => simp [List.lookup_append, hbefore]
  · left
    rw [List.lookup_append, List.lookup_append, lookup_cons_of_ne hkey, lookup_cons_of_ne hkey]

end TwoWaySchema.Json

namespace TwoWaySchema.Path

/-- Neither path leads to a place inside the place of the other, or to the same. -/
def IsApart (path other : Path) : Prop :=
  ¬ path <+: other ∧ ¬ other <+: path

instance (path other : Path) : Decidable (path.IsApart other) :=
  inferInstanceAs (Decidable (_ ∧ _))

theorem not_isApart_nil {path : Path} : ¬ path.IsApart [] :=
  fun h ↦ h.2 (List.nil_prefix)

theorem not_nil_isApart {path : Path} : ¬ IsApart [] path :=
  fun h ↦ h.1 (List.nil_prefix)

theorem cons_isApart_cons_iff {segment : PathSegment} {path other : Path} :
    IsApart (segment :: path) (segment :: other) ↔ path.IsApart other := by
  simp [IsApart, List.cons_prefix_cons]

end TwoWaySchema.Path
