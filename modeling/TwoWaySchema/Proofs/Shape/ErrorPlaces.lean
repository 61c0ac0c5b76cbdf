import TwoWaySchema.Proofs.Json.Path
import TwoWaySchema.Proofs.Shape.Reading
import TwoWaySchema.Schema

/-!
# The places of errors

Every error of a shape that is put together without functions of the user's choice has a path that
leads somewhere in the input.  An error says that a value is missing where there is a null, or where
an object has no member of the name that ends the path; all other errors are about a value that is
there.  Paths are put together from the inside, so the errors of a part are placed in the part, and
the part is looked for in the whole.
-/

namespace TwoWaySchema

/-- Followed from the input the path of the error leads to a value, which is null if the error says
that it is missing; or it leads to an object, except for its last key, which the object lacks, and
the error says so.  Without an input there is nothing to say but that it is missing. -/
def ErrorEntry.IsPlaced (entry : ErrorEntry) : Option Json → Prop
  | none => entry.path = [] ∧ entry.kind = .missingValue
  | some raw =>
    (∃ sub, raw.Reaches entry.path sub ∧ (entry.kind = .missingValue → sub = .null)) ∨
      entry.kind = .missingValue ∧ ∃ before name members, entry.path = before ++ [.key name] ∧
        raw.Reaches before (.object members) ∧ name ∉ members.map Prod.fst

namespace ErrorEntry.IsPlaced

variable {entry : ErrorEntry} {input : Option Json} {kind : ErrorKind} {message : String}

theorem missing (h : IsVacant input) : IsPlaced ⟨[], .missingValue, message⟩ input := by
  rcases h with rfl | rfl
  · exact ⟨rfl, rfl⟩
  · exact .inl ⟨.null, .root _, fun _ ↦ rfl⟩

theorem root {raw : Json} (hkind : kind ≠ .missingValue) :
    IsPlaced ⟨[], kind, message⟩ (some raw) :=
  .inl ⟨raw, .root raw, fun h ↦ absurd h hkind⟩

/-- An error of an item is placed in the array. -/
theorem item {items : List Json} {i : Nat} {x : Json} (hx : items[i]? = some x)
    (h : entry.IsPlaced (some x)) : (entry.within (.index i)).IsPlaced (some (.array items)) := by
  rcases h with ⟨sub, hsub, hnull⟩ | ⟨hkind, before, name, members, hpath, hreach, hname⟩
  · exact .inl ⟨sub, .item hx hsub, hnull⟩
  · refine .inr ⟨hkind, .index i :: before, name, members, ?_, .item hx hreach, hname⟩
    exact congrArg (.index i :: ·) hpath

theorem value {members : List (String × Json)} {name : String} {x : Json}
    (hx : (name, x) ∈ members) (h : entry.IsPlaced (some x)) :
    (entry.within (.key name)).IsPlaced (some (.object members)) := by
  rcases h with ⟨sub, hsub, hnull⟩ | ⟨hkind, before, other, others, hpath, hreach, hother⟩
  · exact .inl ⟨sub, .member hx hsub, hnull⟩
  · refine .inr ⟨hkind, .key name :: before, other, others, ?_, .member hx hreach, hother⟩
    exact congrArg (.key name :: ·) hpath

/-- An error of a member, which can be absent, is placed in the object. -/
theorem member {members : List (String × Json)} {name : String}
    (h : entry.IsPlaced (members.lookup name)) :
    (entry.within (.key name)).IsPlaced (some (.object members)) := by
  cases hlookup : members.lookup name with
  | some x =>
    rw [hlookup] at h
    exact h.value (mem_of_lookup_eq_some hlookup)
  | none =>
    rw [hlookup] at h
    refine .inr ⟨h.2, [], name, members, ?_, .root _, lookup_eq_none_iff_notMem.1 hlookup⟩
    exact congrArg (.key name :: ·) h.1

end ErrorEntry.IsPlaced

/-! ## Outcomes -/

namespace Outcome

variable {α β : Type} {input : Option Json}

/-- Every error of the outcome is placed in the input. -/
def IsPlaced (outcome : Outcome α) (input : Option Json) : Prop :=
  ∀ entry ∈ outcome.errors, entry.IsPlaced input

namespace IsPlaced

theorem ok {a : α} : IsPlaced (.ok a) input := by
  simp [IsPlaced, errors]

theorem map {outcome : Outcome α} (h : outcome.IsPlaced input) (f : α → β) :
    IsPlaced (outcome.map f) input := by
  rwa [IsPlaced, errors_map]

theorem bind {outcome : Outcome α} {f : α → Outcome β} (h : outcome.IsPlaced input)
    (hf : ∀ a, outcome = .ok a → (f a).IsPlaced input) : IsPlaced (outcome >>= f) input := by
  cases outcome with
  | ok a => exact hf a rfl
  | error failure => exact h

theorem missing (h : IsVacant input) : IsPlaced (.error .missing : Outcome α) input := by
  intro entry hentry
  obtain rfl := List.mem_singleton.1 hentry
  exact .missing h

theorem single {kind : ErrorKind} {message : String} {raw : Json} (hkind : kind ≠ .missingValue) :
    IsPlaced (.error (.single kind message) : Outcome α) (some raw) := by
  intro entry hentry
  obtain rfl := List.mem_singleton.1 hentry
  exact .root hkind

theorem requirePresent {f : Json → Outcome β} (hf : ∀ x, (f x).IsPlaced (some x)) :
    IsPlaced (requirePresent input >>= f) input := by
  rcases isVacant_or_eq_some input with h | ⟨x, hx, rfl⟩
  · rw [requirePresent_of_isVacant h]
    exact .missing h
  · rw [requirePresent_of_ne_null hx]
    exact hf x

/-- Errors that are collected are placed where they were. -/
theorem collect {outcomes : List (Outcome α)} (h : ∀ outcome ∈ outcomes, outcome.IsPlaced input) :
    (collect outcomes).IsPlaced input := by
  intro entry hentry
  rw [errors_collect] at hentry
  obtain ⟨outcome, houtcome, hmem⟩ := List.mem_flatMap.1 hentry
  exact h outcome houtcome entry hmem

theorem within {outcome : Outcome α} {segment : PathSegment}
    (h : ∀ entry ∈ outcome.errors, (entry.within segment).IsPlaced input) :
    (outcome.within segment).IsPlaced input := by
  rw [IsPlaced, errors_within]
  exact List.forall_mem_map.2 h

theorem item {outcome : Outcome α} {items : List Json} {i : Nat} {x : Json}
    (hx : items[i]? = some x) (h : outcome.IsPlaced (some x)) :
    (outcome.within (.index i)).IsPlaced (some (.array items)) := by
  apply within
  intro entry hentry
  exact (h entry hentry).item hx

theorem value {outcome : Outcome α} {members : List (String × Json)} {name : String} {x : Json}
    (hx : (name, x) ∈ members) (h : outcome.IsPlaced (some x)) :
    (outcome.within (.key name)).IsPlaced (some (.object members)) := by
  apply within
  intro entry hentry
  exact (h entry hentry).value hx

theorem member {outcome : Outcome α} {members : List (String × Json)} {name : String}
    (h : outcome.IsPlaced (members.lookup name)) :
    (outcome.within (.key name)).IsPlaced (some (.object members)) := by
  apply within
  intro entry hentry
  exact (h entry hentry).member

end IsPlaced

end Outcome

/-! ## Scalars -/

/-- One error about the value itself says that it is missing only where there is none or a null. -/
theorem Outcome.FailsWhole.isPlaced {α : Type} {outcome : Outcome α} {input : Option Json}
    (h : outcome.FailsWhole) (hfits : outcome.Fits input) : outcome.IsPlaced input := by
  cases outcome with
  | ok a => exact .ok
  | error failure =>
    obtain ⟨kind, message, rfl⟩ := h failure rfl
    intro entry hentry
    obtain rfl := List.mem_singleton.1 hentry
    rcases isVacant_or_eq_some input with hvacant | ⟨x, hx, rfl⟩
    · have hmissing := (hfits _ rfl).isMissing_iff.2 hvacant
      obtain rfl : kind = .missingValue := by
        simpa [Failure.isMissing, Failure.single, ErrorEntry.isRoot] using hmissing
      exact .missing hvacant
    · refine .root fun hkind ↦ not_isVacant_some.2 hx ((hfits _ rfl).isMissing_iff.1 ?_)
      simp [Failure.isMissing, Failure.single, ErrorEntry.isRoot, hkind]

namespace Leaf

variable {input : Option Json}

theorem readSource_isPlaced {member : Option Json} {members : List (String × Json)}
    (h : members.lookup "source" = member) :
    (readSource member).IsPlaced (some (.object members)) := by
  unfold readSource
  split
  next => exact .ok
  next x _ =>
    have hfailure : Outcome.IsPlaced (.error (.typeMismatch "string" x) : Outcome String)
        (members.lookup "source") := h ▸ .single (by decide)
    exact hfailure.member
  next =>
    have hfailure : Outcome.IsPlaced (.error .missing : Outcome String)
        (members.lookup "source") := h ▸ .missing (.inl rfl)
    exact hfailure.member

theorem readFlags_isPlaced {member : Option Json} {members : List (String × Json)}
    (h : members.lookup "flags" = member) :
    (readFlags member).IsPlaced (some (.object members)) := by
  unfold readFlags
  split
  next => exact .ok
  next => exact .ok
  next => exact .ok
  next x _ _ =>
    have hfailure : Outcome.IsPlaced (.error (.shapeMismatch ("expected string flags, found " ++
        x.kindName)) : Outcome String) (members.lookup "flags") := h ▸ .single (by decide)
    exact hfailure.member

section Regex

variable {ρ : Type} {engine : Regex.Engine ρ}

theorem readPattern_isPlaced {source flags : String} {raw : Json} :
    (readPattern engine source flags).IsPlaced (some raw) := by
  unfold readPattern
  split
  next => exact .single (by decide)
  next =>
    split
    next => exact .ok
    next => exact .single (by decide)

theorem readRegex_isPlaced : (readRegex engine input).IsPlaced input := by
  apply Outcome.IsPlaced.requirePresent
  intro x
  split
  next =>
    apply (readSource_isPlaced rfl).bind
    intro source _
    apply (readFlags_isPlaced rfl).bind
    intro flags _
    exact readPattern_isPlaced
  next => exact .single (by decide)

end Regex

end Leaf

/-! ## Parts -/

namespace Parts

variable {α κ ν σ : Type} {input : Option Json} {read : Json → Outcome α}

/-- What reads the items of an array places errors if it places them in the array. -/
theorem requireArray_bind_isPlaced {f : List Json → Outcome α}
    (hf : ∀ items, (f items).IsPlaced (some (.array items))) :
    (requireArray input >>= f).IsPlaced input := by
  apply (requireArray_failsWhole.isPlaced requireArray_fits).bind
  intro items hitems
  rw [requireArray_eq_ok_iff.1 hitems]
  exact hf items

theorem requireObject_bind_isPlaced {f : List (String × Json) → Outcome α}
    (hf : ∀ members, (f members).IsPlaced (some (.object members))) :
    (requireObject input >>= f).IsPlaced input := by
  apply (requireObject_failsWhole.isPlaced requireObject_fits).bind
  intro members hmembers
  rw [requireObject_eq_ok_iff.1 hmembers]
  exact hf members

theorem readElements_isPlaced {items : List Json} (h : ∀ x, (read x).IsPlaced (some x)) :
    (readElements read items).IsPlaced (some (.array items)) := by
  apply Outcome.IsPlaced.collect
  intro outcome houtcome
  obtain ⟨j, x, hx, rfl⟩ := exists_of_mem_outcomesFrom houtcome
  rw [Nat.zero_add]
  exact (h x).item hx

theorem readMembers_isPlaced {members : List (String × Json)}
    (h : ∀ x, (read x).IsPlaced (some x)) :
    (readMembers read members).IsPlaced (some (.object members)) := by
  apply Outcome.IsPlaced.map
  apply Outcome.IsPlaced.collect
  exact List.forall_mem_map.2 fun member hmember ↦ ((h member.2).map _).value hmember

section Pairs

variable {readKey : Json → Outcome κ} {readValue : Json → Outcome ν}
  (hkey : ∀ x, (readKey x).IsPlaced (some x)) (hvalue : ∀ x, (readValue x).IsPlaced (some x))
include hkey hvalue

theorem readPair_isPlaced (x : Json) : (readPair readKey readValue x).IsPlaced (some x) := by
  unfold readPair
  split
  next k v =>
    split
    next => exact .ok
    next =>
      intro entry hentry
      rcases List.mem_append.1 hentry with hentry | hentry
      · exact (hkey k).item rfl entry hentry
      · exact (hvalue v).item rfl entry hentry
  next => exact .single (by decide)

/-- A repeated key is there, where the pair has its key. -/
theorem readPairs_isPlaced [Ord κ] {items : List Json} :
    (readPairs readKey readValue items : Outcome (SortedMap κ ν)).IsPlaced
      (some (.array items)) := by
  have hentries : ∀ entry ∈ (addPairs (readPair readKey readValue) 0 .empty items).1,
      entry.IsPlaced (some (.array items)) := by
    intro entry hentry
    obtain ⟨j, x, hx, hentry | ⟨rfl, pair, hpair⟩⟩ := exists_of_mem_addPairs hentry
    · rw [Nat.zero_add] at hentry
      exact (readPair_isPlaced hkey hvalue x).item hx entry hentry
    · obtain ⟨k, v, rfl, -, -⟩ := readPair_eq_ok_iff.1 hpair
      rw [Nat.zero_add]
      exact .inl ⟨k, .item hx (.item rfl (.root k)), nofun⟩
  unfold readPairs
  cases hadd : addPairs (readPair readKey readValue) 0 .empty items with
  | mk errors result =>
    rw [hadd] at hentries
    simp only
    split
    next => exact .ok
    next => exact hentries

end Pairs

theorem unknownFields_isPlaced {names : List String} {members : List (String × Json)} :
    ∀ entry ∈ unknownFields names members, entry.IsPlaced (some (.object members)) := by
  intro entry hentry
  obtain ⟨name, hname, rfl⟩ := List.mem_map.1 hentry
  obtain ⟨member, hmember, rfl⟩ := List.mem_map.1 (List.mem_filter.1 hname).1
  exact .inl ⟨member.2, .member hmember (.root _), nofun⟩

theorem collectRecord_isPlaced {slots : List (String × Outcome σ)} {others : List ErrorEntry}
    (hslots : ∀ slot ∈ slots, slot.2.IsPlaced input)
    (hothers : ∀ entry ∈ others, entry.IsPlaced input) :
    (collectRecord slots others).IsPlaced input := by
  unfold collectRecord
  simp only
  split
  next => exact .ok
  next =>
    intro entry hentry
    rcases List.mem_append.1 hentry with hslot | hother
    · obtain ⟨slot, hslot, hmem⟩ := List.mem_flatMap.1 hslot
      exact hslots slot hslot entry hmem
    · exact hothers entry hother

/-- What both alternatives find missing is missing, and the summary is about the value itself. -/
theorem exhausted_isPlaced {description : Thunk String} {first second : Failure}
    (hfits : first.Fits input) (hfits' : second.Fits input)
    (hfirst : ∀ entry ∈ first.errors, entry.IsPlaced input)
    (hsecond : ∀ entry ∈ second.errors, entry.IsPlaced input) :
    ∀ entry ∈ (exhausted description first second).errors, entry.IsPlaced input := by
  intro entry hentry
  unfold exhausted at hentry
  split at hentry
  next hboth =>
    obtain rfl := List.mem_singleton.1 hentry
    exact .missing (hfits.isMissing_iff.1 (Bool.and_eq_true_iff.1 hboth).1)
  next hone =>
    rcases List.mem_cons.1 hentry with rfl | hentry
    · rcases isVacant_or_eq_some input with hvacant | ⟨x, -, rfl⟩
      · -- Both failures fit a vacant input, so there would be no summary.
        have hfirst := hfits.isMissing_iff.2 hvacant
        have hsecond := hfits'.isMissing_iff.2 hvacant
        exact absurd (Bool.and_eq_true_iff.2 ⟨hfirst, hsecond⟩) hone
      · exact .root (by decide)
    · rcases List.mem_append.1 (List.mem_filter.1 hentry).1 with hentry | hentry
      · exact hfirst entry hentry
      · exact hsecond entry hentry

theorem readEither_isPlaced {description : Thunk String} {first : Outcome α}
    {second : Thunk (Outcome α)} (hfits : first.Fits input) (hfits' : second.get.Fits input)
    (hfirst : first.IsPlaced input) (hsecond : second.get.IsPlaced input) :
    (readEither description first second).IsPlaced input := by
  unfold readEither
  split
  next => exact .ok
  next f =>
    split
    next => exact .ok
    next g hg =>
      rw [hg] at hsecond
      exact exhausted_isPlaced (hfits f rfl) (hfits' g hg) hfirst hsecond

end Parts

/-! ## Tuples and fields -/

section Members

variable {σ : Type}

/-- An error of the items of a tuple, the first of which has the index `before.length`, is placed
in the array. -/
theorem Shapes.isPlaced_of_mem_parseFrom : {αs : List Type} → (shapes : Shapes σ αs) →
    (before items : List Json) →
      shapes.All (fun s ↦ ∀ input, (s.parse input).IsPlaced input) →
        ∀ entry ∈ (shapes.parseFrom before.length items).1,
          entry.IsPlaced (some (.array (before ++ items)))
  | _, .nil, _, _, _, _, h => by cases h
  | _, .cons _ _, _, [], _, _, h => by cases h
  | _, .cons first rest, before, x :: items, hplaced, entry, h => by
    have hnext := isPlaced_of_mem_parseFrom rest (before ++ [x]) items hplaced.2 entry
    rw [List.append_assoc, List.singleton_append, List.length_append] at hnext
    rw [parseFrom_cons] at h
    split at h
    next => exact hnext h
    next failure hfailure =>
      rcases List.mem_append.1 h with hfirst | hrest
      · have hx : (before ++ x :: items)[before.length]? = some x := by simp
        have houtcome := (hplaced.1 (some x)).item hx
        rw [hfailure] at houtcome
        exact houtcome entry hfirst
      · exact hnext hrest

theorem Fields.isPlaced_parse : (fields : Fields σ) →
    fields.All (fun s ↦ ∀ input, (s.parse input).IsPlaced input) →
      (members : List (String × Json)) →
        ∀ slot ∈ fields.parse members, slot.2.IsPlaced (some (.object members))
  | .nil, _, _ => nofun
  | .cons name type shape rest, h, members => by
    rw [parse_cons]
    refine List.forall_mem_cons.2 ⟨?_, isPlaced_parse rest h.2 members⟩
    exact ((h.1 _).map _).member

end Members

/-! ## Shapes -/

namespace Shape

variable {σ α : Type} {inner element : Shape σ α} {input : Option Json}

theorem parse_optional_isPlaced (h : (inner.parse input).IsPlaced input) :
    ((optional inner).parse input).IsPlaced input := by
  cases hinner : inner.parse input with
  | ok a =>
    rw [parse_optional_of_ok hinner]
    exact .ok
  | error failure =>
    rw [parse_optional_of_error hinner]
    split
    next => exact .ok
    next =>
      rw [hinner] at h
      exact h

theorem parse_nullable_isPlaced (h : (inner.parse input).IsPlaced input) :
    ((nullable inner).parse input).IsPlaced input := by
  by_cases hnull : input = some .null
  · rw [hnull]
    exact .ok
  · rw [parse_nullable_of_ne hnull]
    exact h.map some

section Containers

variable (h : ∀ x, (element.parse (some x)).IsPlaced (some x))
include h

theorem parse_array_isPlaced : ((array element).parse input).IsPlaced input := by
  rw [parse_array]
  apply Parts.requireArray_bind_isPlaced
  intro items
  exact Parts.readElements_isPlaced h

theorem parse_set_isPlaced {order : Ord α} :
    ((set order element).parse input).IsPlaced input := by
  rw [parse_set]
  exact (parse_array_isPlaced h).map _

theorem parse_distinct_isPlaced {equality : BEq α} :
    ((distinct equality element).parse input).IsPlaced input := by
  rw [parse_distinct]
  exact (parse_array_isPlaced h).map _

theorem parse_indexed_isPlaced : ((indexed element).parse input).IsPlaced input := by
  rw [parse_indexed]
  apply Parts.requireObject_bind_isPlaced
  intro members
  exact Parts.readMembers_isPlaced h

theorem parse_mapOf_isPlaced {κ : Type} {order : Ord κ} {key : Shape σ κ}
    (hkey : ∀ x, (key.parse (some x)).IsPlaced (some x)) :
    ((mapOf order key element).parse input).IsPlaced input := by
  rw [parse_mapOf]
  apply Parts.requireArray_bind_isPlaced
  intro items
  exact Parts.readPairs_isPlaced hkey h

end Containers

theorem parse_tuple_isPlaced {αs : List Type} {items : Shapes σ αs}
    (h : items.All fun s ↦ ∀ input, (s.parse input).IsPlaced input) :
    ((tuple items).parse input).IsPlaced input := by
  rw [parse_tuple]
  apply (Parts.requireLength_failsWhole.isPlaced Parts.requireLength_fits).bind
  intro raw hraw
  rw [(Parts.requireLength_eq_ok_iff.1 hraw).1]
  have hentries := items.isPlaced_of_mem_parseFrom [] raw h
  rw [List.length_nil, List.nil_append] at hentries
  split
  next => exact .ok
  next errors hread =>
    rw [hread] at hentries
    exact hentries

theorem parse_object_isPlaced {fields : Fields σ} {denyUnknown : Bool}
    (h : fields.All fun s ↦ ∀ input, (s.parse input).IsPlaced input) :
    ((object fields denyUnknown).parse input).IsPlaced input := by
  rw [parse_object]
  apply Parts.requireObject_bind_isPlaced
  intro members
  apply Parts.collectRecord_isPlaced (fields.isPlaced_parse h members)
  split
  next => exact Parts.unknownFields_isPlaced
  next => simp

end Shape

mutual

/-- Every error of a standard shape is placed in the input. -/
theorem Shape.parse_isPlaced {σ : Type} : {α : Type} → (s : Shape σ α) → s.IsStandard →
    (input : Option Json) → (s.parse input).IsPlaced input
  | _, .string _, _, _ => Leaf.readString_failsWhole.isPlaced Leaf.readString_fits
  | _, .number _, _, _ => Leaf.readNumber_failsWhole.isPlaced Leaf.readNumber_fits
  | _, .integer _, _, _ => Leaf.readInteger_failsWhole.isPlaced Leaf.readInteger_fits
  | _, .boolean _, _, _ => Leaf.readBoolean_failsWhole.isPlaced Leaf.readBoolean_fits
  | _, .datetime, _, _ => Leaf.readDatetime_failsWhole.isPlaced Leaf.readDatetime_fits
  | _, .regex _, _, _ => Leaf.readRegex_isPlaced
  | _, .optional inner, h, input => Shape.parse_optional_isPlaced (inner.parse_isPlaced h input)
  | _, .nullable inner, h, input => Shape.parse_nullable_isPlaced (inner.parse_isPlaced h input)
  | _, .union first second, h, input =>
    Parts.readEither_isPlaced (first.parse_fits h.1 input) (second.parse_fits h.2 input)
      (first.parse_isPlaced h.1 input) (second.parse_isPlaced h.2 input)
  | _, .array element, h, _ => Shape.parse_array_isPlaced fun x ↦ element.parse_isPlaced h (some x)
  | _, .set _ element, h, _ => Shape.parse_set_isPlaced fun x ↦ element.parse_isPlaced h (some x)
  | _, .distinct _ element, h, _ =>
    Shape.parse_distinct_isPlaced fun x ↦ element.parse_isPlaced h (some x)
  | _, .indexed value, h, _ => Shape.parse_indexed_isPlaced fun x ↦ value.parse_isPlaced h (some x)
  | _, .mapOf _ key value, h, _ =>
    Shape.parse_mapOf_isPlaced (fun x ↦ value.parse_isPlaced h.2 (some x))
      fun x ↦ key.parse_isPlaced h.1 (some x)
  | _, .tuple items, h, _ => Shape.parse_tuple_isPlaced (items.all_isPlaced h)
  | _, .object fields _, h, _ => Shape.parse_object_isPlaced (fields.all_isPlaced h)

theorem Shapes.all_isPlaced {σ : Type} : {αs : List Type} → (items : Shapes σ αs) →
    items.IsStandard → items.All fun s ↦ ∀ input, (s.parse input).IsPlaced input
  | _, .nil, _ => trivial
  | _, .cons first rest, h => ⟨first.parse_isPlaced h.1, rest.all_isPlaced h.2⟩

theorem Fields.all_isPlaced {σ : Type} : (fields : Fields σ) → fields.IsStandard →
    fields.All fun s ↦ ∀ input, (s.parse input).IsPlaced input
  | .nil, _ => trivial
  | .cons _ _ shape rest, h => ⟨shape.parse_isPlaced h.1, rest.all_isPlaced h.2⟩

end

/-! ## Schemas -/

namespace Schema

variable {σ α : Type} {s : Schema σ α} {raw : Json} {failure : Failure}

/-- The path of an error leads to a value, which is null if the error says that it is missing; or
its beginnings lead to values, the last of them an object without the key that ends the path, and
the error says that the value is missing. -/
theorem reaches_path_of_parse_eq_error (hs : s.shape.IsStandard)
    (h : s.parse raw = .error failure) :
    ∀ entry ∈ failure.errors,
      (∃ sub, raw.Reaches entry.path sub ∧ (entry.kind = .missingValue → sub = .null)) ∨
        entry.kind = .missingValue ∧
          (∀ before, before <+: entry.path → before ≠ entry.path → ∃ sub, raw.Reaches before sub) ∧
          ∃ before name members, entry.path = before ++ [.key name] ∧
            raw.Reaches before (.object members) ∧ name ∉ members.map Prod.fst := by
  intro entry hentry
  have hplaced := s.shape.parse_isPlaced hs (some raw) entry
  rw [show s.shape.parse (some raw) = .error failure from h] at hplaced
  apply (hplaced hentry).imp_right
  rintro ⟨hkind, before, name, members, hpath, hreach, hname⟩
  refine ⟨hkind, fun start hstart hne ↦ ?_, before, name, members, hpath, hreach, hname⟩
  rw [hpath] at hstart hne
  exact hreach.exists_of_isPrefix ((List.prefix_concat_iff.1 hstart).resolve_left hne)

/-- The readings of a sensor by their hours, of days and of nights. -/
def sensorSchema : Schema (SortedMap Int64 Double) (Record (SortedMap Int64 Double)) :=
  let readings : Schema (SortedMap Int64 Double) (SortedMap Int64 Double) :=
    mapOf integer.coerce number
  ⟨.object (.cons "days" (.self _ "readings") readings.shape
    (.cons "nights" (.self _ "readings") readings.shape .nil)) true, none⟩

/-- Without nights; a reading of the days is null, a pair lacks its reading, and a member is not
declared. -/
def brokenSensor : Json :=
  .object [("days", .array [.array [.string "7", .null], .array [.number (.ofInt64 7)]]),
    ("place", .string "roof")]

theorem brokenSensor_reaches_path :
    ∃ failure, sensorSchema.parse brokenSensor = .error failure ∧
      failure.errors.map ErrorEntry.path = [[.key "days", .index 0, .index 1],
        [.key "days", .index 1], [.key "nights"], [.key "place"]] ∧
      ∀ entry ∈ failure.errors,
        (∃ sub, brokenSensor.Reaches entry.path sub ∧
            (entry.kind = .missingValue → sub = .null)) ∨
          entry.kind = .missingValue ∧
            (∀ before, before <+: entry.path → before ≠ entry.path →
              ∃ sub, brokenSensor.Reaches before sub) ∧
            ∃ before name members, entry.path = before ++ [.key name] ∧
              brokenSensor.Reaches before (.object members) ∧ name ∉ members.map Prod.fst :=
  have hstandard : sensorSchema.shape.IsStandard :=
    ⟨⟨trivial, trivial⟩, ⟨trivial, trivial⟩, trivial⟩
  ⟨_, rfl, rfl, reaches_path_of_parse_eq_error hstandard rfl⟩

end Schema

end TwoWaySchema
