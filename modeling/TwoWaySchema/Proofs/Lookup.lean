import Mathlib.Data.List.Nodup
import TwoWaySchema.Record

/-!
# Looking up names

Lists of named values, in which the first value under a name counts: what storing a value does to
the names, what a look-up finds, and which changes of the list it does not see.
-/

namespace TwoWaySchema

universe u

/-! ## Storing a value -/

section Store

variable {α : Type u} {κ : Type} [DecidableEq κ] {key other : κ} {value : α}
  {entries : List (κ × α)}

/-- A value under a new key comes after all others. -/
theorem storeEntry_of_notMem (h : key ∉ entries.map Prod.fst) :
    storeEntry key value entries = entries ++ [(key, value)] := by
  induction entries with
  | nil => rfl
  | cons entry rest ih =>
    obtain ⟨hentry, hrest⟩ := not_or.1 (mt List.mem_cons.2 h)
    rw [storeEntry, if_neg (Ne.symm hentry), ih hrest, List.cons_append]

theorem map_fst_storeEntry_of_notMem (h : key ∉ entries.map Prod.fst) :
    (storeEntry key value entries).map Prod.fst = entries.map Prod.fst ++ [key] := by
  rw [storeEntry_of_notMem h, List.map_append, List.map_cons, List.map_nil]

/-- A key that is in use stays where it is. -/
theorem map_fst_storeEntry_of_mem (h : key ∈ entries.map Prod.fst) :
    (storeEntry key value entries).map Prod.fst = entries.map Prod.fst := by
  induction entries with
  | nil => cases h
  | cons entry rest ih =>
    rw [storeEntry]
    split
    next => rfl
    next hentry =>
      have hrest := (List.mem_cons.1 h).resolve_left (Ne.symm hentry)
      rw [List.map_cons, ih hrest, List.map_cons]

theorem nodup_map_fst_storeEntry (h : (entries.map Prod.fst).Nodup) :
    ((storeEntry key value entries).map Prod.fst).Nodup := by
  by_cases hkey : key ∈ entries.map Prod.fst
  · rwa [map_fst_storeEntry_of_mem hkey]
  · rw [map_fst_storeEntry_of_notMem hkey]
    exact List.nodup_append.2 ⟨h, List.nodup_singleton _, fun other hother new hnew heq ↦
      hkey (List.mem_singleton.1 hnew ▸ heq ▸ hother)⟩

end Store

/-! ## Looking up a name -/

variable {α : Type u} {κ : Type} [BEq κ] [LawfulBEq κ] {key other : κ} {value : α}
  {entries : List (κ × α)}

theorem mem_of_lookup_eq_some (h : entries.lookup key = some value) : (key, value) ∈ entries := by
  obtain ⟨before, after, rfl, -⟩ := List.lookup_eq_some_iff.1 h
  simp

theorem lookup_eq_none_iff_notMem : entries.lookup key = none ↔ key ∉ entries.map Prod.fst := by
  rw [List.lookup_eq_none_iff]
  constructor
  · intro h hmem
    obtain ⟨entry, hentry, rfl⟩ := List.mem_map.1 hmem
    simpa using h entry hentry
  · intro h entry hentry
    rw [bne_iff_ne]
    rintro rfl
    exact h (List.mem_map_of_mem hentry)

theorem exists_lookup_of_mem (h : key ∈ entries.map Prod.fst) :
    ∃ value, entries.lookup key = some value := by
  rw [← Option.ne_none_iff_exists', Ne, lookup_eq_none_iff_notMem]
  exact not_not_intro h

theorem lookup_of_mem (hkeys : (entries.map Prod.fst).Nodup) (h : (key, value) ∈ entries) :
    entries.lookup key = some value := by
  obtain ⟨other, hother⟩ := exists_lookup_of_mem (List.mem_map_of_mem (f := Prod.fst) h)
  have hsame := List.inj_on_of_nodup_map hkeys h (mem_of_lookup_eq_some hother) rfl
  rw [hother, (Prod.mk.inj hsame).2]

theorem lookup_cons_of_ne (h : other ≠ key) :
    List.lookup other ((key, value) :: entries) = entries.lookup other := by
  rw [List.lookup_cons, beq_eq_false_iff_ne.2 h]

/-- Leaving out the entries of one key changes nothing for the others. -/
theorem lookup_filter_of_ne (h : other ≠ key) :
    (entries.filter fun entry ↦ entry.1 != key).lookup other = entries.lookup other := by
  induction entries with
  | nil => rfl
  | cons entry rest ih =>
    obtain ⟨name, value⟩ := entry
    by_cases hname : name = key
    · subst hname
      rw [List.filter_cons_of_neg (by simp), ih, lookup_cons_of_ne h]
    · rw [List.filter_cons_of_pos (by simpa using hname), List.lookup_cons, List.lookup_cons, ih]

/-- With distinct keys the entries of one key are what a look-up finds. -/
theorem filter_eq_toList_lookup (h : (entries.map Prod.fst).Nodup) (key : κ) :
    (entries.filter fun entry ↦ entry.1 == key) = ((entries.lookup key).map (key, ·)).toList := by
  induction entries with
  | nil => rfl
  | cons entry rest ih =>
    obtain ⟨name, value⟩ := entry
    obtain ⟨hname, hrest⟩ := List.nodup_cons.1 h
    by_cases hkey : name = key
    · subst hkey
      have hnone : rest.lookup name = none := lookup_eq_none_iff_notMem.2 hname
      rw [List.filter_cons_of_pos (by simp), ih hrest, hnone, List.lookup_cons_self]
      rfl
    · rw [List.filter_cons_of_neg (by simpa using hkey), ih hrest, lookup_cons_of_ne (Ne.symm hkey)]

theorem lookup_storeEntry [DecidableEq κ] :
    (storeEntry key value entries).lookup other =
      if other = key then some value else entries.lookup other := by
  induction entries with
  | nil =>
    by_cases h : other = key
    · simp [storeEntry, h]
    · rw [storeEntry, lookup_cons_of_ne h, if_neg h]
  | cons entry rest ih =>
    obtain ⟨name, stored⟩ := entry
    rw [storeEntry]
    split
    next hname =>
      subst hname
      by_cases h : other = name
      · simp [h]
      · rw [lookup_cons_of_ne h, lookup_cons_of_ne h, if_neg h]
    next hname =>
      by_cases h : other = name
      · subst h
        simp [hname]
      · rw [lookup_cons_of_ne h, lookup_cons_of_ne h, ih]

/-! ## Values that may be left out -/

/-- The members under these names, without those that are left out. -/
def presentMembers : List String → List (Option α) → List (String × α)
  | name :: names, value :: others => (value.map (name, ·)).toList ++ presentMembers names others
  | _, _ => []

theorem presentMembers_eq_filterMap (names : List String) (values : List (Option α)) :
    presentMembers names values =
      (names.zip values).filterMap fun (name, value) ↦ value.map (name, ·) := by
  induction names generalizing values with
  | nil => rfl
  | cons name names ih =>
    cases values with
    | nil => rfl
    | cons value others => cases value <;> simp [presentMembers, ih]

theorem presentMembers_sublist {names : List String} {values : List (Option α)} :
    ((presentMembers names values).map Prod.fst).Sublist names := by
  induction names generalizing values with
  | nil => exact List.Sublist.refl _
  | cons name names ih =>
    cases values with
    | nil => exact List.nil_sublist _
    | cons value others =>
      cases value with
      | none => exact ih.cons name
      | some x => exact ih.cons_cons name

/-- Under each of distinct names stands what is there for it. -/
theorem lookup_presentMembers {names : List String} {values : List (Option α)}
    (h : names.Nodup) :
    ∀ part ∈ names.zip values, (presentMembers names values).lookup part.1 = part.2 := by
  induction names generalizing values with
  | nil => simp
  | cons name names ih =>
    obtain ⟨hname, hnames⟩ := List.nodup_cons.1 h
    cases values with
    | nil => simp
    | cons value others =>
      have hnone : (presentMembers names others).lookup name = none :=
        lookup_eq_none_iff_notMem.2 fun hmem ↦ hname (presentMembers_sublist.subset hmem)
      refine List.forall_mem_cons.2 ⟨?_, fun part hpart ↦ ?_⟩
      · cases value <;> simp [presentMembers, hnone]
      · have hne : part.1 ≠ name := by
          rintro rfl
          exact hname (List.of_mem_zip hpart).1
        have hrest := ih hnames part hpart
        cases value with
        | none => exact hrest
        | some x => exact (lookup_cons_of_ne hne).trans hrest

theorem map_lookup_presentMembers {names : List String} {values : List (Option α)}
    (h : names.Nodup) (hlength : names.length = values.length) :
    names.map (fun name ↦ (presentMembers names values).lookup name) = values := by
  calc names.map (fun name ↦ (presentMembers names values).lookup name)
      = ((names.zip values).map Prod.fst).map
          fun name ↦ (presentMembers names values).lookup name := by
        rw [List.map_fst_zip (Nat.le_of_eq hlength)]
    _ = (names.zip values).map Prod.snd := by
        rw [List.map_map]
        exact List.map_congr_left (lookup_presentMembers h)
    _ = values := List.map_snd_zip (Nat.le_of_eq hlength.symm)

end TwoWaySchema
