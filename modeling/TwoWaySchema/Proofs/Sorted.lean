import Mathlib.Data.List.Nodup
import TwoWaySchema.Proofs.List
import TwoWaySchema.Proofs.Lookup
import TwoWaySchema.Sorted

/-!
# Sorted sets and maps

In a linear order a sorted map is a function on its keys.  Insertion changes it at one key, entries
with distinct keys are all found again, and a list of entries in ascending order is its own map.  A
sorted set is the keys of a map that has nothing to say about them.
-/

namespace TwoWaySchema

section Entries

variable {κ : Type} {ν : Type} [Ord κ] {key other : κ} {value : ν} {entries : List (κ × ν)}

theorem mem_insertEntry {entry : κ × ν} (h : entry ∈ insertEntry key value entries) :
    entry = (key, value) ∨ entry ∈ entries := by
  induction entries with
  | nil => exact .inl (List.mem_singleton.1 h)
  | cons head rest ih =>
    rw [insertEntry] at h
    split at h <;> grind

theorem lookupEntry?_eq_none_iff :
    lookupEntry? key entries = none ↔ ∀ entry ∈ entries, compare key entry.1 ≠ .eq := by
  induction entries with
  | nil => exact iff_of_true rfl nofun
  | cons head rest ih =>
    unfold lookupEntry?
    by_cases hhead : compare key head.1 = .eq <;> simp [hhead, ih]

/-- A new key takes the place of no other entry. -/
theorem insertEntry_perm (h : ∀ entry ∈ entries, compare key entry.1 ≠ .eq) :
    (insertEntry key value entries).Perm ((key, value) :: entries) := by
  induction entries with
  | nil => exact .refl _
  | cons head rest ih =>
    obtain ⟨hhead, hrest⟩ := List.forall_mem_cons.1 h
    rw [insertEntry]
    cases hcompare : compare key head.1 with
    | lt => exact .refl _
    | eq => exact absurd hcompare hhead
    | gt => exact ((ih hrest).cons head).trans (.swap _ _ _)

/-- A key that is larger than all others goes to the end. -/
theorem insertEntry_of_forall_lt [Std.TransOrd κ]
    (h : ∀ entry ∈ entries, compare entry.1 key = .lt) :
    insertEntry key value entries = entries ++ [(key, value)] := by
  induction entries with
  | nil => rfl
  | cons head rest ih =>
    obtain ⟨hhead, hrest⟩ := List.forall_mem_cons.1 h
    have hgt : compare key head.1 = .gt := Std.OrientedCmp.gt_of_lt hhead
    rw [insertEntry]
    simp only [hgt, ih hrest, List.cons_append]

variable [Std.TransOrd κ]

/-- An entry whose key compares equal gives up its place, but not its key. -/
theorem exists_mem_insertEntry_iff :
    (∃ entry ∈ insertEntry key value entries, compare other entry.1 = .eq) ↔
      compare other key = .eq ∨ ∃ entry ∈ entries, compare other entry.1 = .eq := by
  induction entries with
  | nil => simp [insertEntry]
  | cons head rest ih =>
    rw [insertEntry]
    cases hcompare : compare key head.1 with
    | lt => simp
    | eq =>
      have hhead : compare other head.1 = compare other key :=
        (Std.TransCmp.congr_right hcompare).symm
      simp [hhead]
    | gt => simp [ih, or_left_comm]

theorem isAscending_insertEntry (h : IsAscending (entries.map Prod.fst)) :
    IsAscending ((insertEntry key value entries).map Prod.fst) := by
  induction entries with
  | nil => simp [insertEntry, IsAscending]
  | cons head rest ih =>
    obtain ⟨hhead, hrest⟩ := List.pairwise_cons.1 h
    rw [insertEntry]
    cases hcompare : compare key head.1 with
    | lt =>
      refine List.pairwise_cons.2 ⟨fun later hlater ↦ ?_, h⟩
      rcases List.mem_cons.1 hlater with rfl | hlater
      · exact hcompare
      · exact Std.TransCmp.lt_trans hcompare (hhead later hlater)
    | eq =>
      refine List.pairwise_cons.2 ⟨fun later hlater ↦ ?_, hrest⟩
      exact Std.TransCmp.lt_of_eq_of_lt hcompare (hhead later hlater)
    | gt =>
      refine List.pairwise_cons.2 ⟨fun later hlater ↦ ?_, ih hrest⟩
      obtain ⟨entry, hentry, rfl⟩ := List.mem_map.1 hlater
      rcases mem_insertEntry hentry with rfl | hentry
      · exact Std.OrientedCmp.lt_of_gt hcompare
      · exact hhead _ (List.mem_map_of_mem hentry)

theorem IsAscending.nodup {keys : List κ} (h : IsAscending keys) : keys.Nodup := by
  apply h.imp
  intro a b hlt heq
  rw [heq, Std.ReflOrd.compare_self] at hlt
  cases hlt

/-- What compares equal to the elements one by one is in the same order. -/
theorem IsAscending.of_forall₂ {keys others : List κ} (h : IsAscending keys)
    (hequal : List.Forall₂ (fun a b ↦ compare a b = .eq) keys others) : IsAscending others := by
  refine pairwise_of_forall₂ (fun a b c d hac hbd hab ↦ ?_) h hequal
  have hcb : compare c b = .lt := Std.TransCmp.lt_of_eq_of_lt (Std.OrientedCmp.eq_symm hac) hab
  exact Std.TransCmp.lt_of_lt_of_eq hcb hbd

variable [Std.LawfulEqOrd κ]

theorem lookup_insertEntry_self [BEq κ] [LawfulBEq κ] :
    (insertEntry key value entries).lookup key = some value := by
  induction entries with
  | nil => simp [insertEntry]
  | cons head rest ih =>
    rw [insertEntry]
    cases hcompare : compare key head.1 with
    | lt | eq => simp
    | gt =>
      have hne : key ≠ head.1 := by
        rintro rfl
        simp at hcompare
      exact (lookup_cons_of_ne hne).trans ih

omit [Std.TransOrd κ] in
theorem lookup_insertEntry_of_ne [BEq κ] [LawfulBEq κ] (h : other ≠ key) :
    (insertEntry key value entries).lookup other = entries.lookup other := by
  induction entries with
  | nil => simpa [insertEntry] using h
  | cons head rest ih =>
    rw [insertEntry]
    cases hcompare : compare key head.1 with
    | lt => exact lookup_cons_of_ne h
    | eq =>
      have hkey : key = head.1 := Std.LawfulEqOrd.eq_of_compare hcompare
      exact (lookup_cons_of_ne h).trans (lookup_cons_of_ne (hkey ▸ h)).symm
    | gt =>
      obtain ⟨name, stored⟩ := head
      simp only [List.lookup_cons]
      rw [ih]

end Entries

namespace SortedMap

variable {κ : Type} {ν : Type} [Ord κ] {m : SortedMap κ ν} {entries : List (κ × ν)}

/-- The map with the entries of a list inserted one after another. -/
def insertAll (m : SortedMap κ ν) (entries : List (κ × ν)) : SortedMap κ ν :=
  entries.foldl (fun m entry ↦ m.insert entry.1 entry.2) m

theorem mem_insertAll {entry : κ × ν} (h : entry ∈ (m.insertAll entries).entries) :
    entry ∈ m.entries ∨ entry ∈ entries := by
  induction entries generalizing m with
  | nil => exact .inl h
  | cons first rest ih =>
    rcases ih h with hinsert | hrest
    · rcases mem_insertEntry hinsert with rfl | hm
      · exact .inr List.mem_cons_self
      · exact .inl hm
    · exact .inr (List.mem_cons_of_mem _ hrest)

theorem mem_of_mem_ofList {entry : κ × ν} (h : entry ∈ (ofList entries).entries) :
    entry ∈ entries := by
  rcases mem_insertAll (m := .empty) h with hempty | hentry
  · cases hempty
  · exact hentry

theorem contains_iff {key : κ} :
    m.contains key = true ↔ ∃ entry ∈ m.entries, compare key entry.1 = .eq := by
  rw [contains, get?, Option.isSome_iff_ne_none, Ne, lookupEntry?_eq_none_iff]
  simp only [not_forall, not_not, exists_prop]

variable [Std.TransOrd κ]

omit [Std.TransOrd κ] in
theorem forall_lt_of_isAscending {entry : κ × ν}
    (h : IsAscending ((m.entries ++ entry :: entries).map Prod.fst)) :
    ∀ earlier ∈ m.entries, compare earlier.1 entry.1 = .lt := by
  rw [List.map_append, IsAscending, List.pairwise_append] at h
  intro earlier hearlier
  exact h.2.2 _ (List.mem_map_of_mem hearlier) _ List.mem_cons_self

theorem insertAll_of_isAscending (h : IsAscending ((m.entries ++ entries).map Prod.fst)) :
    (m.insertAll entries).entries = m.entries ++ entries := by
  induction entries generalizing m with
  | nil => exact (List.append_nil _).symm
  | cons entry rest ih =>
    have hinsert : (m.insert entry.1 entry.2).entries = m.entries ++ [entry] :=
      insertEntry_of_forall_lt (forall_lt_of_isAscending h)
    have hrest := ih (m := m.insert entry.1 entry.2) (by simpa [hinsert] using h)
    rw [hinsert, List.append_assoc] at hrest
    exact hrest

theorem ofList_of_isAscending (h : IsAscending (entries.map Prod.fst)) :
    (ofList entries).entries = entries :=
  insertAll_of_isAscending (m := .empty) h

omit [Std.TransOrd κ] in
/-- The keys of the entries are new, each of them to the map with the entries before it. -/
def AreNew (m : SortedMap κ ν) : List (κ × ν) → Prop
  | [] => True
  | entry :: rest => m.contains entry.1 = false ∧ (m.insert entry.1 entry.2).AreNew rest

theorem contains_eq_false_of_forall_lt {key : κ}
    (h : ∀ entry ∈ m.entries, compare entry.1 key = .lt) : m.contains key = false := by
  refine Bool.eq_false_iff.2 fun hcontains ↦ ?_
  obtain ⟨entry, hentry, heq⟩ := contains_iff.1 hcontains
  have hlt := h entry hentry
  rw [Std.OrientedCmp.eq_symm heq] at hlt
  cases hlt

theorem contains_insert_iff {key other : κ} {value : ν} :
    (m.insert key value).contains other = true ↔
      compare other key = .eq ∨ m.contains other = true := by
  rw [contains_iff, contains_iff]
  exact exists_mem_insertEntry_iff

/-- Keys are new one after another when they are new to the map and to the keys before them. -/
theorem areNew_iff :
    m.AreNew entries ↔ (∀ entry ∈ entries, m.contains entry.1 = false) ∧
      entries.Pairwise fun earlier later ↦ compare later.1 earlier.1 ≠ .eq := by
  induction entries generalizing m with
  | nil => simp [AreNew]
  | cons entry rest ih =>
    have hinsert : ∀ later : κ × ν, (m.insert entry.1 entry.2).contains later.1 = false ↔
        compare later.1 entry.1 ≠ .eq ∧ m.contains later.1 = false := fun later ↦ by
      rw [← Bool.not_eq_true, contains_insert_iff, not_or, Bool.not_eq_true]
    rw [AreNew, ih, List.forall_mem_cons, List.pairwise_cons]
    simp only [hinsert]
    grind

omit [Std.TransOrd κ] in
/-- Entries with new keys are all added, and none takes the place of another one. -/
theorem insertAll_perm (h : m.AreNew entries) :
    (m.insertAll entries).entries.Perm (m.entries ++ entries) := by
  induction entries generalizing m with
  | nil => simp [insertAll]
  | cons entry rest ih =>
    have hentry : ∀ other ∈ m.entries, compare entry.1 other.1 ≠ .eq := by
      intro other hother heq
      have hcontains := contains_iff.2 ⟨other, hother, heq⟩
      rw [h.1] at hcontains
      cases hcontains
    have hfirst : (m.insert entry.1 entry.2).entries.Perm (entry :: m.entries) :=
      insertEntry_perm hentry
    exact (ih h.2).trans ((hfirst.append_right rest).trans List.perm_middle.symm)

theorem areNew_of_isAscending (h : IsAscending ((m.entries ++ entries).map Prod.fst)) :
    m.AreNew entries := by
  induction entries generalizing m with
  | nil => trivial
  | cons entry rest ih =>
    have hlast := forall_lt_of_isAscending h
    refine ⟨contains_eq_false_of_forall_lt hlast, ih ?_⟩
    rw [insert, insertEntry_of_forall_lt hlast, List.append_assoc]
    exact h

theorem insertAll_wellFormed (h : m.WellFormed) (entries : List (κ × ν)) :
    (m.insertAll entries).WellFormed := by
  induction entries generalizing m with
  | nil => exact h
  | cons entry rest ih =>
    have hinsert : (m.insert entry.1 entry.2).WellFormed := isAscending_insertEntry h
    exact ih hinsert

theorem ofList_wellFormed : (ofList entries).WellFormed :=
  insertAll_wellFormed (m := .empty) List.Pairwise.nil entries

theorem nodup_keys_ofList : ((ofList entries).entries.map Prod.fst).Nodup :=
  IsAscending.nodup ofList_wellFormed

theorem ofList_entries_ofList :
    (ofList (ofList entries).entries).entries = (ofList entries).entries :=
  ofList_of_isAscending ofList_wellFormed

variable [Std.LawfulEqOrd κ]

theorem lookup_insertAll [BEq κ] [LawfulBEq κ] (h : (entries.map Prod.fst).Nodup)
    (m : SortedMap κ ν) (key : κ) :
    (m.insertAll entries).entries.lookup key =
      (entries.lookup key).or (m.entries.lookup key) := by
  induction entries generalizing m with
  | nil => rfl
  | cons entry rest ih =>
    obtain ⟨name, value⟩ := entry
    obtain ⟨hentry, hrest⟩ := List.nodup_cons.1 h
    refine (ih hrest (m.insert name value)).trans ?_
    by_cases hkey : key = name
    · have hnone : rest.lookup key = none := lookup_eq_none_iff_notMem.2 (hkey ▸ hentry)
      rw [hnone, hkey]
      simp [SortedMap.insert, lookup_insertEntry_self]
    · rw [lookup_cons_of_ne hkey]
      simp only [SortedMap.insert, lookup_insertEntry_of_ne hkey]

/-- Entries with distinct keys are all found in their map. -/
theorem lookup_ofList [BEq κ] [LawfulBEq κ] (h : (entries.map Prod.fst).Nodup) (key : κ) :
    (ofList entries).entries.lookup key = entries.lookup key := by
  refine (lookup_insertAll h .empty key).trans ?_
  simp [SortedMap.empty]

end SortedMap

namespace SortedSet

variable {α : Type} [Ord α] {elements : List α}

/-- The elements as the keys of entries without values. -/
def asEntries (elements : List α) : List (α × Unit) :=
  elements.map (·, ())

omit [Ord α] in
@[simp]
theorem map_fst_asEntries (elements : List α) : (asEntries elements).map Prod.fst = elements := by
  simp [asEntries, Function.comp_def]

theorem asEntries_insertSorted (a : α) (elements : List α) :
    asEntries (insertSorted a elements) = insertEntry a () (asEntries elements) := by
  induction elements with
  | nil => rfl
  | cons b rest ih =>
    change asEntries (insertSorted a (b :: rest)) = insertEntry a () ((b, ()) :: asEntries rest)
    rw [insertEntry, insertSorted]
    cases compare a b with
    | lt | eq => rfl
    | gt => exact congrArg ((b, ()) :: ·) ih

theorem asEntries_ofList (elements : List α) :
    asEntries (ofList elements).elements = (SortedMap.ofList (asEntries elements)).entries := by
  have hinsert : ∀ (elements : List α) (s : SortedSet α),
      asEntries (elements.foldl insert s).elements =
        (SortedMap.insertAll ⟨asEntries s.elements⟩ (asEntries elements)).entries := by
    intro elements
    induction elements with
    | nil => exact fun _ ↦ rfl
    | cons a rest ih =>
      intro s
      rw [List.foldl_cons, ih, SortedSet.insert, asEntries_insertSorted]
      rfl
  exact hinsert elements .empty

theorem elements_ofList (elements : List α) :
    (ofList elements).elements = (SortedMap.ofList (asEntries elements)).keys := by
  rw [SortedMap.keys, ← asEntries_ofList, map_fst_asEntries]

theorem mem_of_mem_ofList {a : α} (h : a ∈ (ofList elements).elements) : a ∈ elements := by
  rw [elements_ofList] at h
  obtain ⟨entry, hentry, rfl⟩ := List.mem_map.1 h
  rw [← map_fst_asEntries elements]
  exact List.mem_map_of_mem (SortedMap.mem_of_mem_ofList hentry)

variable [Std.TransOrd α]

theorem ofList_wellFormed : (ofList elements).WellFormed := by
  rw [WellFormed, elements_ofList]
  exact SortedMap.ofList_wellFormed

theorem ofList_of_isAscending (h : IsAscending elements) :
    (ofList elements).elements = elements := by
  have hkeys : IsAscending ((asEntries elements).map Prod.fst) := by rwa [map_fst_asEntries]
  rw [elements_ofList, SortedMap.keys, SortedMap.ofList_of_isAscending hkeys, map_fst_asEntries]

end SortedSet

end TwoWaySchema
