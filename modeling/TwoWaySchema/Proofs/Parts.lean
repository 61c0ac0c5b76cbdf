import TwoWaySchema.Proofs.List
import TwoWaySchema.Proofs.Outcome
import TwoWaySchema.Proofs.Sorted

/-!
# Parts of containers

A container is read when each of its parts is, and its value consists of the values of its parts.
Its failures fit its input: an input of another kind is an error about the input itself, and every
other error is about a part.
-/

namespace TwoWaySchema.Parts

variable {α : Type} {input : Option Json} {read : Json → Outcome α}

/-! ## Kinds of containers -/

theorem requireArray_fits : (requireArray input).Fits input := by
  refine .requirePresent fun x hx ↦ ?_
  split
  next => exact .ok
  next => exact .single (by decide) (not_isVacant_some.2 hx)

theorem requireObject_fits : (requireObject input).Fits input := by
  refine .requirePresent fun x hx ↦ ?_
  split
  next => exact .ok
  next => exact .single (by decide) (not_isVacant_some.2 hx)

theorem requireLength_fits {length : Nat} : (requireLength length input).Fits input := by
  refine .requirePresent fun x hx ↦ ?_
  split
  next =>
    split
    next => exact .ok
    next => exact .single (by decide) (not_isVacant_some.2 hx)
  next => exact .single (by decide) (not_isVacant_some.2 hx)

theorem requireArray_failsWhole : (requireArray input).FailsWhole := by
  refine .requirePresent fun x ↦ ?_
  split
  next => exact .ok
  next => exact .single

theorem requireObject_failsWhole : (requireObject input).FailsWhole := by
  refine .requirePresent fun x ↦ ?_
  split
  next => exact .ok
  next => exact .single

theorem requireLength_failsWhole {length : Nat} :
    (requireLength length input).FailsWhole := by
  refine .requirePresent fun x ↦ ?_
  split
  next =>
    split
    next => exact .ok
    next => exact .single
  next => exact .single

theorem requireArray_eq_ok_iff {items : List Json} :
    requireArray input = .ok items ↔ input = some (.array items) := by
  constructor
  · intro h
    obtain ⟨x, hx, rfl, hread⟩ := exists_of_requirePresent_bind h
    split at hread
    next => rw [Except.ok.inj hread]
    next => cases hread
  · rintro rfl
    rfl

theorem requireObject_eq_ok_iff {members : List (String × Json)} :
    requireObject input = .ok members ↔ input = some (.object members) := by
  constructor
  · intro h
    obtain ⟨x, hx, rfl, hread⟩ := exists_of_requirePresent_bind h
    split at hread
    next => rw [Except.ok.inj hread]
    next => cases hread
  · rintro rfl
    rfl

theorem requireLength_eq_ok_iff {length : Nat} {items : List Json} :
    requireLength length input = .ok items ↔
      input = some (.array items) ∧ items.length = length := by
  constructor
  · intro h
    obtain ⟨x, hx, rfl, hread⟩ := exists_of_requirePresent_bind h
    split at hread
    next =>
      split at hread
      next hlength =>
        cases hread
        exact ⟨rfl, hlength⟩
      next => cases hread
    next => cases hread
  · rintro ⟨rfl, hlength⟩
    exact if_pos hlength

theorem requireLength_of_length_ne {length : Nat} {items : List Json}
    (h : items.length ≠ length) :
    requireLength length (some (.array items)) = .error (.shapeMismatch
      (expectedLength length ++ ", found length " ++ toString items.length)) :=
  if_neg h

/-! ## Alternatives -/

theorem readEither_fits {description : Thunk String} {first : Outcome α}
    {second : Thunk (Outcome α)} (hfirst : first.Fits input) (hsecond : second.get.Fits input) :
    (readEither description first second).Fits input := by
  unfold readEither
  split
  next => exact .ok
  next f =>
    split
    next => exact .ok
    next g hg => exact .error (.exhausted (hfirst f rfl) (hsecond g hg))

/-- What is read was read by one of the alternatives. -/
theorem readEither_eq_ok {description : Thunk String} {first : Outcome α}
    {second : Thunk (Outcome α)} {a : α} (h : readEither description first second = .ok a) :
    first = .ok a ∨ second.get = .ok a := by
  unfold readEither at h
  split at h
  next => exact .inl h
  next =>
    split at h
    next hsecond => exact .inr (hsecond.trans h)
    next => cases h

/-- The failure of a union has a summary, unless it is that of a missing value. -/
theorem exhausted_errors_ne_nil {description : Thunk String} {first second : Failure} :
    (exhausted description first second).errors ≠ [] := by
  unfold exhausted
  split
  next => exact List.cons_ne_nil _ _
  next => exact List.cons_ne_nil _ _

theorem readEither_isExplained {description : Thunk String} {first : Outcome α}
    {second : Thunk (Outcome α)} : (readEither description first second).IsExplained := by
  intro failure hfailure
  unfold readEither at hfailure
  split at hfailure
  next => cases hfailure
  next =>
    split at hfailure
    next => cases hfailure
    next =>
      cases hfailure
      exact exhausted_errors_ne_nil

/-! ## Elements -/

/-- Every outcome is that of an item, seen from outside. -/
theorem exists_of_mem_outcomesFrom {items : List Json} {i : Nat} {outcome : Outcome α}
    (h : outcome ∈ outcomesFrom read i items) :
    ∃ j x, items[j]? = some x ∧ outcome = (read x).within (.index (i + j)) := by
  induction items generalizing i with
  | nil => cases h
  | cons item rest ih =>
    rcases List.mem_cons.1 h with rfl | hrest
    · exact ⟨0, item, rfl, rfl⟩
    · obtain ⟨j, x, hx, rfl⟩ := ih hrest
      refine ⟨j + 1, x, hx, ?_⟩
      rw [Nat.add_right_comm, Nat.add_assoc]

theorem forall_mem_outcomesFrom {p : Outcome α → Prop}
    (h : ∀ i x, p ((read x).within (.index i))) (items : List Json) (i : Nat) :
    ∀ outcome ∈ outcomesFrom read i items, p outcome := by
  intro outcome houtcome
  obtain ⟨j, x, -, rfl⟩ := exists_of_mem_outcomesFrom houtcome
  exact h (i + j) x

theorem forall₂_outcomesFrom_iff {items : List Json} {values : List α} {i : Nat} :
    List.Forall₂ (fun outcome a ↦ outcome = .ok a) (outcomesFrom read i items) values ↔
      List.Forall₂ (fun x a ↦ read x = .ok a) items values := by
  induction items generalizing i values with
  | nil => cases values <;> simp [outcomesFrom]
  | cons x rest ih =>
    cases values with
    | nil => simp [outcomesFrom]
    | cons a values =>
      rw [outcomesFrom, List.forall₂_cons, List.forall₂_cons, Outcome.within_eq_ok_iff, ih]

/-- Elements are read when each of them is. -/
theorem readElements_eq_ok_iff {items : List Json} {values : List α}
    (h : ∀ x, (read x).IsExplained) :
    readElements read items = .ok values ↔
      List.Forall₂ (fun x a ↦ read x = .ok a) items values := by
  have hexplained := forall_mem_outcomesFrom (fun i x ↦ (h x).within (.index i)) items 0
  exact (Outcome.collect_eq_ok_iff hexplained).trans forall₂_outcomesFrom_iff

theorem filterMap_toOption_outcomesFrom {items : List Json} {i : Nat} :
    (outcomesFrom read i items).filterMap Except.toOption =
      items.filterMap fun x ↦ (read x).toOption := by
  induction items generalizing i with
  | nil => rfl
  | cons x rest ih =>
    rw [outcomesFrom, List.filterMap_cons, List.filterMap_cons, ih]
    cases read x <;> rfl

/-- The elements that were read are those of the items that could be read. -/
theorem filterMap_of_readElements_eq_ok {items : List Json} {values : List α}
    (h : readElements read items = .ok values) :
    items.filterMap (fun x ↦ (read x).toOption) = values := by
  rw [← (Outcome.collect_eq_ok_iff_errors.1 h).2, filterMap_toOption_outcomesFrom]

/-- Elements that are mapped one by one are mapped all together. -/
theorem readElements_map {β : Type} (f : α → β) (items : List Json) :
    readElements (fun x ↦ (read x).map f) items = (readElements read items).map (List.map f) := by
  have houtcomes (i : Nat) : outcomesFrom (fun x ↦ (read x).map f) i items =
      (outcomesFrom read i items).map (Except.map f) := by
    induction items generalizing i with
    | nil => rfl
    | cons x rest ih =>
      rw [outcomesFrom, outcomesFrom, List.map_cons, ih]
      cases read x <;> rfl
  rw [readElements, readElements, houtcomes, Outcome.collect_map]

theorem readElements_fits {items : List Json} (h : ¬ IsVacant input) :
    (readElements read items).Fits input := by
  refine .collect h (forall_mem_outcomesFrom (fun i x entry hentry ↦ ?_) items 0)
  exact Outcome.path_ne_nil_of_mem_errors_within hentry

theorem areDistinct_iff_pairwise [BEq α] {as : List α} :
    areDistinct as = true ↔ as.Pairwise fun a b ↦ (a == b) = false := by
  induction as with
  | nil => simp [areDistinct]
  | cons a rest ih => simp [areDistinct, List.pairwise_cons, ih, List.contains_eq_any_beq]

theorem mem_of_mem_dropRepeated [BEq α] {as : List α} : ∀ a ∈ dropRepeated as, a ∈ as :=
  mem_of_mem_eraseDupsBy as

theorem dropRepeated_eq_self_iff [BEq α] {as : List α} :
    dropRepeated as = as ↔ areDistinct as = true := by
  rw [areDistinct_iff_pairwise]
  refine ⟨fun h ↦ ?_, eraseDupsBy_of_pairwise⟩
  rw [← h]
  exact pairwise_eraseDupsBy as

/-- Nothing is asked of the equality here, not even that its sides can be exchanged. -/
theorem areDistinct_dropRepeated [BEq α] (as : List α) : areDistinct (dropRepeated as) = true :=
  areDistinct_iff_pairwise.2 (pairwise_eraseDupsBy as)

theorem dropRepeated_dropRepeated [BEq α] (as : List α) :
    dropRepeated (dropRepeated as) = dropRepeated as :=
  dropRepeated_eq_self_iff.2 (areDistinct_dropRepeated as)

theorem dropRepeated_cons [BEq α] (a : α) (rest : List α) :
    dropRepeated (a :: rest) = a :: dropRepeated (rest.filter fun b ↦ !a == b) := by
  rw [dropRepeated, List.eraseDupsBy_cons]
  simp [dropRepeated]

/-- Repeated elements are dropped alike before and after a mapping that keeps apart what differs and
takes equal elements to equal ones. -/
theorem dropRepeated_map {β : Type} [BEq α] [BEq β] {f : α → β} : (as : List α) →
    (∀ a ∈ as, ∀ b ∈ as, (f a == f b) = (a == b)) →
      dropRepeated (as.map f) = (dropRepeated as).map f
  | [], _ => rfl
  | a :: rest, h => by
    have hrest : ∀ b ∈ rest.filter fun b ↦ !a == b, b ∈ a :: rest := fun b hb ↦
      List.mem_cons_of_mem _ (List.mem_of_mem_filter hb)
    have hkept : ((rest.map f).filter fun y ↦ !f a == y) = (rest.filter fun b ↦ !a == b).map f := by
      rw [List.filter_map]
      refine congrArg (List.map f) (List.filter_congr fun b hb ↦ ?_)
      exact congrArg Bool.not (h a List.mem_cons_self b (List.mem_cons_of_mem _ hb))
    rw [List.map_cons, dropRepeated_cons, dropRepeated_cons, hkept, List.map_cons,
      dropRepeated_map _ fun b hb c hc ↦ h b (hrest b hb) c (hrest c hc)]
termination_by as => as.length
decreasing_by exact Nat.lt_succ_of_le (List.length_filter_le _ _)

/-! ## Members -/

theorem readMember_isExplained {member : String × Json} (h : (read member.2).IsExplained) :
    (readMember read member).IsExplained :=
  Outcome.IsExplained.within (h.map _) _

theorem readMember_eq_ok_iff {member : String × Json} {entry : String × α} :
    readMember read member = .ok entry ↔ entry.1 = member.1 ∧ read member.2 = .ok entry.2 := by
  obtain ⟨key, a⟩ := entry
  rw [readMember, Outcome.within_eq_ok_iff, map_eq_ok_iff]
  simp only [Prod.mk.injEq]
  grind

/-- Members are read when the value of each of them is. -/
theorem readMembers_eq_ok_iff {members : List (String × Json)} {map : SortedMap String α}
    (h : ∀ x, (read x).IsExplained) :
    readMembers read members = .ok map ↔
      ∃ entries, List.Forall₂ (fun member entry ↦ entry.1 = member.1 ∧ read member.2 = .ok entry.2)
        members entries ∧ .ofList entries = map := by
  have hexplained : ∀ outcome ∈ members.map (readMember read), outcome.IsExplained :=
    List.forall_mem_map.2 fun member _ ↦ readMember_isExplained (h member.2)
  unfold readMembers
  rw [map_eq_ok_iff]
  refine exists_congr fun entries ↦ and_congr_left fun _ ↦ ?_
  rw [Outcome.collect_eq_ok_iff hexplained, List.forall₂_map_left_iff]
  simp only [readMember_eq_ok_iff]

theorem readMembers_fits {members : List (String × Json)} (h : ¬ IsVacant input) :
    (readMembers read members).Fits input := by
  refine .map (.collect h (List.forall_mem_map.2 fun member _ entry hentry ↦ ?_)) _
  exact Outcome.path_ne_nil_of_mem_errors_within hentry

/-! ## Pairs -/

section Pairs

variable {κ ν : Type} {readKey : Json → Outcome κ} {readValue : Json → Outcome ν}

theorem readPair_eq_ok_iff {x : Json} {entry : κ × ν} :
    readPair readKey readValue x = .ok entry ↔
      ∃ k v, x = .array [k, v] ∧ readKey k = .ok entry.1 ∧ readValue v = .ok entry.2 := by
  unfold readPair
  split
  next k v =>
    split
    next key value hkey hvalue => simp [hkey, hvalue, Prod.ext_iff]
    next hother =>
      refine iff_of_false nofun ?_
      rintro ⟨_, _, ⟨⟩, hkey, hvalue⟩
      exact hother _ _ hkey hvalue
  next hother =>
    refine iff_of_false nofun ?_
    rintro ⟨k, v, rfl, -⟩
    exact hother k v rfl

theorem readPair_isExplained (hkey : ∀ x, (readKey x).IsExplained)
    (hvalue : ∀ x, (readValue x).IsExplained) (x : Json) :
    (readPair readKey readValue x).IsExplained := by
  unfold readPair
  split
  next k v =>
    split
    next => exact fun _ h ↦ by cases h
    next hother =>
      rintro _ ⟨⟩ hnil
      simp only [List.append_eq_nil_iff, Outcome.errors_within, List.map_eq_nil_iff] at hnil
      obtain ⟨key, hk⟩ := (hkey k).exists_eq_ok hnil.1
      obtain ⟨value, hv⟩ := (hvalue v).exists_eq_ok hnil.2
      exact hother key value hk hv
  next =>
    rintro _ ⟨⟩
    exact List.cons_ne_nil _ _

variable [Ord κ] {read : Json → Outcome (κ × ν)}

/-- Pairs are added without an error when each is read and their keys are new one after another. -/
theorem addPairs_eq_iff (h : ∀ x, (read x).IsExplained) {items : List Json} {i : Nat}
    {map result : SortedMap κ ν} :
    addPairs read i map items = ([], result) ↔
      ∃ entries, List.Forall₂ (fun x entry ↦ read x = .ok entry) items entries ∧
        map.AreNew entries ∧ map.insertAll entries = result := by
  induction items generalizing i map with
  | nil => simp [addPairs, SortedMap.AreNew, SortedMap.insertAll]
  | cons x rest ih =>
    simp only [List.forall₂_cons_left_iff]
    rw [addPairs]
    cases hx : read x with
    | error failure =>
      have hne := h x failure hx
      simp [Outcome.within, Failure.within, hne]
    | ok entry =>
      obtain ⟨key, value⟩ := entry
      cases hcontains : map.contains key with
      | true =>
        refine iff_of_false (by simp [Outcome.within, hcontains]) ?_
        rintro ⟨_, ⟨_, entries, ⟨⟩, -, rfl⟩, ⟨hnew, -⟩, -⟩
        rw [hcontains] at hnew
        cases hnew
      | false =>
        simp only [Outcome.within, hcontains, Bool.false_eq_true, if_false, ih]
        constructor
        · rintro ⟨entries, hread, hnew, rfl⟩
          exact ⟨_, ⟨_, entries, rfl, hread, rfl⟩, ⟨hcontains, hnew⟩, rfl⟩
        · rintro ⟨_, ⟨_, entries, ⟨⟩, hread, rfl⟩, ⟨-, hnew⟩, rfl⟩
          exact ⟨entries, hread, hnew, rfl⟩

/-- An error of a list of pairs is one of a pair, or about the key of a pair that was read. -/
theorem exists_of_mem_addPairs {items : List Json} {i : Nat} {map : SortedMap κ ν}
    {entry : ErrorEntry} (h : entry ∈ (addPairs read i map items).1) :
    ∃ j x, items[j]? = some x ∧ (entry ∈ ((read x).within (.index (i + j))).errors ∨
      entry = duplicateKey (i + j) ∧ ∃ pair, read x = .ok pair) := by
  induction items generalizing i map with
  | nil => simp [addPairs] at h
  | cons item rest ih =>
    have hnext : ∀ map : SortedMap κ ν, entry ∈ (addPairs read (i + 1) map rest).1 →
        ∃ j x, (item :: rest)[j]? = some x ∧
          (entry ∈ ((read x).within (.index (i + j))).errors ∨
            entry = duplicateKey (i + j) ∧ ∃ pair, read x = .ok pair) := by
      intro map hmap
      obtain ⟨j, x, hx, hentry⟩ := ih hmap
      rw [Nat.add_right_comm, Nat.add_assoc] at hentry
      exact ⟨j + 1, x, hx, hentry⟩
    rw [addPairs] at h
    split at h
    next key value hread =>
      split at h
      next =>
        rcases List.mem_cons.1 h with rfl | hrest
        · exact ⟨0, item, rfl, .inr ⟨rfl, _, Outcome.within_eq_ok_iff.1 hread⟩⟩
        · exact hnext _ hrest
      next => exact hnext _ h
    next failure hread =>
      rcases List.mem_append.1 h with hfirst | hrest
      · refine ⟨0, item, rfl, .inl ?_⟩
        rw [Nat.add_zero, hread]
        exact hfirst
      · exact hnext _ hrest

theorem path_ne_nil_of_mem_addPairs {items : List Json} {i : Nat} {map : SortedMap κ ν} :
    ∀ entry ∈ (addPairs read i map items).1, entry.path ≠ [] := by
  intro entry hentry
  obtain ⟨j, x, -, hpair | ⟨rfl, -⟩⟩ := exists_of_mem_addPairs hentry
  · exact Outcome.path_ne_nil_of_mem_errors_within hpair
  · exact List.cons_ne_nil _ _

/-- Pairs are read when each of them is and no key comes twice. -/
theorem readPairs_eq_ok_iff (hkey : ∀ x, (readKey x).IsExplained)
    (hvalue : ∀ x, (readValue x).IsExplained) {items : List Json} {map : SortedMap κ ν} :
    readPairs readKey readValue items = .ok map ↔
      ∃ entries, List.Forall₂ (fun x entry ↦ ∃ k v, x = .array [k, v] ∧
          readKey k = .ok entry.1 ∧ readValue v = .ok entry.2) items entries ∧
        SortedMap.empty.AreNew entries ∧ .ofList entries = map := by
  have hadd : addPairs (readPair readKey readValue) 0 .empty items = ([], map) ↔ _ :=
    addPairs_eq_iff (readPair_isExplained hkey hvalue)
  simp only [readPair_eq_ok_iff] at hadd
  refine Iff.trans ?_ hadd
  unfold readPairs
  cases addPairs (readPair readKey readValue) 0 .empty items with
  | mk errors result => cases errors <;> simp

theorem readPairs_fits {items : List Json} (h : ¬ IsVacant input) :
    (readPairs readKey readValue items : Outcome (SortedMap κ ν)).Fits input := by
  have hpath : ∀ entry ∈ (addPairs (readPair readKey readValue) 0 .empty items).1,
      entry.path ≠ [] := path_ne_nil_of_mem_addPairs
  unfold readPairs
  cases hadd : addPairs (readPair readKey readValue) 0 .empty items with
  | mk errors result =>
    rw [hadd] at hpath
    simp only
    split
    next => exact .ok
    next herrors =>
      exact .error (.of_nested (fun hnil ↦ herrors (List.isEmpty_iff.2 hnil)) hpath h)

end Pairs

/-! ## Fields -/

section Fields

variable {σ : Type} {slots : List (String × Outcome σ)} {others : List ErrorEntry}

theorem unknownFields_eq_nil_iff {names : List String} {members : List (String × Json)} :
    unknownFields names members = [] ↔ ∀ member ∈ members, member.1 ∈ names := by
  simp [unknownFields, List.filter_eq_nil_iff]

theorem path_ne_nil_of_mem_unknownFields {names : List String} {members : List (String × Json)} :
    ∀ entry ∈ unknownFields names members, entry.path ≠ [] :=
  List.forall_mem_map.2 fun _ _ ↦ List.cons_ne_nil _ _

theorem storeAll_eq {r : Record σ} {values : List σ}
    (hnames : (r.names ++ slots.map Prod.fst).Nodup)
    (h : List.Forall₂ (fun slot value ↦ slot.2 = .ok value) slots values) :
    storeAll r slots = ⟨r.fields ++ (slots.map Prod.fst).zip values⟩ := by
  induction h generalizing r with
  | nil => simp [storeAll]
  | @cons slot value rest values hslot _ ih =>
    obtain ⟨name, outcome⟩ := slot
    obtain rfl : outcome = .ok value := hslot
    have hname : name ∉ r.names := fun hmem ↦
      (List.nodup_append.1 hnames).2.2 name hmem name List.mem_cons_self rfl
    have hstore : r.store name value = ⟨r.fields ++ [(name, value)]⟩ :=
      congrArg Record.mk (storeEntry_of_notMem hname)
    rw [storeAll, hstore, ih (by simpa [Record.names] using hnames)]
    simp

/-- Only slots that were read are stored. -/
theorem map_fst_storeAll_sublist {r : Record σ} (hnames : (r.names ++ slots.map Prod.fst).Nodup) :
    (storeAll r slots).names.Sublist (r.names ++ slots.map Prod.fst) := by
  induction slots generalizing r with
  | nil => exact (List.append_nil _).symm ▸ .refl _
  | cons slot rest ih =>
    obtain ⟨name, outcome⟩ := slot
    cases outcome with
    | error failure =>
      have hrest : (r.names ++ rest.map Prod.fst).Sublist (r.names ++ name :: rest.map Prod.fst) :=
        (List.sublist_cons_self _ _).append_left _
      exact (ih (hnames.sublist hrest)).trans hrest
    | ok value =>
      have hname : name ∉ r.names := fun hmem ↦
        (List.nodup_append.1 hnames).2.2 name hmem name List.mem_cons_self rfl
      have hstore : (r.store name value).names = r.names ++ [name] :=
        map_fst_storeEntry_of_notMem hname
      have hstored := ih (r := r.store name value)
      rw [hstore, List.append_assoc] at hstored
      exact hstored hnames

theorem errors_collectRecord :
    (collectRecord slots others).errors =
      slots.flatMap (fun slot ↦ slot.2.errors) ++ others := by
  unfold collectRecord
  cases slots.flatMap (fun slot ↦ slot.2.errors) ++ others <;> rfl

theorem names_sublist_of_collectRecord {r : Record σ} (hnames : (slots.map Prod.fst).Nodup)
    (h : collectRecord slots others = .ok r) : r.names.Sublist (slots.map Prod.fst) := by
  unfold collectRecord at h
  simp only at h
  split at h
  next =>
    cases h
    exact map_fst_storeAll_sublist hnames
  next => cases h

theorem flatMap_errors_eq_nil {values : List σ}
    (h : List.Forall₂ (fun slot value ↦ slot.2 = .ok value) slots values) :
    slots.flatMap (fun slot ↦ slot.2.errors) = [] := by
  induction h with
  | nil => rfl
  | cons hslot _ ih =>
    rw [List.flatMap_cons, hslot, ih]
    rfl

/-- A record is collected when every slot was read and there are no other errors. -/
theorem collectRecord_eq_ok_iff {r : Record σ} (hnames : (slots.map Prod.fst).Nodup)
    (h : ∀ slot ∈ slots, slot.2.IsExplained) :
    collectRecord slots others = .ok r ↔ others = [] ∧
      ∃ values, List.Forall₂ (fun slot value ↦ slot.2 = .ok value) slots values ∧
        r = ⟨(slots.map Prod.fst).zip values⟩ := by
  have hnames' : ((Record.empty : Record σ).names ++ slots.map Prod.fst).Nodup := hnames
  unfold collectRecord
  constructor
  · intro hr
    simp only at hr
    split at hr
    next hnil =>
      cases hr
      obtain ⟨hslots, hothers⟩ := List.append_eq_nil_iff.1 (List.isEmpty_iff.1 hnil)
      obtain ⟨values, hvalues⟩ : ∃ values, Outcome.collect (slots.map Prod.snd) = .ok values := by
        unfold Outcome.collect
        simp only [List.flatMap_map, hslots]
        exact ⟨_, rfl⟩
      have hall := (Outcome.collect_eq_ok_iff (List.forall_mem_map.2 h)).1 hvalues
      rw [List.forall₂_map_left_iff] at hall
      exact ⟨hothers, values, hall, storeAll_eq hnames' hall⟩
    next => cases hr
  · rintro ⟨rfl, values, hall, rfl⟩
    simp only [flatMap_errors_eq_nil hall, List.append_nil, List.isEmpty_nil, if_true]
    exact congrArg Except.ok (storeAll_eq hnames' hall)

/-- A record is collected when its fields are the slots that were read, under their names. -/
theorem collectRecord_eq_ok_iff_forall₂ {r : Record σ} (hnames : (slots.map Prod.fst).Nodup)
    (h : ∀ slot ∈ slots, slot.2.IsExplained) :
    collectRecord slots others = .ok r ↔ others = [] ∧
      List.Forall₂ (fun slot field ↦ field.1 = slot.1 ∧ slot.2 = .ok field.2) slots r.fields := by
  rw [collectRecord_eq_ok_iff hnames h]
  refine and_congr_right fun _ ↦ ⟨?_, fun hfields ↦ ?_⟩
  · rintro ⟨values, hvalues, rfl⟩
    induction hvalues with
    | nil => exact .nil
    | cons hslot _ ih =>
      obtain ⟨-, hrest⟩ := List.nodup_cons.1 hnames
      exact .cons ⟨rfl, hslot⟩ (ih hrest (List.forall_mem_cons.1 h).2)
  · obtain ⟨fields⟩ := r
    refine ⟨fields.map Prod.snd, ?_, ?_⟩
    · rw [List.forall₂_map_right_iff]
      exact hfields.imp fun _ _ hslot ↦ hslot.2
    · have hkeys : fields.map Prod.fst = slots.map Prod.fst :=
        map_fst_eq_of_forall₂ (hfields.imp fun _ _ hslot ↦ hslot.1)
      rw [← hkeys, ← List.zip_of_prod rfl rfl]

theorem collectRecord_fits (h : ¬ IsVacant input)
    (hslots : ∀ slot ∈ slots, ∀ entry ∈ slot.2.errors, entry.path ≠ [])
    (hothers : ∀ entry ∈ others, entry.path ≠ []) :
    (collectRecord slots others).Fits input := by
  unfold collectRecord
  simp only
  split
  next => exact .ok
  next herrors =>
    have hnested : ∀ entry ∈ (slots.flatMap fun slot ↦ slot.2.errors) ++ others,
        entry.path ≠ [] := by
      intro entry hentry
      rcases List.mem_append.1 hentry with hslot | hother
      · obtain ⟨slot, hslot, hmem⟩ := List.mem_flatMap.1 hslot
        exact hslots slot hslot entry hmem
      · exact hothers entry hother
    exact .error (.of_nested (fun hnil ↦ herrors (List.isEmpty_iff.2 hnil)) hnested h)

end Fields

end TwoWaySchema.Parts
