import Mathlib.Data.List.Forall2

/-!
# Lists side by side

Two lists that agree element by element, as a list of pairs or by a relation, lists without their
repeated elements, and the last element of a kind.
-/

namespace TwoWaySchema

universe u v

section Partners

variable {α : Type v} {β : Type u}

/-- Every element of a list has a partner in a list of the same length. -/
theorem exists_mem_zip {as : List α} {bs : List β} {a : α} (length : as.length = bs.length)
    (h : a ∈ as) : ∃ b, (a, b) ∈ as.zip bs := by
  rw [← List.map_fst_zip (Nat.le_of_eq length)] at h
  obtain ⟨⟨a, b⟩, hmem, rfl⟩ := List.mem_map.1 h
  exact ⟨b, hmem⟩

/-- What holds of all partners in a list holds of all its elements. -/
theorem forall_mem_of_forall_mem_zip {as : List α} {bs : List β} {p : β → Prop}
    (length : as.length = bs.length) (h : ∀ item ∈ as.zip bs, p item.2) : ∀ b ∈ bs, p b := by
  rw [← List.map_snd_zip (Nat.le_of_eq length.symm)]
  exact List.forall_mem_map.2 h

/-- What holds of the partners of all members' values holds of the members made of their names and
the partners. -/
theorem forall_mem_zip_fst {γ : Type} {members : List (α × γ)} {bs : List β} {p : β → Prop}
    (length : members.length = bs.length)
    (h : ∀ item ∈ (members.map Prod.snd).zip bs, p item.2) :
    ∀ member ∈ (members.map Prod.fst).zip bs, p member.2 := by
  have length' : (members.map Prod.snd).length = bs.length := by rw [List.length_map, length]
  have hall := forall_mem_of_forall_mem_zip length' h
  intro member hmember
  exact hall member.2 (List.of_mem_zip hmember).2

end Partners

section Related

variable {α : Type u} {β : Type v} {r : α → β → Prop} {as : List α} {bs : List β}

/-- Partners for all elements make a list. -/
theorem exists_forall₂ (h : ∀ a ∈ as, ∃ b, r a b) : ∃ bs, List.Forall₂ r as bs := by
  induction as with
  | nil => exact ⟨[], .nil⟩
  | cons a rest ih =>
    obtain ⟨⟨b, hb⟩, hrest⟩ := List.forall_mem_cons.1 h
    obtain ⟨bs, hbs⟩ := ih hrest
    exact ⟨b :: bs, .cons hb hbs⟩

/-- Partners for all elements, and partners of those, make two lists. -/
theorem exists_forall₂_forall₂ {γ : Type u} {p : α → β → Prop} {q : β → γ → Prop}
    {r : α → γ → Prop} (h : ∀ a ∈ as, ∃ b c, p a b ∧ q b c ∧ r a c) :
    ∃ bs cs, List.Forall₂ p as bs ∧ List.Forall₂ q bs cs ∧ List.Forall₂ r as cs := by
  induction as with
  | nil => exact ⟨[], [], .nil, .nil, .nil⟩
  | cons a rest ih =>
    obtain ⟨⟨b, c, hp, hq, hr⟩, hrest⟩ := List.forall_mem_cons.1 h
    obtain ⟨bs, cs, hps, hqs, hrs⟩ := ih hrest
    exact ⟨b :: bs, c :: cs, .cons hp hps, .cons hq hqs, .cons hr hrs⟩

theorem exists_of_forall₂_left (h : List.Forall₂ r as bs) : ∀ a ∈ as, ∃ b ∈ bs, r a b := by
  induction h with
  | nil => simp
  | cons hab _ ih =>
    refine List.forall_mem_cons.2 ⟨⟨_, List.mem_cons_self, hab⟩, fun a ha ↦ ?_⟩
    obtain ⟨b, hb, hr⟩ := ih a ha
    exact ⟨b, List.mem_cons_of_mem _ hb, hr⟩

theorem exists_of_forall₂_right (h : List.Forall₂ r as bs) : ∀ b ∈ bs, ∃ a ∈ as, r a b :=
  exists_of_forall₂_left (List.Forall₂.flip (R := flip r) h)

/-- Two lists beside a third one are beside each other. -/
theorem forall₂_of_left {γ : Type} {p : α → γ → Prop} {q : β → γ → Prop} {cs : List γ}
    (hpartners : ∀ a b c, r a b → p a c → q b c) (hbs : List.Forall₂ r as bs)
    (hcs : List.Forall₂ p as cs) : List.Forall₂ q bs cs := by
  induction hbs generalizing cs with
  | nil =>
    cases hcs
    exact .nil
  | cons hab _ ih =>
    cases hcs with
    | cons hac hrest => exact .cons (hpartners _ _ _ hab hac) (ih hrest)

/-- What holds between any two elements holds between their partners, if partners keep it. -/
theorem pairwise_of_forall₂ {p : α → α → Prop} {q : β → β → Prop}
    (hkeep : ∀ a b c d, r a c → r b d → p a b → q c d) (h : as.Pairwise p)
    (hpartners : List.Forall₂ r as bs) : bs.Pairwise q := by
  induction hpartners with
  | nil => exact .nil
  | cons hac hrest ih =>
    obtain ⟨hfirst, hothers⟩ := List.pairwise_cons.1 h
    refine .cons (fun d hd ↦ ?_) (ih hothers)
    obtain ⟨b, hb, hbd⟩ := exists_of_forall₂_right hrest d hd
    exact hkeep _ b _ d hac hbd (hfirst b hb)

theorem exists_forall₂_iff : (∃ bs, List.Forall₂ r as bs) ↔ ∀ a ∈ as, ∃ b, r a b := by
  refine ⟨fun ⟨bs, h⟩ a ha ↦ ?_, exists_forall₂⟩
  obtain ⟨b, -, hab⟩ := exists_of_forall₂_left h a ha
  exact ⟨b, hab⟩

theorem forall₂_and_iff {p : α → β → Prop} :
    List.Forall₂ (fun a b ↦ r a b ∧ p a b) as bs ↔
      List.Forall₂ r as bs ∧ List.Forall₂ p as bs := by
  simp only [List.forall₂_iff_zip]
  grind

theorem forall₂_and_right_iff {p : β → Prop} :
    List.Forall₂ (fun a b ↦ r a b ∧ p b) as bs ↔ List.Forall₂ r as bs ∧ ∀ b ∈ bs, p b := by
  constructor
  · intro h
    refine ⟨h.imp fun _ _ hab ↦ hab.1, fun b hb ↦ ?_⟩
    obtain ⟨a, -, hab⟩ := exists_of_forall₂_right h b hb
    exact hab.2
  · rintro ⟨h, hp⟩
    induction h with
    | nil => exact .nil
    | cons hab _ ih =>
      obtain ⟨hb, hbs⟩ := List.forall_mem_cons.1 hp
      exact .cons ⟨hab, hb⟩ (ih hbs)

/-- A relation of a list to another one can be read off the pairs of the list and a third one. -/
theorem forall₂_iff_forall₂_zip {γ : Type} {r : α → γ → Prop} {q : α × β → γ → Prop}
    {cs : List γ} (length : as.length = bs.length)
    (h : ∀ part ∈ as.zip bs, ∀ c, r part.1 c ↔ q part c) :
    List.Forall₂ r as cs ↔ List.Forall₂ q (as.zip bs) cs := by
  induction as generalizing bs cs with
  | nil => simp
  | cons a as ih =>
    obtain ⟨b, bs, rfl⟩ := List.exists_cons_of_length_eq_add_one length.symm
    obtain ⟨hhead, htail⟩ := List.forall_mem_cons.1 h
    rw [List.zip_cons_cons, List.forall₂_cons_left_iff, List.forall₂_cons_left_iff]
    simp only [hhead, ih (Nat.succ.inj length) htail]

/-- Of three lists side by side any two can stand in front. -/
theorem forall₂_zip_swap {γ : Type} {r : α → β → γ → Prop} {cs : List γ}
    (length : bs.length = as.length)
    (h : List.Forall₂ (fun part c ↦ r part.1 part.2 c) (as.zip bs) cs) :
    List.Forall₂ (fun part b ↦ r part.1 b part.2) (as.zip cs) bs := by
  induction as generalizing bs cs with
  | nil =>
    rw [List.eq_nil_of_length_eq_zero length]
    exact .nil
  | cons a as ih =>
    obtain ⟨b, bs, rfl⟩ := List.exists_cons_of_length_eq_add_one length
    cases h with
    | cons hc hcs => exact .cons hc (ih (Nat.succ.inj length) hcs)

theorem map_fst_eq_of_forall₂ {κ : Type} {ps : List (κ × α)} {qs : List (κ × β)}
    (h : List.Forall₂ (fun p q ↦ q.1 = p.1) ps qs) : qs.map Prod.fst = ps.map Prod.fst := by
  induction h with
  | nil => rfl
  | cons hkey _ ih => rw [List.map_cons, List.map_cons, hkey, ih]

end Related

section Repeated

variable {α : Type} {r : α → α → Bool}

/-- Nothing is asked of the relation here, not even that elements are related to themselves. -/
theorem mem_of_mem_eraseDupsBy : (as : List α) → ∀ a ∈ as.eraseDupsBy r, a ∈ as
  | [] => by simp
  | b :: rest => by
    intro a ha
    rw [List.eraseDupsBy_cons] at ha
    rcases List.mem_cons.1 ha with rfl | hrest
    · exact List.mem_cons_self
    · have hfilter := mem_of_mem_eraseDupsBy (rest.filter fun c ↦ r c b = false) a hrest
      exact List.mem_cons_of_mem _ (List.mem_of_mem_filter hfilter)
termination_by as => as.length
decreasing_by exact Nat.lt_succ_of_le (List.length_filter_le _ _)

theorem pairwise_eraseDupsBy :
    (as : List α) → (as.eraseDupsBy r).Pairwise fun a b ↦ r b a = false
  | [] => .nil
  | b :: rest => by
    rw [List.eraseDupsBy_cons]
    refine .cons (fun a ha ↦ ?_) (pairwise_eraseDupsBy _)
    have hfilter := mem_of_mem_eraseDupsBy (rest.filter fun c ↦ r c b = false) a ha
    simpa using (List.mem_filter.1 hfilter).2
termination_by as => as.length
decreasing_by exact Nat.lt_succ_of_le (List.length_filter_le _ _)

theorem eraseDupsBy_of_pairwise {as : List α} (h : as.Pairwise fun a b ↦ r b a = false) :
    as.eraseDupsBy r = as := by
  induction h with
  | nil => rfl
  | @cons b rest hb _ ih =>
    have hkept : (rest.filter fun c ↦ r c b = false) = rest :=
      List.filter_eq_self.2 fun a ha ↦ by simp [hb a ha]
    rw [List.eraseDupsBy_cons, hkept, ih]

end Repeated

section Last

variable {α : Type u} {p : α → Prop} {a b : α} {as : List α}

/-- What a list with one more element is split at is the last element or an earlier one. -/
theorem append_singleton_eq_append_cons_iff {before after : List α} :
    as ++ [b] = before ++ a :: after ↔ as = before ∧ b = a ∧ after = [] ∨
      ∃ rest, after = rest ++ [b] ∧ as = before ++ a :: rest := by
  constructor
  · intro h
    rcases List.eq_nil_or_concat after with rfl | ⟨rest, last, rfl⟩
    · obtain ⟨has, hlast⟩ := List.append_inj' h rfl
      exact .inl ⟨has, (List.cons.inj hlast).1, rfl⟩
    · rw [List.concat_eq_append, ← List.cons_append, ← List.append_assoc] at h
      obtain ⟨has, hlast⟩ := List.append_inj' h rfl
      obtain rfl := (List.cons.inj hlast).1
      exact .inr ⟨rest, List.concat_eq_append, has⟩
  · rintro (⟨rfl, rfl, rfl⟩ | ⟨rest, rfl, rfl⟩)
    · rfl
    · rw [List.append_assoc, List.cons_append]

/-- No element of the kind comes after this one. -/
def IsLast (p : α → Prop) (a : α) (as : List α) : Prop :=
  ∃ earlier later, as = earlier ++ a :: later ∧ ∀ b ∈ later, ¬ p b

theorem IsLast.mem (h : IsLast p a as) : a ∈ as := by
  obtain ⟨earlier, later, rfl, -⟩ := h
  exact List.mem_append_right _ List.mem_cons_self

theorem not_isLast_nil : ¬ IsLast p a [] :=
  fun h ↦ List.not_mem_nil h.mem

theorem isLast_concat_iff : IsLast p a (as ++ [b]) ↔ b = a ∨ ¬ p b ∧ IsLast p a as := by
  constructor
  · rintro ⟨earlier, later, h, hlater⟩
    rcases append_singleton_eq_append_cons_iff.1 h with ⟨-, hb, -⟩ | ⟨rest, rfl, has⟩
    · exact .inl hb
    · exact .inr ⟨hlater b (List.mem_append_right _ (List.mem_singleton_self b)), earlier, rest,
        has, fun c hc ↦ hlater c (List.mem_append_left _ hc)⟩
  · rintro (rfl | ⟨hb, earlier, later, has, hlater⟩)
    · exact ⟨as, [], rfl, fun _ h ↦ absurd h List.not_mem_nil⟩
    · refine ⟨earlier, later ++ [b],
        append_singleton_eq_append_cons_iff.2 (.inr ⟨later, rfl, has⟩), fun c hc ↦ ?_⟩
      rcases List.mem_append.1 hc with hc | hc
      · exact hlater c hc
      · exact List.mem_singleton.1 hc ▸ hb

/-- One of the elements of a kind is the last. -/
theorem exists_isLast (has : ∃ a ∈ as, p a) : ∃ a, p a ∧ IsLast p a as := by
  induction as with
  | nil => simp at has
  | cons b as ih =>
    by_cases hlater : ∃ a ∈ as, p a
    · obtain ⟨a, ha, earlier, later, rfl, hlast⟩ := ih hlater
      exact ⟨a, ha, b :: earlier, later, rfl, hlast⟩
    · obtain ⟨a, ha, hp⟩ := has
      rcases List.mem_cons.1 ha with rfl | ha
      · exact ⟨a, hp, [], as, rfl, fun c hc hpc ↦ hlater ⟨c, hc, hpc⟩⟩
      · exact absurd ⟨a, ha, hp⟩ hlater

end Last

end TwoWaySchema

