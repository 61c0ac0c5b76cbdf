import Mathlib.Data.List.Induction
import Mathlib.Data.List.Perm.Basic
import TwoWaySchema.Proofs.Shape.Reading
import TwoWaySchema.Proofs.Writer

/-!
# Two kinds of sets

The elements of an array that are equal collapse to one.  A distinct list leaves the first of them
where it stood and a sorted set puts the last of them where the order wants it, so the two fail
alike, and where they do not they hold elements that are equal, each of them once.  They write the
same parts if equal elements are written alike, which an order that is consistent with the equality
does not say.
-/

namespace TwoWaySchema

variable {α : Type}

/-! ## First and last occurrences -/

/-- The elements of a list that no element before them equals, in their order. -/
def firstOccurrences [BEq α] (values : List α) : List α :=
  (values.zipIdx.filter fun (a, i) ↦ !(values.take i).contains a).map Prod.fst

/-- The elements of a list that no element after them equals, in their order. -/
def lastOccurrences [BEq α] (values : List α) : List α :=
  (firstOccurrences values.reverse).reverse

namespace Parts

variable [BEq α] [EquivBEq α]

/-- What stands behind other elements is kept where it equals none of them and none of its own. -/
theorem map_filter_zipIdx_eq (earlier values : List α) :
    ((values.zipIdx earlier.length).filter fun (a, i) ↦
      !((earlier ++ values).take i).contains a).map Prod.fst =
        dropRepeated (values.filter fun a ↦ !earlier.contains a) := by
  induction values generalizing earlier with
  | nil => rfl
  | cons a rest ih =>
    have hrest := ih (earlier ++ [a])
    rw [List.length_append, List.length_singleton, List.append_assoc, List.singleton_append]
      at hrest
    rw [List.zipIdx_cons, List.filter_cons, List.filter_cons]
    have hcontains (b : α) : (earlier ++ [a]).contains b = (earlier.contains b || a == b) := by
      rw [BEq.comm (a := a)]
      simp [List.contains_append]
    simp only [hcontains] at hrest
    cases ha : earlier.contains a with
    | true =>
      -- what equals this element equals an earlier one
      have hkept : (rest.filter fun b ↦ !(earlier.contains b || a == b)) =
          rest.filter fun b ↦ !earlier.contains b := by
        refine List.filter_congr fun b _ ↦ ?_
        cases hab : a == b with
        | true => simp [← List.contains_congr hab, ha]
        | false => simp
      rw [hkept] at hrest
      simpa [ha] using hrest
    | false =>
      have hkept : (rest.filter fun b ↦ !(earlier.contains b || a == b)) =
          (rest.filter fun b ↦ !earlier.contains b).filter fun b ↦ !a == b := by
        rw [List.filter_filter]
        refine List.filter_congr fun b _ ↦ ?_
        rw [Bool.not_or, Bool.and_comm]
      rw [hkept] at hrest
      simpa [ha, dropRepeated_cons] using hrest

theorem dropRepeated_eq_firstOccurrences (values : List α) :
    dropRepeated values = firstOccurrences values := by
  have h := map_filter_zipIdx_eq [] values
  simpa [firstOccurrences] using h.symm

/-- Of every element that was there an equal one is left. -/
theorem contains_dropRepeated (a : α) : (values : List α) →
    (dropRepeated values).contains a = values.contains a
  | [] => rfl
  | b :: rest => by
    rw [dropRepeated_cons, List.contains_cons, List.contains_cons, contains_dropRepeated a]
    cases hab : a == b with
    | true => rfl
    | false =>
      -- nothing that equals this element is dropped for the other one
      rw [Bool.false_or, Bool.false_or, List.contains_eq_any_beq, List.contains_eq_any_beq,
        List.any_filter]
      refine congrArg rest.any (funext fun c ↦ ?_)
      cases hac : a == c with
      | true => simp [← BEq.congr_right hac, BEq.comm (a := b), hab]
      | false => simp
termination_by values => values.length
decreasing_by exact Nat.lt_succ_of_le (List.length_filter_le _ _)

omit [EquivBEq α] in
/-- Elements go with all that are equal to them whenever repeated ones are dropped. -/
theorem dropRepeated_filter {p : α → Bool} (hp : ∀ a b, (a == b) = true → p a = p b) :
    (values : List α) → dropRepeated (values.filter p) = (dropRepeated values).filter p
  | [] => rfl
  | a :: rest => by
    rw [dropRepeated_cons, List.filter_cons, List.filter_cons, ← dropRepeated_filter hp,
      List.filter_filter]
    cases ha : p a with
    | true =>
      simp only [if_true]
      rw [dropRepeated_cons, List.filter_filter]
      simp only [Bool.and_comm]
    | false =>
      simp only [Bool.false_eq_true, if_false]
      refine congrArg dropRepeated (List.filter_congr fun b _ ↦ ?_)
      cases hab : a == b with
      | true => simp [← hp a b hab, ha]
      | false => simp
termination_by values => values.length
decreasing_by exact Nat.lt_succ_of_le (List.length_filter_le _ _)

end Parts


/-! ## The same elements in another order -/

section Matching

variable [BEq α] [EquivBEq α]

/-- Elements up to what equals them. -/
def beqSetoid (α : Type) [BEq α] [EquivBEq α] : Setoid α where
  r a b := (a == b) = true
  iseqv := ⟨fun _ ↦ BEq.rfl, BEq.symm, BEq.trans⟩

theorem mk_beqSetoid_eq_iff {a b : α} :
    Quotient.mk (beqSetoid α) a = Quotient.mk (beqSetoid α) b ↔ (a == b) = true :=
  Quotient.eq

theorem nodup_map_mk_beqSetoid {as : List α} (h : as.Pairwise fun a b ↦ (a == b) = false) :
    (as.map (Quotient.mk (beqSetoid α))).Nodup := by
  refine List.pairwise_map.2 (h.imp fun {a b} hab ↦ ?_)
  rw [Ne, mk_beqSetoid_eq_iff, hab]
  exact Bool.false_ne_true

theorem mk_beqSetoid_mem_map_iff {as : List α} {a : α} :
    Quotient.mk (beqSetoid α) a ∈ as.map (Quotient.mk (beqSetoid α)) ↔ as.contains a = true := by
  simp [List.mem_map, mk_beqSetoid_eq_iff, List.contains_eq_any_beq, BEq.comm (a := a)]

/-- The elements of two lists, in each of which no two are equal, can be matched if whatever equals
an element of one equals an element of the other. -/
theorem exists_forall₂_beq_perm {as bs : List α}
    (has : as.Pairwise fun a b ↦ (a == b) = false) (hbs : bs.Pairwise fun a b ↦ (a == b) = false)
    (h : ∀ a, as.contains a = bs.contains a) :
    ∃ matched, List.Forall₂ (fun a b ↦ (a == b) = true) as matched ∧ matched.Perm bs := by
  -- Up to equality the lists have the same members, each of them once.
  have hperm : (as.map (Quotient.mk (beqSetoid α))).Perm (bs.map (Quotient.mk (beqSetoid α))) := by
    refine (List.perm_ext_iff_of_nodup (nodup_map_mk_beqSetoid has)
      (nodup_map_mk_beqSetoid hbs)).2 fun c ↦ ?_
    obtain ⟨a, rfl⟩ := Quotient.exists_rep c
    rw [mk_beqSetoid_mem_map_iff, mk_beqSetoid_mem_map_iff, h a]
  have hself : List.Forall₂ (fun c b ↦ c = Quotient.mk (beqSetoid α) b)
      (bs.map (Quotient.mk (beqSetoid α))) bs :=
    List.forall₂_map_left_iff.2 (List.forall₂_same.2 fun _ _ ↦ rfl)
  obtain ⟨matched, hmatched, hrest⟩ := List.perm_comp_forall₂ hperm hself
  refine ⟨matched, ?_, hrest⟩
  simpa only [mk_beqSetoid_eq_iff] using List.forall₂_map_left_iff.1 hmatched

end Matching

namespace SortedSet

variable [BEq α] [Ord α] [Std.TransOrd α] [Std.LawfulBEqOrd α] {elements : List α}

omit [Std.TransOrd α] in
theorem beq_eq_false_of_lt {a b : α} (h : compare a b = .lt) : (a == b) = false := by
  have hne : compare a b ≠ .eq := by simp [h]
  exact Std.LawfulBEqCmp.not_compare_eq_iff_beq_eq_false.1 hne

/-- An element goes in for the one that it equals. -/
theorem insertSorted_perm (a : α) (h : IsAscending elements) :
    (insertSorted a elements).Perm (a :: elements.filter fun b ↦ !a == b) := by
  induction elements with
  | nil => exact .refl _
  | cons b rest ih =>
    obtain ⟨hb, hrest⟩ := List.pairwise_cons.1 h
    have hkept (hab : ∀ c ∈ rest, compare a c = .lt) : (rest.filter fun c ↦ !a == c) = rest :=
      List.filter_eq_self.2 fun c hc ↦ by rw [beq_eq_false_of_lt (hab c hc), Bool.not_false]
    rw [insertSorted, List.filter_cons]
    cases hcompare : compare a b with
    | lt =>
      rw [beq_eq_false_of_lt hcompare, hkept fun c hc ↦ Std.TransCmp.lt_trans hcompare (hb c hc)]
      exact .refl _
    | eq =>
      rw [Std.LawfulBEqCmp.compare_eq_iff_beq.1 hcompare,
        hkept fun c hc ↦ Std.TransCmp.lt_of_eq_of_lt hcompare (hb c hc)]
      exact .refl _
    | gt =>
      rw [BEq.comm, beq_eq_false_of_lt (Std.OrientedCmp.lt_of_gt hcompare)]
      exact ((ih hrest).cons b).trans (.swap _ _ _)

/-- A set has the elements of a list that are left when the later of equal ones are kept. -/
theorem ofList_perm_dropRepeated (values : List α) :
    (ofList values).elements.Perm (Parts.dropRepeated values.reverse) := by
  induction values using List.reverseRecOn with
  | nil => exact .refl _
  | append_singleton values a ih =>
    have hinsert : (ofList (values ++ [a])).elements = insertSorted a (ofList values).elements := by
      rw [ofList, List.foldl_append]
      rfl
    have hrespects (b c : α) (hbc : (b == c) = true) : (!a == b) = !a == c :=
      congrArg Bool.not (BEq.congr_right hbc)
    rw [hinsert, List.reverse_append, List.reverse_singleton, List.singleton_append,
      Parts.dropRepeated_cons, Parts.dropRepeated_filter hrespects]
    exact (insertSorted_perm a ofList_wellFormed).trans ((ih.filter _).cons a)

theorem ofList_perm_lastOccurrences (values : List α) :
    (ofList values).elements.Perm (lastOccurrences values) := by
  rw [lastOccurrences, ← Parts.dropRepeated_eq_firstOccurrences]
  exact (ofList_perm_dropRepeated values).trans (List.reverse_perm _).symm

theorem contains_ofList (values : List α) (a : α) :
    (ofList values).elements.contains a = values.contains a := by
  rw [(ofList_perm_dropRepeated values).contains_eq, Parts.contains_dropRepeated,
    List.contains_reverse]

/-- The elements of a set are those of a distinct list made of the same elements, up to their order
and to what is equal. -/
theorem exists_matched (values : List α) :
    ∃ matched, List.Forall₂ (fun b a ↦ (b == a) = true) (ofList values).elements matched ∧
      matched.Perm (Parts.dropRepeated values) := by
  refine exists_forall₂_beq_perm (ofList_wellFormed.imp beq_eq_false_of_lt)
    (Parts.areDistinct_iff_pairwise.1 (Parts.areDistinct_dropRepeated values)) fun a ↦ ?_
  rw [contains_ofList, Parts.contains_dropRepeated]

end SortedSet

namespace Writer

variable {w : Writer α} {as bs : List α} {xs ys : List Json}

theorem elements_eq_ok_iff :
    w.elements as = .ok (.array xs) ↔ List.Forall₂ (fun a x ↦ w.serialize a = .ok x) as xs := by
  simp [elements, map_eq_ok_iff, elementsFrom_eq_ok_iff]

theorem exists_elements (h : ∀ a ∈ as, ∃ x, w.serialize a = .ok x) :
    ∃ xs, w.elements as = .ok (.array xs) :=
  (exists_forall₂ h).imp fun _ ↦ elements_eq_ok_iff.2

/-- Elements that are written alike come out alike. -/
theorem elements_congr (h : List.Forall₂ (fun a b ↦ w.serialize a = w.serialize b) as bs)
    (hxs : w.elements as = .ok (.array xs)) : w.elements bs = .ok (.array xs) := by
  rw [elements_eq_ok_iff] at hxs ⊢
  exact forall₂_of_left (fun a b x hab hx ↦ hab.symm.trans hx) h hxs

/-- Elements in another order are written in that order. -/
theorem elements_perm (hperm : as.Perm bs) (hxs : w.elements as = .ok (.array xs))
    (hys : w.elements bs = .ok (.array ys)) : xs.Perm ys := by
  obtain ⟨zs, hzs, hzy⟩ := List.perm_comp_forall₂ hperm (elements_eq_ok_iff.1 hys)
  rw [elements_eq_ok_iff.2 hzs] at hxs
  obtain rfl : zs = xs := by simpa using hxs
  exact hzy

end Writer

/-! ## Two kinds of sets -/

namespace Schema

variable {σ : Type} [BEq α] [Ord α] [Std.TransOrd α] [Std.LawfulBEqOrd α]

/-- A distinct list and a set are read from the same inputs and fail alike.  Of equal elements that
are read the list keeps the first where it stood, and the set has the last in ascending order, so
the elements of one are equal to those of the other.  Both are written if all elements are, as the
same parts if equal elements are written alike. -/
theorem distinct_agrees_with_set (element : Schema σ α) (input : Option Json) :
    (∃ failure, element.distinct.parseInput input = .error failure ∧
        element.set.parseInput input = .error failure) ∨
      ∃ items values kept s, input = some (.array items) ∧
        values = items.filterMap (fun x ↦ (element.parse x).toOption) ∧
        element.distinct.parseInput input = .ok kept ∧ element.set.parseInput input = .ok s ∧
        kept = firstOccurrences values ∧ (kept.Pairwise fun a b ↦ (a == b) = false) ∧
        s.WellFormed ∧ s.elements.Perm (lastOccurrences values) ∧
        (∃ matched, List.Forall₂ (fun b a ↦ (b == a) = true) s.elements matched ∧
          matched.Perm kept) ∧
        ((∀ a ∈ values, ∃ x, element.serialize a = .ok x) →
          ∃ xs ys, element.set.serialize s = .ok (.array xs) ∧
            element.distinct.serialize kept = .ok (.array ys) ∧
            ((∀ a ∈ values, ∀ b ∈ values, (a == b) = true →
              element.serialize a = element.serialize b) → xs.Perm ys)) := by
  have hdistinct : element.distinct.parseInput input =
      (element.array.parseInput input).map Parts.dropRepeated := Shape.parse_distinct
  have hset : element.set.parseInput input =
      (element.array.parseInput input).map SortedSet.ofList := Shape.parse_set
  cases hvalues : element.array.parseInput input with
  | error failure =>
    rw [hdistinct, hset, hvalues]
    exact .inl ⟨failure, rfl, rfl⟩
  | ok values =>
    obtain ⟨items, hitems, hread⟩ := bind_eq_ok_iff.1 hvalues
    have hkept := Parts.filterMap_of_readElements_eq_ok hread
    have hmem : ∀ a ∈ Parts.dropRepeated values, a ∈ values := Parts.mem_of_mem_dropRepeated
    have hmem' : ∀ a ∈ (SortedSet.ofList values).elements, a ∈ values := fun _ ↦
      SortedSet.mem_of_mem_ofList
    obtain ⟨matched, hmatched, hperm⟩ := SortedSet.exists_matched values
    rw [hdistinct, hset, hvalues]
    refine .inr ⟨items, values, Parts.dropRepeated values, .ofList values,
      Parts.requireArray_eq_ok_iff.1 hitems, hkept.symm, rfl, rfl,
      Parts.dropRepeated_eq_firstOccurrences values,
      Parts.areDistinct_iff_pairwise.1 (Parts.areDistinct_dropRepeated values),
      SortedSet.ofList_wellFormed, SortedSet.ofList_perm_lastOccurrences values,
      ⟨matched, hmatched, hperm⟩, fun hwrites ↦ ?_⟩
    obtain ⟨xs, hxs⟩ := Writer.exists_elements fun a ha ↦ hwrites a (hmem' a ha)
    obtain ⟨ys, hys⟩ := Writer.exists_elements fun a ha ↦ hwrites a (hmem a ha)
    refine ⟨xs, ys, hxs, hys, fun halike ↦ ?_⟩
    have hwritten : element.shape.writer.elements matched = .ok (.array xs) := by
      obtain ⟨hlength, hzip⟩ := List.forall₂_iff_zip.1 hmatched
      refine Writer.elements_congr (List.forall₂_iff_zip.2 ⟨hlength, fun {b a} hba ↦ ?_⟩) hxs
      obtain ⟨hb, ha⟩ := List.of_mem_zip hba
      exact halike b (hmem' b hb) a (hmem a (hperm.subset ha)) (hzip hba)
    exact Writer.elements_perm hperm hwritten hys

/-- Pears come twice. -/
def fruit : Json :=
  .array [.string "pear", .string "fig", .string "pear"]

/-- The list begins with the pears and the set with the figs. -/
theorem fruit_distinct_agrees_with_set :
    (string : Schema Empty String).distinct.parse fruit = .ok ["pear", "fig"] ∧
      (string : Schema Empty String).set.parse fruit = .ok ⟨["fig", "pear"]⟩ ∧
      ∃ xs ys, (string : Schema Empty String).set.serialize ⟨["fig", "pear"]⟩ = .ok (.array xs) ∧
        (string : Schema Empty String).distinct.serialize ["pear", "fig"] = .ok (.array ys) ∧
        xs.Perm ys := by
  have hdistinct : (string : Schema Empty String).distinct.parse fruit = .ok ["pear", "fig"] := rfl
  have hset : (string : Schema Empty String).set.parse fruit = .ok ⟨["fig", "pear"]⟩ := rfl
  refine ⟨hdistinct, hset, ?_⟩
  rcases distinct_agrees_with_set (string : Schema Empty String) (some fruit) with
    ⟨failure, hfailure, -⟩ |
      ⟨items, values, kept, s, -, -, hkept, hs, -, -, -, -, -, hwritten⟩
  · cases hdistinct.symm.trans hfailure
  · obtain rfl := Except.ok.inj (hdistinct.symm.trans hkept)
    obtain rfl := Except.ok.inj (hset.symm.trans hs)
    obtain ⟨xs, ys, hxs, hys, hperm⟩ := hwritten fun a _ ↦ ⟨.string a, rfl⟩
    exact ⟨xs, ys, hxs, hys, hperm fun a _ b _ hab ↦ eq_of_beq hab ▸ rfl⟩

/-! ## Elements that are equal and not the same -/

/-- A text that is compared without regard to the case of its letters. -/
structure Caseless where
  text : String

namespace Caseless

def letters (a : Caseless) : List Char :=
  a.text.toList.map Char.toLower

instance : BEq Caseless where
  beq a b := a.letters == b.letters

instance : Ord Caseless where
  compare := compareOn letters

instance : Std.TransOrd Caseless :=
  inferInstanceAs (Std.TransCmp (compareOn letters))

instance : Std.LawfulBEqOrd Caseless where
  compare_eq_iff_beq {a b} := by
    change compare a.letters b.letters = .eq ↔ (a.letters == b.letters) = true
    rw [Std.compare_eq_iff_eq, beq_iff_eq]

end Caseless

def caseless : Schema Empty Caseless :=
  string.map Caseless.mk fun a ↦ some a.text

/-- The same tree twice. -/
def trees : Json :=
  .array [.string "Oak", .string "oak"]

/-- The list keeps the first tree and the set the last, which are equal and are not written alike,
so what is written for one is no other order of what is written for the other. -/
theorem trees_not_perm : Std.TransOrd Caseless ∧ Std.LawfulBEqOrd Caseless ∧
    caseless.distinct.parse trees = .ok [⟨"Oak"⟩] ∧ caseless.set.parse trees = .ok ⟨[⟨"oak"⟩]⟩ ∧
    (∀ a, ∃ x, caseless.serialize a = .ok x) ∧
    ¬ ∃ xs ys, caseless.set.serialize ⟨[⟨"oak"⟩]⟩ = .ok (.array xs) ∧
      caseless.distinct.serialize [⟨"Oak"⟩] = .ok (.array ys) ∧ xs.Perm ys := by
  refine ⟨inferInstance, inferInstance, rfl, rfl, fun a ↦ ⟨.string a.text, rfl⟩, ?_⟩
  rintro ⟨xs, ys, hxs, hys, hperm⟩
  obtain rfl : [.string "oak"] = xs := by simpa using Except.ok.inj hxs
  obtain rfl : [.string "Oak"] = ys := by simpa using Except.ok.inj hys
  simp at hperm

end Schema

end TwoWaySchema
