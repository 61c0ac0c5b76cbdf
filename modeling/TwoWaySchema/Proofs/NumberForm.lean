import TwoWaySchema.Proofs.Catalog.Containers
import TwoWaySchema.Proofs.Catalog.Scalars
import TwoWaySchema.Proofs.Double.Nearest

/-!
# The JSON form of numbers

A finite double has one JSON form: a whole number if it stands for one below `2 ^ 53` in magnitude,
and else the double itself.  Nothing is lost on the way, and equal doubles have equal forms, the two
zeros included.  So a catalog's set of numbers, which compares forms, holds each number once.
-/

namespace TwoWaySchema

namespace Double

variable {x y : Double} {m : Int}

/-! ## Whole numbers -/

theorem exactInt?_eq_some_iff :
    x.exactInt? = some m ↔ x.isFinite = true ∧ x.value = m ∧ m.natAbs < 2 ^ 53 := by
  constructor
  · intro h
    obtain ⟨hfinite, hvalue⟩ := value_of_exactInt? h
    exact ⟨hfinite, hvalue, natAbs_lt_of_exactInt? h⟩
  · rintro ⟨hfinite, hvalue, hsmall⟩
    exact exactInt?_of_signedUnits hfinite (value_eq_iff.1 hvalue) hsmall

/-! ## Doubles by their units -/

/-- Of doubles with as many units none has a longer step than the other. -/
theorem shift_le_of_units_eq (h : x.units = y.units) : x.shift ≤ y.shift := by
  by_contra hlt
  have hle : 2 ^ 52 ≤ x.significand := le_significand (by omega)
  have hupper : y.units < x.units :=
    calc
      y.units < 2 ^ 53 * 2 ^ y.shift :=
        Nat.mul_lt_mul_of_pos_right y.significand_lt (Nat.two_pow_pos _)
      _ = 2 ^ 52 * 2 ^ (y.shift + 1) := by rw [Nat.pow_succ 2 y.shift]; ring
      _ ≤ x.significand * 2 ^ x.shift :=
        Nat.mul_le_mul hle (Nat.pow_le_pow_right (by decide) (by omega))
  omega

theorem eq_of_units (hsign : x.negative = y.negative) (h : x.units = y.units) : x = y := by
  have hshift : x.shift = y.shift :=
    Nat.le_antisymm (shift_le_of_units_eq h) (shift_le_of_units_eq h.symm)
  have hsignificand : x.significand = y.significand := by
    unfold units at h
    rw [hshift] at h
    exact Nat.eq_of_mul_eq_mul_right (Nat.two_pow_pos _) h
  obtain ⟨negative, exponent, fraction⟩ := x
  obtain ⟨negative', exponent', fraction'⟩ := y
  have hfraction : fraction.val < 2 ^ 52 := fraction.isLt
  have hfraction' : fraction'.val < 2 ^ 52 := fraction'.isLt
  simp only [shift, significand] at hshift hsignificand hsign
  -- a significand below `2 ^ 52` is that of a subnormal double
  have hboth : exponent.val = exponent'.val ∧ fraction.val = fraction'.val := by
    split at hsignificand <;> split at hsignificand <;> simp only [Nat.pow_eq] at hsignificand <;>
      omega
  rw [hsign, Fin.ext hboth.1, Fin.ext hboth.2]

/-- But for the zeros the number that a double stands for tells what double it is. -/
theorem eq_of_signedUnits (h : x.signedUnits = y.signedUnits) (hne : x.signedUnits ≠ 0) :
    x = y := by
  have hboth : x.negative = y.negative ∧ x.units = y.units := by
    unfold signedUnits at h hne
    split at h <;> split at h <;> simp_all
  exact eq_of_units hboth.1 hboth.2

end Double

/-! ## Forms -/

variable {x y : Double} {n : Number}

theorem jsonNumber?_of_not_isFinite (h : x.isFinite = false) : jsonNumber? x = none := by
  rw [jsonNumber?_of_exactInt?_eq_none (Double.exactInt?_of_not_isFinite h)]
  exact dif_neg (by simp [h])

theorem isFinite_of_jsonNumber? (h : jsonNumber? x = some n) : x.isFinite = true := by
  by_contra hx
  rw [jsonNumber?_of_not_isFinite (Bool.eq_false_iff.2 hx)] at h
  cases h

/-- The form is a whole number exactly where the double is one that was not rounded. -/
theorem exactInt?_eq_of_jsonNumber? {m : Int} {inRange : _} (h : jsonNumber? x = some n) :
    n = .whole m inRange ↔ x.exactInt? = some m := by
  cases hexact : x.exactInt? with
  | some k =>
    rw [jsonNumber?_of_exactInt? hexact] at h
    obtain ⟨hrange, rfl⟩ := Number.ofInt?_eq_some_iff.1 h
    simp
  | none =>
    rw [jsonNumber?_of_exactInt?_eq_none hexact] at h
    obtain ⟨hfinite, rfl⟩ := Number.ofDouble?_eq_some_iff.1 h
    simp

/-- Equal doubles have the same form. -/
theorem jsonNumber?_eq_of_signedUnits (hx : x.isFinite = true) (hy : y.isFinite = true)
    (h : x.signedUnits = y.signedUnits) : jsonNumber? x = jsonNumber? y := by
  by_cases hzero : x.signedUnits = 0
  · have hexact {z : Double} (hz : z.isFinite = true) (hzero : z.signedUnits = 0) :
        jsonNumber? z = Number.ofInt? 0 :=
      jsonNumber?_of_exactInt? (Double.exactInt?_of_signedUnits hz (by rw [hzero, zero_mul])
        (by decide))
    rw [hexact hx hzero, hexact hy (h ▸ hzero)]
  · rw [Double.eq_of_signedUnits h hzero]

theorem jsonNumber?_eq_iff (hx : x.isFinite = true) (hy : y.isFinite = true) :
    jsonNumber? x = jsonNumber? y ↔ (x == y) = true := by
  rw [Double.beq_iff_of_isFinite hx hy]
  refine ⟨fun h ↦ ?_, jsonNumber?_eq_of_signedUnits hx hy⟩
  obtain ⟨n, hn⟩ := exists_jsonNumber? hx
  have hxn := (Double.beq_iff_of_isFinite hx n.isFinite_toDouble).1 (beq_toDouble_of_jsonNumber? hn)
  have hyn := (Double.beq_iff_of_isFinite hy n.isFinite_toDouble).1
    (beq_toDouble_of_jsonNumber? (h ▸ hn))
  rw [hxn, hyn]

theorem Number.beq_self (n : Number) : (n == n) = true := by
  cases n with
  | whole m _ => exact beq_self_eq_true m
  | real x finite => exact (Double.beq_iff_of_isFinite finite finite).2 rfl

/-- Equal numbers stand for equal doubles. -/
theorem Number.toDouble_beq {a b : Number} (h : (a == b) = true) :
    (a.toDouble == b.toDouble) = true := by
  cases a with
  | whole m _ =>
    cases b with
    | whole k _ =>
      obtain rfl : m = k := eq_of_beq h
      have hfinite := (Number.whole m ‹_›).isFinite_toDouble
      exact (Double.beq_iff_of_isFinite hfinite hfinite).2 rfl
    | real _ _ => cases h
  | real x _ =>
    cases b with
    | whole _ _ => cases h
    | real y _ => exact h

theorem beq_of_jsonNumber? {a b : Number} (hx : jsonNumber? x = some a)
    (hy : jsonNumber? y = some b) : (a == b) = (x == y) := by
  have hxfinite := isFinite_of_jsonNumber? hx
  have hyfinite := isFinite_of_jsonNumber? hy
  refine Bool.eq_iff_iff.2 ⟨fun h ↦ ?_, fun h ↦ ?_⟩
  · have hxa := beq_toDouble_of_jsonNumber? hx
    have hyb := beq_toDouble_of_jsonNumber? hy
    have hab := Number.toDouble_beq h
    rw [Double.beq_iff_of_isFinite hxfinite a.isFinite_toDouble] at hxa
    rw [Double.beq_iff_of_isFinite hyfinite b.isFinite_toDouble] at hyb
    rw [Double.beq_iff_of_isFinite a.isFinite_toDouble b.isFinite_toDouble] at hab
    rw [Double.beq_iff_of_isFinite hxfinite hyfinite, hxa, hab, hyb]
  · have hsame := (jsonNumber?_eq_iff hxfinite hyfinite).2 h
    rw [hx, hy, Option.some.injEq] at hsame
    exact hsame ▸ Number.beq_self a

/-- The form is a whole number exactly where the double is integral and below `2 ^ 53`. -/
theorem exists_whole_iff (h : jsonNumber? x = some n) :
    (∃ m inRange, n = .whole m inRange) ↔ ∃ m : ℤ, x.value = m ∧ m.natAbs < 2 ^ 53 := by
  constructor
  · rintro ⟨m, inRange, hn⟩
    exact ⟨m, (Double.exactInt?_eq_some_iff.1 ((exactInt?_eq_of_jsonNumber? h).1 hn)).2⟩
  · rintro ⟨m, hvalue, hsmall⟩
    have hexact := Double.exactInt?_eq_some_iff.2 ⟨isFinite_of_jsonNumber? h, hvalue, hsmall⟩
    exact ⟨m, by omega, (exactInt?_eq_of_jsonNumber? h).2 hexact⟩

/-- The whole number is the double's 64-bit integer, and that is the number that the double stands
for. -/
theorem eq_ofInt64_of_whole {m : ℤ} {inRange : _} (h : jsonNumber? x = some (.whole m inRange)) :
    Number.whole m inRange = .ofInt64 x.toInt64 ∧ (x.toInt64.toInt : ℚ) = x.value := by
  have hexact := (exactInt?_eq_of_jsonNumber? h).1 rfl
  have hcast := Double.toInt_toInt64 hexact
  refine ⟨(Number.ofInt64_eq_whole hcast).symm, ?_⟩
  rw [hcast, (Double.value_of_exactInt? hexact).2]

/-! ## Sets of numbers -/

/-- The form of a finite double as a value. -/
def jsonForm (x : Double) : Json :=
  (jsonNumber? x).elim .null .number

theorem jsonForm_of_jsonNumber? (h : jsonNumber? x = some n) : jsonForm x = .number n := by
  rw [jsonForm, h]
  rfl

theorem jsonForm_beq (hx : x.isFinite = true) (hy : y.isFinite = true) :
    (jsonForm x == jsonForm y) = (x == y) := by
  obtain ⟨a, ha⟩ := exists_jsonNumber? hx
  obtain ⟨b, hb⟩ := exists_jsonNumber? hy
  rw [jsonForm_of_jsonNumber? ha, jsonForm_of_jsonNumber? hb, ← beq_of_jsonNumber? ha hb]
  rfl

namespace Descriptor

variable {coerces : Bool} {input : Option Json}

/-- The schema of the doubles whose forms a catalog's numbers are. -/
def doubleSchema (coerces : Bool) : Schema Json Double :=
  if coerces then Schema.number.coerce else Schema.number

theorem doubleSchema_parseInput :
    (doubleSchema coerces).parseInput input = Leaf.readNumber coerces input := by
  cases coerces <;> rfl

theorem numberSchema_parseInput_eq_map :
    (numberSchema coerces).parseInput input =
      ((doubleSchema coerces).parseInput input).map jsonForm := by
  rw [numberSchema_parseInput, doubleSchema_parseInput]
  cases h : Leaf.readNumber coerces input with
  | error failure => rfl
  | ok x =>
    obtain ⟨n, hn⟩ := exists_jsonNumber? (Leaf.isFinite_of_readNumber h)
    simp only [bind, Except.bind, hn]
    exact congrArg Except.ok (jsonForm_of_jsonNumber? hn).symm

/-- A set of numbers holds the forms of the doubles that are left when numerically equal ones are
dropped. -/
theorem setSchema_numberSchema_parseInput :
    (setSchema (numberSchema coerces)).parseInput input =
      ((doubleSchema coerces).distinct.parseInput input).map fun values ↦
        .array (values.map jsonForm) := by
  have hread (x : Json) {a : Double} (h : (doubleSchema coerces).parseInput (some x) = .ok a) :
      a.isFinite = true :=
    Leaf.isFinite_of_readNumber (doubleSchema_parseInput.symm.trans h)
  have hexplained (x : Json) : ((doubleSchema coerces).parseInput (some x)).IsExplained :=
    doubleSchema_parseInput.symm ▸ Leaf.readNumber_fits.isExplained
  have hdistinct : (numberSchema coerces).distinct.parseInput input =
      ((doubleSchema coerces).distinct.parseInput input).map (List.map jsonForm) :=
    Shape.parse_distinct_of_map (fun _ ↦ numberSchema_parseInput_eq_map) hexplained
      fun x y _ _ hx hy ↦ jsonForm_beq (hread x hx) (hread y hy)
  rw [setSchema_parseInput, hdistinct]
  cases (doubleSchema coerces).distinct.parseInput input <;> rfl

end Descriptor

/-! ## The form is canonical -/

/-- Reading the form of a finite double gives an equal one.  The form is a whole number exactly
where the double is integral and below `2 ^ 53`, and there the 64-bit integer that it is cast to is
the number that the double stands for.  What is not finite has no form.  Equal doubles have the
same form and others have forms that differ, as values and as numbers of JSON, so a catalog's set of
numbers holds the forms of the doubles that are left when numerically equal ones are dropped. -/
theorem jsonNumber?_canonical {ρ : Type} [Regex.Engine ρ] :
    (∀ x : Double, x.isFinite = true → ∃ n, jsonNumber? x = some n ∧
      (∃ y, (Schema.number : Schema Json Double).parse (.number n) = .ok y ∧ (y == x) = true) ∧
      ((∃ m inRange, n = .whole m inRange) ↔ ∃ m : ℤ, x.value = m ∧ m.natAbs < 2 ^ 53) ∧
      ∀ m inRange, n = .whole m inRange →
        n = .ofInt64 x.toInt64 ∧ (x.toInt64.toInt : ℚ) = x.value) ∧
    (∀ x : Double, x.isFinite = false → jsonNumber? x = none) ∧
    (∀ x y : Double, x.isFinite = true → y.isFinite = true →
      (jsonNumber? x = jsonNumber? y ↔ (x == y) = true) ∧
        (jsonForm x == jsonForm y) = (x == y)) ∧
    ∀ coerces resolve path state, ∃ s,
      (Descriptor.set (.number coerces)).compile resolve path state = (.ok s, state) ∧
        ∀ input, s.parseInput input =
          ((Descriptor.doubleSchema coerces).distinct.parseInput input).map fun values ↦
            .array (values.map jsonForm) := by
  refine ⟨fun x hx ↦ ?_, fun x ↦ jsonNumber?_of_not_isFinite,
    fun x y hx hy ↦ ⟨jsonNumber?_eq_iff hx hy, jsonForm_beq hx hy⟩,
    fun coerces resolve path state ↦ ⟨_, rfl, fun input ↦
      Descriptor.setSchema_numberSchema_parseInput⟩⟩
  obtain ⟨n, hn⟩ := exists_jsonNumber? hx
  refine ⟨n, hn, ⟨n.toDouble, rfl, ?_⟩, exists_whole_iff hn, ?_⟩
  · rw [Double.beq_iff_of_isFinite n.isFinite_toDouble hx]
    exact ((Double.beq_iff_of_isFinite hx n.isFinite_toDouble).1
      (beq_toDouble_of_jsonNumber? hn)).symm
  · rintro m inRange rfl
    exact eq_ofInt64_of_whole hn

/-- Negative zero is written as a whole number, the one that zero is; infinity is not written. -/
theorem jsonNumber?_canonical_zeros :
    (∃ m inRange, jsonNumber? ⟨true, 0, 0⟩ = some (.whole m inRange)) ∧
      jsonNumber? ⟨true, 0, 0⟩ = jsonNumber? ⟨false, 0, 0⟩ ∧
      jsonNumber? (.infinity false) = none := by
  obtain ⟨hform, hnone, hsame, -⟩ := jsonNumber?_canonical
  have hvalue : Double.value ⟨true, 0, 0⟩ = (0 : ℤ) := by decide +kernel
  obtain ⟨n, hn, -, hwhole, -⟩ := hform ⟨true, 0, 0⟩ rfl
  obtain ⟨m, inRange, rfl⟩ := hwhole.2 ⟨0, hvalue, by decide⟩
  exact ⟨⟨m, inRange, hn⟩, (hsame _ _ rfl rfl).1.2 rfl, hnone _ rfl⟩

end TwoWaySchema
