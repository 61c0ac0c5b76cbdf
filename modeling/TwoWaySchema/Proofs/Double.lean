import Mathlib.Algebra.Ring.Nat
import TwoWaySchema.Json

/-!
# Whole numbers as doubles

A whole number below `2 ^ 53` in magnitude is a double: nothing is rounded, and the double is read
as the same whole number.  So the JSON form of a double is the form of the double that it stands
for.
-/

namespace TwoWaySchema

namespace Double

/-- The quotient of units by the step of their exponent is a significand. -/
theorem quotient_bounds {units quotient : Nat} (h : 2 ^ 52 ≤ units)
    (hquotient : units = 2 ^ (units.log2 - 52) * quotient) :
    2 ^ 52 ≤ quotient ∧ quotient < 2 ^ 53 := by
  have hne : units ≠ 0 := by omega
  have hlog : 52 ≤ units.log2 := (Nat.le_log2 hne).2 h
  have hpos : 0 < 2 ^ (units.log2 - 52) := Nat.two_pow_pos _
  have hlower : 2 ^ (units.log2 - 52) * 2 ^ 52 ≤ 2 ^ (units.log2 - 52) * quotient := by
    rw [← hquotient, ← Nat.pow_add, Nat.sub_add_cancel hlog]
    exact Nat.log2_self_le hne
  have hupper : 2 ^ (units.log2 - 52) * quotient < 2 ^ (units.log2 - 52) * 2 ^ 53 := by
    rw [← hquotient, ← Nat.pow_add, show units.log2 - 52 + 53 = units.log2 + 1 by omega]
    exact Nat.lt_log2_self
  exact ⟨Nat.le_of_mul_le_mul_left hlower hpos, Nat.lt_of_mul_lt_mul_left hupper⟩

theorem ofUnits_spec {negative : Bool} {units : Nat} (hlog : units.log2 < 2098)
    (hdvd : 2 ^ (units.log2 - 52) ∣ units) :
    (ofUnits negative units).units = units ∧ (ofUnits negative units).isFinite = true ∧
      (ofUnits negative units).negative = negative := by
  unfold ofUnits
  split
  next h => exact ⟨by simp [Double.units, significand, shift], rfl, rfl⟩
  next h =>
    obtain ⟨quotient, hquotient⟩ := hdvd
    obtain ⟨hlower, hupper⟩ := quotient_bounds (Nat.le_of_not_lt h) hquotient
    have hexponent : units.log2 - 52 + 1 < 2047 := by omega
    have hdiv : units / 2 ^ (units.log2 - 52) = quotient :=
      Nat.div_eq_of_eq_mul_right (Nat.two_pow_pos _) hquotient
    have hfraction : (units / 2 ^ (units.log2 - 52) - 2 ^ 52) % 2 ^ 52 = quotient - 2 ^ 52 := by
      rw [hdiv]
      exact Nat.mod_eq_of_lt (by omega)
    rw [dif_pos hexponent]
    refine ⟨?_, ?_, rfl⟩
    · simp only [Double.units, significand, shift, Nat.add_sub_cancel, Nat.add_one_ne_zero,
        if_false, Nat.pow_eq]
      rw [hfraction, Nat.add_sub_cancel' hlower, Nat.mul_comm]
      exact hquotient.symm
    · exact bne_iff_ne.2 (Nat.ne_of_lt hexponent)

theorem roundHalfEven_mul {quotient denominator : Nat} (h : 0 < denominator) :
    roundHalfEven (quotient * denominator) denominator = quotient := by
  simp [roundHalfEven, h]

theorem exists_unitsPerOne_eq : ∃ k, k = 1074 ∧ unitsPerOne = 2 ^ k := by
  refine ⟨_, rfl, ?_⟩
  generalize h : 1074 = k
  unfold unitsPerOne
  rw [h, Nat.pow_eq]

theorem unitsPerOne_pos : 0 < unitsPerOne := by
  obtain ⟨k, -, hk⟩ := exists_unitsPerOne_eq
  rw [hk]
  exact Nat.two_pow_pos _

theorem log2_mul_two_pow {n k : Nat} (h : n ≠ 0) : (n * 2 ^ k).log2 = n.log2 + k := by
  have hpos : 0 < 2 ^ k := Nat.two_pow_pos k
  rw [Nat.log2_eq_iff (Nat.mul_ne_zero h (Nat.ne_of_gt hpos)), Nat.add_right_comm,
    Nat.pow_add, Nat.pow_add]
  exact ⟨Nat.mul_le_mul_right _ (Nat.log2_self_le h),
    Nat.mul_lt_mul_of_pos_right Nat.lt_log2_self hpos⟩

/-- The units of a whole number below `2 ^ 53` are a multiple of the step of their exponent. -/
theorem step_dvd_units {n : Nat} (h : n < 2 ^ 53) :
    (n * unitsPerOne).log2 < 2098 ∧ 2 ^ ((n * unitsPerOne).log2 - 52) ∣ n * unitsPerOne := by
  obtain ⟨k, hk, hunits⟩ := exists_unitsPerOne_eq
  rw [hunits]
  by_cases hzero : n = 0
  · simp [hzero]
  · have hn : n.log2 < 53 := (Nat.log2_lt hzero).2 h
    rw [log2_mul_two_pow hzero]
    have hstep : n.log2 + k - 52 ≤ k := by omega
    exact ⟨by omega, Nat.dvd_mul_left_of_dvd (Nat.pow_dvd_pow 2 hstep) n⟩

/-- Nothing is rounded in a whole number below `2 ^ 53`. -/
theorem ofInt_eq_ofUnits {n : Int} (h : n.natAbs < 2 ^ 53) :
    ofInt n = ofUnits (n < 0) (n.natAbs * unitsPerOne) := by
  obtain ⟨quotient, hquotient⟩ := (step_dvd_units h).2
  unfold ofInt ofRatio
  simp only [Nat.div_one, Nat.one_mul, Nat.pow_eq]
  generalize n.natAbs * unitsPerOne = units at hquotient ⊢
  generalize hstep : 2 ^ (units.log2 - 52) = step at hquotient ⊢
  have hpos : 0 < step := hstep ▸ Nat.two_pow_pos _
  rw [hquotient, Nat.mul_comm step, roundHalfEven_mul hpos]

theorem ofInt_spec {n : Int} (h : n.natAbs < 2 ^ 53) :
    (ofInt n).units = n.natAbs * unitsPerOne ∧ (ofInt n).isFinite = true ∧
      (ofInt n).negative = decide (n < 0) := by
  rw [ofInt_eq_ofUnits h]
  exact ofUnits_spec (step_dvd_units h).1 (step_dvd_units h).2

/-! ## Signs -/

/-- The sign of a double as a factor. -/
def sign (negative : Bool) : Int :=
  if negative then -1 else 1

theorem sign_mul_sign (negative : Bool) : sign negative * sign negative = 1 := by
  cases negative <;> rfl

theorem sign_mul_natAbs (n : Int) : sign (decide (n < 0)) * n.natAbs = n := by
  unfold sign
  rcases Int.lt_or_le n 0 with hn | hn
  · rw [decide_eq_true hn, if_pos rfl]
    omega
  · rw [decide_eq_false (Int.not_lt.2 hn), if_neg Bool.false_ne_true]
    omega

theorem signedUnits_eq (x : Double) : x.signedUnits = sign x.negative * x.units := by
  unfold signedUnits sign
  cases x.negative <;> simp

theorem units_of_signedUnits {x : Double} {n : Int} (h : x.signedUnits = n * unitsPerOne) :
    x.units = n.natAbs * unitsPerOne := by
  have habs : x.signedUnits.natAbs = x.units := by
    unfold signedUnits
    split <;> omega
  rw [← habs, h, Int.natAbs_mul, Int.natAbs_natCast]

theorem signedUnits_ofInt {n : Int} (h : n.natAbs < 2 ^ 53) :
    (ofInt n).signedUnits = n * unitsPerOne := by
  obtain ⟨hunits, -, hnegative⟩ := ofInt_spec h
  rw [signedUnits_eq, hunits, hnegative, Int.natCast_mul, ← Int.mul_assoc, sign_mul_natAbs]

/-- A double that stands for a whole number below `2 ^ 53` is read as that number. -/
theorem exactInt?_of_signedUnits {x : Double} {n : Int} (hfinite : x.isFinite = true)
    (h : x.signedUnits = n * unitsPerOne) (hn : n.natAbs < 2 ^ 53) : x.exactInt? = some n := by
  have hsigned : (x.units : Int) = sign x.negative * n * unitsPerOne := by
    rw [Int.mul_assoc, ← h, signedUnits_eq, ← Int.mul_assoc, sign_mul_sign, Int.one_mul]
  have hunits : x.units = n.natAbs * unitsPerOne := units_of_signedUnits h
  have htruncate : x.truncate = n := by
    calc
      x.truncate = sign x.negative * (x.units / unitsPerOne) := by
        unfold truncate sign
        cases x.negative with
        | false => exact (Int.one_mul _).symm
        | true => exact (Int.neg_one_mul _).symm
      _ = sign x.negative * (sign x.negative * n) := by
        rw [hsigned, Int.mul_ediv_cancel _ (by exact_mod_cast Nat.ne_of_gt unitsPerOne_pos)]
      _ = n := by rw [← Int.mul_assoc, sign_mul_sign, Int.one_mul]
  have hintegral : x.isIntegral = true := by
    rw [isIntegral, hfinite, hunits, Nat.mul_mod_left]
    rfl
  have hsmall : x.units < Nat.pow 2 53 * unitsPerOne := by
    rw [hunits]
    exact Nat.mul_lt_mul_of_pos_right hn unitsPerOne_pos
  rw [exactInt?, hintegral, htruncate, decide_eq_true hsmall]
  rfl

/-- A whole number below `2 ^ 53` is read from its double. -/
theorem exactInt?_ofInt {n : Int} (h : n.natAbs < 2 ^ 53) : (ofInt n).exactInt? = some n :=
  exactInt?_of_signedUnits (ofInt_spec h).2.1 (signedUnits_ofInt h) h

theorem exactInt?_of_not_isFinite {x : Double} (h : x.isFinite = false) : x.exactInt? = none := by
  rw [exactInt?, isIntegral, h, Bool.false_and, Bool.false_and, if_neg Bool.false_ne_true]

/-- What a double is read as is below `2 ^ 53`. -/
theorem natAbs_lt_of_exactInt? {x : Double} {n : Int} (h : x.exactInt? = some n) :
    n.natAbs < 2 ^ 53 := by
  unfold exactInt? at h
  split at h
  next hexact =>
    cases h
    have hsmall : x.units < 2 ^ 53 * unitsPerOne := by
      simpa using (Bool.and_eq_true_iff.1 hexact).2
    have hdiv : x.units / unitsPerOne < 2 ^ 53 := (Nat.div_lt_iff_lt_mul unitsPerOne_pos).2 hsmall
    have habs : x.truncate.natAbs = x.units / unitsPerOne := by
      unfold truncate
      split <;> simp only [← Int.natCast_ediv, Int.natAbs_neg, Int.natAbs_natCast]
    rwa [habs]
  next => cases h

/-! ## Finite doubles -/

theorem isFinite_ofUnits {negative : Bool} {units k : Nat} (hk : k ≤ 2098) (h : units < 2 ^ k) :
    (ofUnits negative units).isFinite = true := by
  unfold ofUnits
  split
  next => rfl
  next =>
    have hlog : units.log2 - 52 + 1 < 2047 := by
      by_cases hzero : units = 0
      · simp [hzero]
      · have hlt := (Nat.log2_lt hzero).2 h
        omega
    rw [dif_pos hlog]
    exact bne_iff_ne.2 (Nat.ne_of_lt hlog)

theorem roundHalfEven_le (numerator denominator : Nat) :
    roundHalfEven numerator denominator ≤ numerator / denominator + 1 := by
  unfold roundHalfEven
  simp only
  split
  next => omega
  next =>
    split
    next => omega
    next => split <;> omega

/-- Rounding to a multiple of a step adds at most one step. -/
theorem roundHalfEven_mul_le (numerator step : Nat) :
    roundHalfEven numerator step * step ≤ numerator + step :=
  calc
    roundHalfEven numerator step * step ≤ (numerator / step + 1) * step :=
      Nat.mul_le_mul_right step (roundHalfEven_le numerator step)
    _ = numerator / step * step + step := Nat.succ_mul _ _
    _ ≤ numerator + step := Nat.add_le_add_right (Nat.div_mul_le_self _ _) step

theorem isFinite_ofRatio_one {negative : Bool} {n : Nat} (h : n ≤ 2 ^ 64) :
    (ofRatio negative n 1).isFinite = true := by
  obtain ⟨k, hk, hunits⟩ := exists_unitsPerOne_eq
  unfold ofRatio
  simp only [Nat.div_one, Nat.one_mul, Nat.pow_eq, hunits]
  have hscaled : n * 2 ^ k ≤ 2 ^ (64 + k) := by
    rw [Nat.pow_add]
    exact Nat.mul_le_mul_right _ h
  generalize n * 2 ^ k = scaled at hscaled ⊢
  have hstep : 2 ^ (scaled.log2 - 52) ≤ 2 ^ (64 + k) := by
    by_cases hzero : scaled = 0
    · rw [hzero, Nat.log2_zero]
      exact Nat.two_pow_pos _
    · have hlog : 2 ^ (scaled.log2 - 52) ≤ 2 ^ scaled.log2 :=
        Nat.pow_le_pow_right (by decide) (Nat.sub_le _ _)
      exact Nat.le_trans hlog (Nat.le_trans (Nat.log2_self_le hzero) hscaled)
  refine isFinite_ofUnits (show 66 + k ≤ 2098 by omega) ?_
  calc
    roundHalfEven scaled (2 ^ (scaled.log2 - 52)) * 2 ^ (scaled.log2 - 52)
        ≤ scaled + 2 ^ (scaled.log2 - 52) := roundHalfEven_mul_le _ _
    _ ≤ 2 ^ (64 + k) + 2 ^ (64 + k) := Nat.add_le_add hscaled hstep
    _ = 2 ^ (65 + k) := by
      rw [← Nat.two_mul, show 65 + k = (64 + k) + 1 by omega, Nat.pow_succ, Nat.mul_comm]
    _ < 2 ^ (66 + k) := Nat.pow_lt_pow_right (by decide) (by omega)

theorem isFinite_ofInt {n : Int} (h : n.natAbs ≤ 2 ^ 64) : (ofInt n).isFinite = true :=
  isFinite_ofRatio_one h

/-! ## Equal doubles -/

theorem isNaN_of_isFinite {x : Double} (h : x.isFinite = true) : x.isNaN = false := by
  have hne : (x.exponent.val == 2047) = false := by simpa [isFinite] using h
  rw [isNaN, hne, Bool.false_and]

/-- Finite doubles are equal when they stand for the same number; the zeros do. -/
theorem beq_iff_of_isFinite {x y : Double} (hx : x.isFinite = true) (hy : y.isFinite = true) :
    (x == y) = true ↔ x.signedUnits = y.signedUnits := by
  change (!x.isNaN && !y.isNaN && x.position == y.position) = true ↔ _
  rw [isNaN_of_isFinite hx, isNaN_of_isFinite hy, position, position, if_pos hx, if_pos hy]
  simp

/-- A double that is read as a whole number stands for it. -/
theorem signedUnits_of_exactInt? {x : Double} {n : Int} (h : x.exactInt? = some n) :
    x.isFinite = true ∧ x.signedUnits = n * unitsPerOne := by
  unfold exactInt? at h
  split at h
  next hexact =>
    cases h
    have hintegral := (Bool.and_eq_true_iff.1 hexact).1
    obtain ⟨hfinite, hmod⟩ := Bool.and_eq_true_iff.1 hintegral
    have hunits : x.units / unitsPerOne * unitsPerOne = x.units :=
      Nat.div_mul_cancel (Nat.dvd_of_mod_eq_zero (eq_of_beq hmod))
    have hcast : (x.units / unitsPerOne : Int) * unitsPerOne = x.units := by
      exact_mod_cast hunits
    refine ⟨hfinite, ?_⟩
    unfold signedUnits truncate
    split
    next => rw [Int.neg_mul, hcast]
    next => exact hcast.symm
  next => cases h

end Double

theorem Number.isFinite_toDouble (n : Number) : n.toDouble.isFinite = true := by
  cases n with
  | whole n inRange => exact Double.isFinite_ofInt (by omega)
  | real x finite => exact finite

theorem Number.ofInt?_eq_some_iff {m : Int} {n : Number} :
    Number.ofInt? m = some n ↔ ∃ h, n = .whole m h := by
  unfold Number.ofInt?
  split
  next h => simp [h, eq_comm]
  next h => simp [h]

theorem Number.ofDouble?_eq_some_iff {x : Double} {n : Number} :
    Number.ofDouble? x = some n ↔ ∃ h, n = .real x h := by
  unfold Number.ofDouble?
  split
  next h => simp [h, eq_comm]
  next h => simp [h]

theorem Double.truncate_of_exactInt? {x : Double} {m : Int} (h : x.exactInt? = some m) :
    x.truncate = m := by
  unfold exactInt? at h
  split at h
  next => exact Option.some.inj h
  next => cases h

/-- A whole number below `2 ^ 53` is a 64-bit integer: the cast keeps it. -/
theorem Double.toInt_toInt64 {x : Double} {m : Int} (h : x.exactInt? = some m) :
    x.toInt64.toInt = m := by
  have hsmall := natAbs_lt_of_exactInt? h
  have hlower : Int64.minValue.toInt ≤ m := by
    rw [Int64.toInt_minValue]
    omega
  have hupper : m ≤ Int64.maxValue.toInt := by
    rw [Int64.toInt_maxValue]
    omega
  rw [toInt64, isNaN_of_isFinite (signedUnits_of_exactInt? h).1, if_neg Bool.false_ne_true,
    truncate_of_exactInt? h, Int64.toInt_ofIntClamp hlower hupper]

theorem Number.ofInt64_eq_whole {i : Int64} {m : Int} {inRange : _} (h : i.toInt = m) :
    Number.ofInt64 i = .whole m inRange := by
  subst h
  rfl

theorem jsonNumber?_of_exactInt? {x : Double} {m : Int} (h : x.exactInt? = some m) :
    jsonNumber? x = Number.ofInt? m := by
  have hsmall := Double.natAbs_lt_of_exactInt? h
  have hwhole : Number.ofInt? m = some (.whole m (by omega)) :=
    Number.ofInt?_eq_some_iff.2 ⟨_, rfl⟩
  rw [jsonNumber?, h, if_pos Option.isSome_some, hwhole,
    Number.ofInt64_eq_whole (Double.toInt_toInt64 h)]

theorem jsonNumber?_of_exactInt?_eq_none {x : Double} (h : x.exactInt? = none) :
    jsonNumber? x = Number.ofDouble? x := by
  rw [jsonNumber?, h]
  rfl

/-- The JSON form of a double is the form of the double that it stands for. -/
theorem jsonNumber?_toDouble {x : Double} {n : Number} (h : jsonNumber? x = some n) :
    jsonNumber? n.toDouble = some n := by
  cases hexact : x.exactInt? with
  | some m =>
    rw [jsonNumber?_of_exactInt? hexact] at h
    obtain ⟨hrange, rfl⟩ := Number.ofInt?_eq_some_iff.1 h
    rw [Number.toDouble, jsonNumber?_of_exactInt? (Double.exactInt?_ofInt
      (Double.natAbs_lt_of_exactInt? hexact))]
    exact h
  | none =>
    have hreal := jsonNumber?_of_exactInt?_eq_none hexact
    rw [hreal] at h
    obtain ⟨hfinite, rfl⟩ := Number.ofDouble?_eq_some_iff.1 h
    rw [Number.toDouble, hreal]
    exact h

/-- The JSON form of a double stands for a double that is equal to it. -/
theorem beq_toDouble_of_jsonNumber? {x : Double} {n : Number} (h : jsonNumber? x = some n) :
    (x == n.toDouble) = true := by
  cases hexact : x.exactInt? with
  | some m =>
    rw [jsonNumber?_of_exactInt? hexact] at h
    obtain ⟨hrange, rfl⟩ := Number.ofInt?_eq_some_iff.1 h
    have hsmall := Double.natAbs_lt_of_exactInt? hexact
    obtain ⟨hfinite, hunits⟩ := Double.signedUnits_of_exactInt? hexact
    apply (Double.beq_iff_of_isFinite hfinite (Double.ofInt_spec hsmall).2.1).2
    rw [hunits, Double.signedUnits_ofInt hsmall]
  | none =>
    have hreal := jsonNumber?_of_exactInt?_eq_none hexact
    rw [hreal] at h
    obtain ⟨hfinite, rfl⟩ := Number.ofDouble?_eq_some_iff.1 h
    exact (Double.beq_iff_of_isFinite hfinite hfinite).2 rfl

/-- Every finite double has a JSON form. -/
theorem exists_jsonNumber? {x : Double} (h : x.isFinite = true) : ∃ n, jsonNumber? x = some n := by
  cases hexact : x.exactInt? with
  | some m =>
    have hsmall := Double.natAbs_lt_of_exactInt? hexact
    rw [jsonNumber?_of_exactInt? hexact]
    exact ⟨_, Number.ofInt?_eq_some_iff.2 ⟨by omega, rfl⟩⟩
  | none =>
    refine ⟨.real x h, ?_⟩
    rw [jsonNumber?_of_exactInt?_eq_none hexact]
    exact Number.ofDouble?_eq_some_iff.2 ⟨h, rfl⟩

end TwoWaySchema
