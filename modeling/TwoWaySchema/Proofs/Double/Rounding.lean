import Mathlib.Tactic.Ring
import TwoWaySchema.Proofs.Double

/-!
# Rounding a fraction

The double nearest to a fraction is a whole number of steps, of which it has fewer than `2 ^ 53`,
and it is at most half a step away from the fraction.  A step is one unit, or it is so small that
the double has at least `2 ^ 52` of them.  So a fraction that is rounded to a whole number other
than zero was changed by at most its part of `2 ^ 53`.
-/

namespace TwoWaySchema.Double

/-! ## The nearest multiple -/

/-- Of the multiples of a step the nearest one is at most half a step away. -/
theorem roundHalfEven_error (numerator : Nat) {step : Nat} (h : 0 < step) :
    2 * numerator ≤ 2 * (roundHalfEven numerator step * step) + step ∧
      2 * (roundHalfEven numerator step * step) ≤ 2 * numerator + step := by
  have hdiv : numerator / step * step + numerator % step = numerator :=
    Nat.div_add_mod' numerator step
  have hmod : numerator % step < step := Nat.mod_lt _ h
  have hsucc : (numerator / step + 1) * step = numerator / step * step + step :=
    Nat.succ_mul _ _
  unfold roundHalfEven
  simp only
  split
  next => omega
  next =>
    split
    next => omega
    next => split <;> omega

theorem le_roundHalfEven (numerator denominator : Nat) :
    numerator / denominator ≤ roundHalfEven numerator denominator := by
  unfold roundHalfEven
  simp only
  split
  next => omega
  next =>
    split
    next => omega
    next => split <;> omega

/-! ## Significands -/

section Significand

variable (scaled denominator : Nat)

/-- The exponent of the step to which `scaled / denominator` units are rounded. -/
def stepExponent : Nat :=
  (scaled / denominator).log2 - 52

/-- How many steps the nearest double has. -/
def roundedSignificand : Nat :=
  roundHalfEven scaled (denominator * 2 ^ stepExponent scaled denominator)

theorem roundedSignificand_le :
    roundedSignificand scaled denominator ≤ 2 ^ 53 := by
  have hquotient : scaled / (denominator * 2 ^ stepExponent scaled denominator) < 2 ^ 53 := by
    rw [← Nat.div_div_eq_div_mul]
    apply Nat.div_lt_of_lt_mul
    calc
      scaled / denominator < 2 ^ ((scaled / denominator).log2 + 1) := Nat.lt_log2_self
      _ ≤ 2 ^ (stepExponent scaled denominator + 53) :=
        Nat.pow_le_pow_right (by decide) (by unfold stepExponent; omega)
      _ = 2 ^ stepExponent scaled denominator * 2 ^ 53 := Nat.pow_add _ _ _
  exact Nat.le_trans (roundHalfEven_le _ _) hquotient

/-- A step of more than one unit is small compared to the fraction. -/
theorem le_div_step (h : stepExponent scaled denominator ≠ 0) :
    2 ^ 52 ≤ scaled / (denominator * 2 ^ stepExponent scaled denominator) := by
  rw [← Nat.div_div_eq_div_mul, Nat.le_div_iff_mul_le (Nat.two_pow_pos _), ← Nat.pow_add]
  have hlog : 52 + stepExponent scaled denominator = (scaled / denominator).log2 := by
    unfold stepExponent at h ⊢
    omega
  rw [hlog]
  apply Nat.log2_self_le
  intro hzero
  rw [stepExponent, hzero, Nat.log2_zero] at h
  exact h rfl

theorem le_roundedSignificand (h : stepExponent scaled denominator ≠ 0) :
    2 ^ 52 ≤ roundedSignificand scaled denominator :=
  Nat.le_trans (le_div_step scaled denominator h) (le_roundHalfEven _ _)

end Significand

/-! ## The nearest double -/

theorem ofRatio_eq_ofUnits (negative : Bool) (numerator denominator : Nat) :
    ofRatio negative numerator denominator = ofUnits negative
      (roundedSignificand (numerator * unitsPerOne) denominator *
        2 ^ stepExponent (numerator * unitsPerOne) denominator) := rfl

/-- So many steps are a multiple of the step of their exponent. -/
theorem step_dvd_mul {significand k : Nat} (h : significand ≤ 2 ^ 53) :
    2 ^ ((significand * 2 ^ k).log2 - 52) ∣ significand * 2 ^ k := by
  by_cases hzero : significand = 0
  · rw [hzero, Nat.zero_mul]
    exact Nat.dvd_zero _
  rw [log2_mul_two_pow hzero]
  rcases Nat.lt_or_eq_of_le h with hlt | rfl
  · have hlog : significand.log2 < 53 := (Nat.log2_lt hzero).2 hlt
    have hstep : significand.log2 + k - 52 ≤ k := by omega
    exact Nat.dvd_mul_left_of_dvd (Nat.pow_dvd_pow 2 hstep) significand
  · rw [Nat.log2_two_pow, ← Nat.pow_add]
    exact Nat.pow_dvd_pow 2 (Nat.sub_le _ _)

theorem log2_lt_of_isFinite {negative : Bool} {units : Nat}
    (h : (ofUnits negative units).isFinite = true) : units.log2 < 2098 := by
  unfold ofUnits at h
  split at h
  next hsmall =>
    by_cases hzero : units = 0
    · rw [hzero, Nat.log2_zero]
      decide
    · have hlog : units.log2 < 52 := (Nat.log2_lt hzero).2 hsmall
      omega
  next =>
    dsimp only at h
    split at h
    next => omega
    next => cases h

/-- Where the nearest double is finite it has the units of its steps. -/
theorem ofRatio_spec {negative : Bool} {numerator denominator : Nat}
    (h : (ofRatio negative numerator denominator).isFinite = true) :
    (ofRatio negative numerator denominator).negative = negative ∧
      (ofRatio negative numerator denominator).units =
        roundedSignificand (numerator * unitsPerOne) denominator *
          2 ^ stepExponent (numerator * unitsPerOne) denominator := by
  rw [ofRatio_eq_ofUnits] at h ⊢
  obtain ⟨hunits, -, hnegative⟩ :=
    ofUnits_spec (log2_lt_of_isFinite h) (step_dvd_mul (roundedSignificand_le _ _))
  exact ⟨hnegative, hunits⟩

/-! ## Whole numbers -/

/-- The magnitude of a double that is read as a whole number, and its sign. -/
theorem units_of_exactInt? {x : Double} {n : Int} (h : x.exactInt? = some n) :
    x.units = n.natAbs * unitsPerOne ∧
      n = if x.negative then -(n.natAbs : Int) else n.natAbs := by
  obtain ⟨-, hsigned⟩ := signedUnits_of_exactInt? h
  have hunits := units_of_signedUnits hsigned
  have hne : (unitsPerOne : Int) ≠ 0 := Int.natCast_ne_zero.2 (Nat.ne_of_gt unitsPerOne_pos)
  have hsign : n = sign x.negative * n.natAbs := by
    refine Int.eq_of_mul_eq_mul_right hne ?_
    rw [← hsigned, signedUnits_eq, hunits, Int.natCast_mul, Int.mul_assoc]
  refine ⟨hunits, hsign.trans ?_⟩
  cases x.negative with
  | false => exact Int.one_mul _
  | true => exact Int.neg_one_mul _

/-- Half a step that is at most a part of `2 ^ 52` of the whole number, where all is measured in
units. -/
theorem bounds_of_half_step {numerator denominator magnitude units step : Nat} (hunits : 0 < units)
    (hstep : 2 ^ 53 * step ≤ 2 * (magnitude * units))
    (hlower : 2 * (numerator * units) ≤
      2 * (denominator * (magnitude * units)) + denominator * step)
    (hupper : 2 * (denominator * (magnitude * units)) ≤
      2 * (numerator * units) + denominator * step) :
    2 ^ 53 * numerator ≤ 2 ^ 53 * (denominator * magnitude) + denominator * magnitude ∧
      2 ^ 53 * (denominator * magnitude) ≤ 2 ^ 53 * numerator + denominator * magnitude := by
  have hpos : 0 < 2 * units := Nat.mul_pos (by decide) hunits
  have hsteps : denominator * (2 ^ 53 * step) ≤ denominator * (2 * (magnitude * units)) :=
    Nat.mul_le_mul_left _ hstep
  constructor
  · refine Nat.le_of_mul_le_mul_left ?_ hpos
    calc
      2 * units * (2 ^ 53 * numerator) = 2 ^ 53 * (2 * (numerator * units)) := by ring
      _ ≤ 2 ^ 53 * (2 * (denominator * (magnitude * units)) + denominator * step) :=
        Nat.mul_le_mul_left _ hlower
      _ = 2 ^ 53 * (2 * (denominator * (magnitude * units))) +
          denominator * (2 ^ 53 * step) := by ring
      _ ≤ 2 ^ 53 * (2 * (denominator * (magnitude * units))) +
          denominator * (2 * (magnitude * units)) := Nat.add_le_add_left hsteps _
      _ = 2 * units * (2 ^ 53 * (denominator * magnitude) + denominator * magnitude) := by ring
  · refine Nat.le_of_mul_le_mul_left ?_ hpos
    calc
      2 * units * (2 ^ 53 * (denominator * magnitude)) =
          2 ^ 53 * (2 * (denominator * (magnitude * units))) := by ring
      _ ≤ 2 ^ 53 * (2 * (numerator * units) + denominator * step) :=
        Nat.mul_le_mul_left _ hupper
      _ = 2 ^ 53 * (2 * (numerator * units)) + denominator * (2 ^ 53 * step) := by ring
      _ ≤ 2 ^ 53 * (2 * (numerator * units)) + denominator * (2 * (magnitude * units)) :=
        Nat.add_le_add_left hsteps _
      _ = 2 * units * (2 ^ 53 * numerator + denominator * magnitude) := by ring

theorem two_pow_le_unitsPerOne : 2 ^ 53 ≤ unitsPerOne := by
  obtain ⟨k, hk, hunits⟩ := exists_unitsPerOne_eq
  rw [hunits]
  exact Nat.pow_le_pow_right (by decide) (by omega)

theorem two_mul_unitsPerOne_le {length : Nat} (h : 400 ≤ length) :
    2 * unitsPerOne ≤ 10 ^ length := by
  obtain ⟨k, hk, hunits⟩ := exists_unitsPerOne_eq
  rw [hunits]
  calc
    2 * 2 ^ k = 2 ^ (k + 1) := by rw [Nat.pow_succ, Nat.mul_comm]
    _ ≤ 2 ^ (3 * length) := Nat.pow_le_pow_right (by decide) (by omega)
    _ = 8 ^ length := Nat.pow_mul 2 3 length
    _ ≤ 10 ^ length := Nat.pow_le_pow_left (by decide) length

/-- A fraction whose double is read as a whole number: its sign is that of the number.  It is at
most a part of `2 ^ 53` of the number away from it, and at most half a unit away from zero. -/
theorem of_exactInt?_ofRatio {negative : Bool} {numerator denominator : Nat}
    (hdenominator : 0 < denominator) {n : Int}
    (h : (ofRatio negative numerator denominator).exactInt? = some n) :
    (n = if negative then -(n.natAbs : Int) else n.natAbs) ∧
      (n ≠ 0 → 2 ^ 53 * numerator ≤ 2 ^ 53 * (denominator * n.natAbs) + denominator * n.natAbs ∧
        2 ^ 53 * (denominator * n.natAbs) ≤ 2 ^ 53 * numerator + denominator * n.natAbs) ∧
      (n = 0 → 2 * unitsPerOne * numerator ≤ denominator) := by
  obtain ⟨hfinite, -⟩ := signedUnits_of_exactInt? h
  obtain ⟨hunits, hsign⟩ := units_of_exactInt? h
  obtain ⟨hnegative, hsteps⟩ := ofRatio_spec hfinite
  rw [hnegative] at hsign
  rw [hsteps] at hunits
  have hlarge := le_roundedSignificand (numerator * unitsPerOne) denominator
  have hpos : 0 < denominator * 2 ^ stepExponent (numerator * unitsPerOne) denominator :=
    Nat.mul_pos hdenominator (Nat.two_pow_pos _)
  have herror := roundHalfEven_error (numerator * unitsPerOne) hpos
  rw [← roundedSignificand] at herror
  generalize roundedSignificand (numerator * unitsPerOne) denominator = significand
    at hlarge hunits herror
  generalize stepExponent (numerator * unitsPerOne) denominator = k at hlarge hunits herror
  have hmultiple : significand * (denominator * 2 ^ k) =
      denominator * (n.natAbs * unitsPerOne) := by
    rw [← hunits]
    ring
  rw [hmultiple] at herror
  refine ⟨hsign, fun hn ↦ ?_, fun hn ↦ ?_⟩
  · refine bounds_of_half_step unitsPerOne_pos ?_ herror.1 herror.2
    by_cases hk : k = 0
    · have hone : 1 ≤ n.natAbs := Int.natAbs_pos.2 hn
      calc
        2 ^ 53 * 2 ^ k = 2 ^ 53 := by rw [hk, Nat.pow_zero, Nat.mul_one]
        _ ≤ unitsPerOne := two_pow_le_unitsPerOne
        _ ≤ 2 * (n.natAbs * unitsPerOne) := by
          have hmul := Nat.mul_le_mul_right unitsPerOne hone
          omega
    · calc
        2 ^ 53 * 2 ^ k = 2 * (2 ^ 52 * 2 ^ k) := by ring
        _ ≤ 2 * (significand * 2 ^ k) :=
          Nat.mul_le_mul_left 2 (Nat.mul_le_mul_right _ (hlarge hk))
        _ = 2 * (n.natAbs * unitsPerOne) := by rw [hunits]
  · have hk : k = 0 := by
      by_contra hk
      have hmul : 0 < significand * 2 ^ k :=
        Nat.mul_pos (Nat.lt_of_lt_of_le (by decide) (hlarge hk)) (Nat.two_pow_pos k)
      rw [hunits, hn, Int.natAbs_zero, Nat.zero_mul] at hmul
      exact Nat.lt_irrefl 0 hmul
    have hbound := herror.1
    rw [hk, hn, Int.natAbs_zero, Nat.zero_mul, Nat.mul_zero, Nat.mul_zero, Nat.zero_add,
      Nat.pow_zero, Nat.mul_one] at hbound
    rwa [Nat.mul_assoc, Nat.mul_comm unitsPerOne]

end TwoWaySchema.Double
