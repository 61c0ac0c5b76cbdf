import Mathlib.Algebra.Order.Field.Rat
import Mathlib.Algebra.Order.Field.Basic
import Mathlib.Algebra.Ring.Parity
import Mathlib.Data.Nat.Prime.Basic
import Mathlib.Tactic.FieldSimp
import Mathlib.Tactic.Linarith
import TwoWaySchema.Proofs.Double.Rounding

/-!
# The nearest double

A double is the nearest one to a rational number if no other is nearer, and in a tie its
significand is even.  Fractions are rounded to such doubles: a fraction goes to the nearest multiple
of its step, and what doubles there are between these multiples are too small to be near it.
-/

namespace TwoWaySchema.Double

/-- The number that a finite double stands for. -/
def value (x : Double) : ℚ :=
  x.signedUnits / unitsPerOne

/-- Of all finite doubles none is nearer to the number, and if another one is as near, then the
significand of this one is even. -/
structure IsNearest (x : Double) (q : ℚ) : Prop where
  isFinite : x.isFinite = true
  nearest : ∀ y : Double, y.isFinite = true → |x.value - q| ≤ |y.value - q|
  even : ∀ y : Double, y.isFinite = true → |y.value - q| = |x.value - q| → y.value ≠ x.value →
    Even x.significand

/-! ## The nearest multiple -/

section Multiples

variable (numerator : ℕ) {step : ℕ}

/-- From half a step away the even multiple is taken. -/
theorem even_roundHalfEven (hstep : 0 < step)
    (h : 2 * (roundHalfEven numerator step * step) = 2 * numerator + step ∨
      2 * numerator = 2 * (roundHalfEven numerator step * step) + step) :
    Even (roundHalfEven numerator step) := by
  have hdiv : numerator / step * step + numerator % step = numerator :=
    Nat.div_add_mod' numerator step
  have hmod : numerator % step < step := Nat.mod_lt _ hstep
  have hsucc : (numerator / step + 1) * step = numerator / step * step + step :=
    Nat.succ_mul _ _
  rw [Nat.even_iff]
  unfold roundHalfEven at h ⊢
  simp only at h ⊢
  split at h
  next => omega
  next hle =>
    rw [if_neg hle]
    split at h
    next => omega
    next hge =>
      rw [if_neg hge]
      split <;> omega

/-- No multiple of a step is nearer than the rounded one, and if another one is as near, the rounded
one is even. -/
theorem roundHalfEven_nearest (hstep : 0 < step) (z : ℤ) :
    |(roundHalfEven numerator step * step : ℤ) - numerator| ≤ |z * step - numerator| ∧
      (|z * step - numerator| = |(roundHalfEven numerator step * step : ℤ) - numerator| →
        z ≠ roundHalfEven numerator step → Even (roundHalfEven numerator step)) := by
  have herror := roundHalfEven_error numerator hstep
  have heven := even_roundHalfEven numerator hstep
  generalize roundHalfEven numerator step = rounded at herror heven ⊢
  by_cases hz : z = rounded
  · exact ⟨by rw [hz], fun _ hne ↦ absurd hz hne⟩
  -- Two multiples are at least a step apart, and the rounded one is within half a step.
  have hapart : (step : ℤ) ≤ |z * step - rounded * step| := by
    rw [← sub_mul, abs_mul, Nat.abs_cast]
    exact le_mul_of_one_le_left (by omega) (Int.one_le_abs (sub_ne_zero.2 hz))
  have htriangle : |z * step - rounded * step| ≤
      |z * step - (numerator : ℤ)| + |(rounded * step : ℤ) - numerator| := by
    rw [abs_sub_comm (rounded * step : ℤ)]
    exact abs_sub_le _ _ _
  have hhalf : 2 * |(rounded * step : ℤ) - numerator| ≤ step := by
    rcases abs_cases ((rounded * step : ℤ) - numerator) with ⟨habs, -⟩ | ⟨habs, -⟩
    · rw [habs]
      omega
    · rw [habs]
      omega
  refine ⟨by linarith, fun htie _ ↦ heven ?_⟩
  have hexact : 2 * |(rounded * step : ℤ) - numerator| = step := by linarith
  rcases abs_cases ((rounded * step : ℤ) - numerator) with ⟨habs, -⟩ | ⟨habs, -⟩
  · left
    zify
    linarith
  · right
    zify
    linarith

end Multiples

/-! ## Units of doubles -/

section Units

variable {x : Double} {k : ℕ}

theorem significand_lt (x : Double) : x.significand < 2 ^ 53 := by
  have hfraction : x.fraction.val < 2 ^ 52 := x.fraction.isLt
  unfold significand
  split
  next => omega
  next => exact Nat.add_lt_add_left hfraction (2 ^ 52)

theorem le_significand (h : x.shift ≠ 0) : 2 ^ 52 ≤ x.significand := by
  unfold significand
  split
  next hzero =>
    rw [shift, hzero] at h
    exact absurd rfl h
  next => exact Nat.le_add_right _ _

/-- From `2 ^ 52` steps on the units of every double are whole steps. -/
theorem dvd_units_or_lt (x : Double) (k : ℕ) : 2 ^ k ∣ x.units ∨ x.units < 2 ^ 52 * 2 ^ k := by
  by_cases hshift : k ≤ x.shift
  · exact .inl (Nat.dvd_mul_left_of_dvd (Nat.pow_dvd_pow 2 hshift) _)
  · right
    calc
      x.units < 2 ^ 53 * 2 ^ x.shift :=
        Nat.mul_lt_mul_of_pos_right x.significand_lt (Nat.two_pow_pos _)
      _ = 2 ^ 52 * 2 ^ (x.shift + 1) := by rw [Nat.pow_succ 2 x.shift]; ring
      _ ≤ 2 ^ 52 * 2 ^ k := Nat.mul_le_mul_left _ (Nat.pow_le_pow_right (by decide) (by omega))

theorem dvd_signed_units_or_lt (x : Double) (negative : Bool) (k : ℕ) :
    2 ^ k ∣ (sign negative * x.signedUnits).natAbs ∨
      (sign negative * x.signedUnits).natAbs < 2 ^ 52 * 2 ^ k := by
  have habs : (sign negative * x.signedUnits).natAbs = x.units := by
    rw [signedUnits_eq]
    cases negative <;> cases x.negative <;> simp [sign]
  rw [habs]
  exact x.dvd_units_or_lt k

/-- If a double has an even number of steps, at most `2 ^ 53`, then its significand is even too: it
is that number, but for smaller or larger steps. -/
theorem even_significand {steps : ℕ} (hunits : x.units = steps * 2 ^ k) (hle : steps ≤ 2 ^ 53)
    (heven : Even steps) : Even x.significand := by
  by_contra hodd
  rw [Nat.not_even_iff_odd] at hodd
  obtain ⟨half, rfl⟩ := heven
  have hdvd : 2 ^ (k + 1) ∣ x.significand * 2 ^ x.shift := by
    refine ⟨half, ?_⟩
    calc
      x.significand * 2 ^ x.shift = (half + half) * 2 ^ k := hunits
      _ = 2 ^ (k + 1) * half := by ring
  have hshift : k + 1 ≤ x.shift := by
    refine (Nat.pow_dvd_pow_iff_le_right (by decide)).1 (Nat.Coprime.dvd_of_dvd_mul_left ?_ hdvd)
    exact Nat.Coprime.pow_left _ (Nat.coprime_two_left.2 hodd)
  have hlarge : 2 ^ 52 ≤ x.significand := le_significand (by omega)
  have hsteps : x.significand * 2 ≤ half + half := by
    refine Nat.le_of_mul_le_mul_right ?_ (Nat.two_pow_pos k)
    calc
      x.significand * 2 * 2 ^ k = x.significand * 2 ^ (k + 1) := by ring
      _ ≤ x.significand * 2 ^ x.shift :=
        Nat.mul_le_mul_left _ (Nat.pow_le_pow_right (by decide) hshift)
      _ = (half + half) * 2 ^ k := hunits
  have hleast : x.significand = 2 ^ 52 := by omega
  rw [hleast] at hodd
  exact absurd hodd (by decide)

end Units

/-! ## Fractions -/

/-- Units of less than `2 ^ 52` steps are farther than those steps from a fraction that has more. -/
theorem abs_sub_lt_of_natAbs_lt {scaled denominator step : ℕ} (hdenominator : 0 < denominator)
    (hscaled : 2 ^ 52 * (denominator * step) ≤ scaled) {units : ℤ}
    (hunits : units.natAbs < 2 ^ 52 * step) :
    |(2 ^ 52 * (denominator * step : ℕ) : ℤ) - scaled| < |units * denominator - scaled| := by
  have hsmall : units < (2 ^ 52 * step : ℕ) := by omega
  have hless : units * denominator < (2 ^ 52 * (denominator * step : ℕ) : ℤ) := by
    calc
      units * denominator < (2 ^ 52 * step : ℕ) * denominator :=
        mul_lt_mul_of_pos_right hsmall (by exact_mod_cast hdenominator)
      _ = (2 ^ 52 * (denominator * step : ℕ) : ℤ) := by
        push_cast
        ring
  have hscaled' : (2 ^ 52 * (denominator * step : ℕ) : ℤ) ≤ scaled := by exact_mod_cast hscaled
  rw [abs_of_nonpos (by linarith), abs_of_nonpos (by linarith)]
  linarith

/-- Among the units that doubles have, with a sign, none are nearer to a fraction than its rounded
steps. -/
theorem steps_nearest {scaled denominator k : ℕ} (hdenominator : 0 < denominator)
    (hk : stepExponent scaled denominator = k) {units : ℤ}
    (hunits : 2 ^ k ∣ units.natAbs ∨ units.natAbs < 2 ^ 52 * 2 ^ k) :
    |(roundedSignificand scaled denominator * 2 ^ k * denominator : ℤ) - scaled| ≤
        |units * denominator - scaled| ∧
      (|units * denominator - scaled| =
          |(roundedSignificand scaled denominator * 2 ^ k * denominator : ℤ) - scaled| →
        units ≠ roundedSignificand scaled denominator * 2 ^ k →
        Even (roundedSignificand scaled denominator)) := by
  have hstep : 0 < denominator * 2 ^ k := Nat.mul_pos hdenominator (Nat.two_pow_pos k)
  have hsteps (z : ℤ) : z * 2 ^ k * denominator = z * (denominator * 2 ^ k : ℕ) := by
    push_cast
    ring
  have hrounded : roundedSignificand scaled denominator =
      roundHalfEven scaled (denominator * 2 ^ k) := by rw [roundedSignificand, hk]
  have hnearest := roundHalfEven_nearest scaled hstep
  rw [← hrounded] at hnearest
  by_cases hdvd : 2 ^ k ∣ units.natAbs
  · obtain ⟨z, rfl⟩ : (2 ^ k : ℤ) ∣ units := by
      rw [← Int.natAbs_dvd_natAbs, Int.natAbs_pow]
      exact hdvd
    obtain ⟨hle, heven⟩ := hnearest z
    rw [mul_comm _ z, hsteps, hsteps]
    refine ⟨hle, fun htie hne ↦ heven htie ?_⟩
    rintro rfl
    exact hne rfl
  -- Units that are no whole steps are less than `2 ^ 52` steps, so there is no tie with them.
  · have hne : stepExponent scaled denominator ≠ 0 := by
      rintro hzero
      rw [← hk, hzero, Nat.pow_zero] at hdvd
      exact hdvd (Nat.one_dvd _)
    have hlarge := le_div_step scaled denominator hne
    rw [hk, Nat.le_div_iff_mul_le hstep] at hlarge
    have hfarther := abs_sub_lt_of_natAbs_lt hdenominator hlarge (hunits.resolve_left hdvd)
    have hlt := lt_of_le_of_lt (hnearest (2 ^ 52)).1 hfarther
    rw [hsteps]
    exact ⟨le_of_lt hlt, fun htie ↦ absurd htie (ne_of_gt hlt)⟩

/-- The distance of a double from a fraction, measured in parts of units. -/
theorem abs_value_sub (y : Double) (negative : Bool) {numerator denominator : ℕ}
    (hdenominator : 0 < denominator) :
    |y.value - sign negative * (numerator / denominator)| =
      ((|sign negative * y.signedUnits * denominator - (numerator * unitsPerOne : ℕ)| : ℤ) : ℚ) /
        (denominator * unitsPerOne) := by
  have hden : (0 : ℚ) < denominator := by exact_mod_cast hdenominator
  have hunits : (0 : ℚ) < unitsPerOne := by exact_mod_cast unitsPerOne_pos
  have habs : |(sign negative : ℚ)| = 1 := by cases negative <;> simp [sign]
  have hsign : (sign negative : ℚ) * sign negative = 1 := by exact_mod_cast sign_mul_sign negative
  have hfraction : sign negative * (y.value - sign negative * (numerator / denominator)) =
      (sign negative * y.signedUnits * denominator - numerator * unitsPerOne) /
        (denominator * unitsPerOne) := by
    rw [mul_sub, ← mul_assoc, hsign, value]
    -- The units stay a variable: their number is a power of two too large to compute with.
    generalize (unitsPerOne : ℚ) = units at hunits ⊢
    field_simp
  calc
    |y.value - sign negative * (numerator / denominator)| =
        |sign negative * (y.value - sign negative * (numerator / denominator))| := by
      rw [abs_mul, habs, one_mul]
    _ = |(sign negative * y.signedUnits * denominator - numerator * unitsPerOne : ℚ)| /
        (denominator * unitsPerOne) := by
      rw [hfraction, abs_div, abs_of_pos (mul_pos hden hunits)]
    _ = _ := by
      push_cast
      rfl

/-- A fraction is rounded to the double nearest to it. -/
theorem isNearest_ofRatio {negative : Bool} {numerator denominator : ℕ}
    (hdenominator : 0 < denominator)
    (hfinite : (ofRatio negative numerator denominator).isFinite = true) :
    (ofRatio negative numerator denominator).IsNearest
      (sign negative * (numerator / denominator)) := by
  obtain ⟨hnegative, hunits⟩ := ofRatio_spec hfinite
  obtain ⟨k, hk⟩ : ∃ k, stepExponent (numerator * unitsPerOne) denominator = k := ⟨_, rfl⟩
  rw [hk] at hunits
  have hsteps : sign negative * (ofRatio negative numerator denominator).signedUnits =
      roundedSignificand (numerator * unitsPerOne) denominator * 2 ^ k := by
    rw [signedUnits_eq, hnegative, ← mul_assoc, sign_mul_sign, one_mul, hunits]
    push_cast
    rfl
  have hnearest (y : Double) := steps_nearest hdenominator hk (y.dvd_signed_units_or_lt negative k)
  have hparts : (0 : ℚ) < denominator * unitsPerOne := by
    exact_mod_cast Nat.mul_pos hdenominator unitsPerOne_pos
  simp only [← hsteps] at hnearest
  refine ⟨hfinite, fun y hy ↦ ?_, fun y hy htie hne ↦ ?_⟩
  · rw [abs_value_sub _ negative hdenominator, abs_value_sub _ negative hdenominator]
    refine div_le_div_of_nonneg_right ?_ (le_of_lt hparts)
    exact_mod_cast (hnearest y).1
  · rw [abs_value_sub _ negative hdenominator, abs_value_sub _ negative hdenominator,
      div_left_inj' (ne_of_gt hparts)] at htie
    refine even_significand hunits (roundedSignificand_le _ _) ((hnearest y).2 ?_ ?_)
    · exact_mod_cast htie
    · intro hsame
      have hne' : sign negative ≠ 0 := by cases negative <;> decide
      rw [value, value, mul_left_cancel₀ hne' hsame] at hne
      exact hne rfl

/-- Zero is the nearest double to a number no larger than half of the smallest positive double. -/
theorem isNearest_of_significand_eq_zero {x : Double} {q : ℚ} (hfinite : x.isFinite = true)
    (hzero : x.significand = 0) (hq : |q| * (2 * unitsPerOne) ≤ 1) : x.IsNearest q := by
  have hvalue : x.value = 0 := by
    rw [value, signedUnits_eq, units, hzero, Nat.zero_mul, Nat.cast_zero, mul_zero, Int.cast_zero,
      zero_div]
  have hunits : (0 : ℚ) < unitsPerOne := by exact_mod_cast unitsPerOne_pos
  refine ⟨hfinite, fun y _ ↦ ?_, fun _ _ _ _ ↦ hzero ▸ Even.zero⟩
  rw [hvalue, zero_sub, abs_neg]
  by_cases hy : y.signedUnits = 0
  · rw [value, hy, Int.cast_zero, zero_div, zero_sub, abs_neg]
  · have hone : (1 : ℚ) ≤ |(y.signedUnits : ℚ)| := by exact_mod_cast Int.one_le_abs hy
    have hlarge : 2 * |q| ≤ |y.value| := by
      rw [value, abs_div, abs_of_pos hunits, le_div_iff₀ hunits]
      linarith
    linarith [abs_sub_abs_le_abs_sub y.value q]

/-! ## Whole numbers -/

section WholeNumbers

variable {x : Double} {m n : ℤ}

/-- A finite double is the nearest one to the number that it stands for. -/
theorem isNearest_value (h : x.isFinite = true) : x.IsNearest x.value where
  isFinite := h
  nearest y _ := by
    rw [sub_self, abs_zero]
    exact abs_nonneg _
  even y _ htie hne := by
    rw [sub_self, abs_zero, abs_eq_zero, sub_eq_zero] at htie
    exact absurd htie hne

theorem value_eq_iff : x.value = n ↔ x.signedUnits = n * unitsPerOne := by
  have hunits : (unitsPerOne : ℚ) ≠ 0 := by exact_mod_cast Nat.ne_of_gt unitsPerOne_pos
  rw [value, div_eq_iff hunits]
  exact_mod_cast Iff.rfl

theorem value_of_exactInt? (h : x.exactInt? = some n) : x.isFinite = true ∧ x.value = n := by
  obtain ⟨hfinite, hunits⟩ := signedUnits_of_exactInt? h
  exact ⟨hfinite, value_eq_iff.2 hunits⟩

/-- Up to `2 ^ 53` every whole number is a double. -/
theorem exists_value_eq (h : m.natAbs ≤ 2 ^ 53) :
    ∃ y : Double, y.isFinite = true ∧ y.value = m := by
  obtain ⟨k, hk, hone⟩ := exists_unitsPerOne_eq
  have hlog : (m.natAbs * 2 ^ k).log2 < 2098 := by
    by_cases hzero : m.natAbs = 0
    · rw [hzero, Nat.zero_mul, Nat.log2_zero]
      decide
    · have hlog : m.natAbs.log2 < 54 := (Nat.log2_lt hzero).2 (by omega)
      rw [log2_mul_two_pow hzero]
      omega
  obtain ⟨hunits, hfinite, hnegative⟩ := ofUnits_spec hlog (step_dvd_mul h)
  refine ⟨ofUnits (decide (m < 0)) (m.natAbs * 2 ^ k), hfinite, value_eq_iff.2 ?_⟩
  rw [signedUnits_eq, hunits, hnegative, hone, Nat.cast_mul, ← mul_assoc, sign_mul_natAbs]

theorem isNearest_ofInt (h : n.natAbs ≤ 2 ^ 64) : (ofInt n).IsNearest n := by
  have hnearest : (ofInt n).IsNearest (sign (decide (n < 0)) * (n.natAbs / (1 : ℕ))) :=
    isNearest_ofRatio Nat.one_pos (isFinite_ofInt h)
  rwa [Nat.cast_one, div_one, ← Int.cast_natCast n.natAbs, ← Int.cast_mul, sign_mul_natAbs]
    at hnearest

/-- A whole number whose nearest double is a whole number below `2 ^ 53` is that number. -/
theorem IsNearest.eq_of_natAbs_lt (h : x.IsNearest n) (hvalue : x.value = m)
    (hm : m.natAbs < 2 ^ 53) : n = m := by
  have hnearest {b : ℤ} (hb : b.natAbs ≤ 2 ^ 53) : |m - n| ≤ |b - n| := by
    obtain ⟨y, hfinite, hy⟩ := exists_value_eq hb
    have hle := h.nearest y hfinite
    rw [hvalue, hy] at hle
    exact_mod_cast hle
  by_cases hn : n.natAbs ≤ 2 ^ 53
  · have hzero := hnearest hn
    rw [sub_self, abs_zero, abs_nonpos_iff, sub_eq_zero] at hzero
    exact hzero.symm
  -- The bound itself is nearer to a number beyond it than all numbers below the bound.
  · exfalso
    rcases lt_or_ge n 0 with hneg | hpos
    · have hle := hnearest (b := -2 ^ 53) (by decide)
      rw [abs_of_nonneg (by omega), abs_of_nonneg (by omega)] at hle
      omega
    · have hle := hnearest (b := 2 ^ 53) (by decide)
      rw [abs_of_nonpos (by omega), abs_of_nonpos (by omega)] at hle
      omega

end WholeNumbers

end TwoWaySchema.Double
