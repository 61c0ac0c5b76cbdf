import Mathlib.Algebra.Order.Field.Power
import Mathlib.Algebra.Order.Field.Rat
import Mathlib.Data.List.TakeWhile
import Mathlib.Tactic.FieldSimp
import Mathlib.Tactic.Linarith
import Mathlib.Tactic.NormNum
import Mathlib.Tactic.Positivity
import TwoWaySchema.Numeral
import TwoWaySchema.Proofs.Double.Nearest
import TwoWaySchema.Proofs.Numeral

/-!
# Decimals

A decimal stands for a rational number, of which its double is the nearest one.  Where that double
is a whole number, the decimal is one only if it is the same: rounding can make a whole number of a
decimal that has a fraction, but never another whole number of one that has none.
-/

namespace TwoWaySchema

namespace Decimal

/-- The number that a decimal stands for. -/
def value (d : Decimal) : ℚ :=
  (if d.negative then -1 else 1) * (d.coefficient * 10 ^ d.exponent)

/-- The decimal is the whole number up to what rounding takes away: at most its part of `2 ^ 53`,
and of a decimal that becomes zero at most half of the smallest positive double. -/
def RoundsTo (d : Decimal) (n : ℤ) : Prop :=
  |d.value - n| * 2 ^ 53 ≤ |(n : ℚ)| ∨ n = 0 ∧ |d.value| * (2 * Double.unitsPerOne) ≤ 1

variable {d : Decimal} {n : ℤ}

theorem roundsTo_of_eq (h : d.value = n) : d.RoundsTo n := by
  left
  rw [h, sub_self, abs_zero, zero_mul]
  exact abs_nonneg _

/-- Below `2 ^ 53` rounding takes away less than one. -/
theorem RoundsTo.abs_sub_lt_one (h : d.RoundsTo n) (hn : n.natAbs < 2 ^ 53) :
    |d.value - n| < 1 := by
  rcases h with h | ⟨rfl, h⟩
  · have hcast : |(n : ℚ)| < 2 ^ 53 := by
      rw [← Int.cast_abs, Int.abs_eq_natAbs]
      exact_mod_cast hn
    have hlt : |d.value - n| * 2 ^ 53 < 1 * 2 ^ 53 := by
      rw [one_mul]
      exact lt_of_le_of_lt h hcast
    exact lt_of_mul_lt_mul_right hlt (by positivity)
  · have hunits : (1 : ℚ) ≤ Double.unitsPerOne := by
      exact_mod_cast Double.unitsPerOne_pos
    rw [Int.cast_zero, sub_zero]
    nlinarith [abs_nonneg d.value]

/-- Two whole numbers that are less than one apart are the same. -/
theorem eq_iff_exists_int (h : |d.value - n| < 1) : d.value = n ↔ ∃ m : ℤ, d.value = m := by
  constructor
  · exact fun heq ↦ ⟨n, heq⟩
  · rintro ⟨m, hm⟩
    rw [hm] at h ⊢
    have hlt : |m - n| < 1 := by exact_mod_cast h
    rw [sub_eq_zero.1 (Int.abs_lt_one_iff.1 hlt)]

/-! ## Fractions -/

/-- The numerator of the fraction that a decimal stands for but for its sign. -/
def numerator (d : Decimal) : ℕ :=
  d.coefficient * 10 ^ d.exponent.toNat

def denominator (d : Decimal) : ℕ :=
  10 ^ (-d.exponent).toNat

theorem denominator_pos (d : Decimal) : 0 < d.denominator :=
  Nat.pow_pos (by decide)

/-- The magnitude of a decimal is a fraction. -/
theorem magnitude_eq (d : Decimal) :
    (d.coefficient * 10 ^ d.exponent : ℚ) = d.numerator / d.denominator := by
  have hexponent : ((d.exponent.toNat : ℤ) - (-d.exponent).toNat) = d.exponent := by omega
  have hpow : (10 : ℚ) ^ d.exponent = 10 ^ d.exponent.toNat / 10 ^ (-d.exponent).toNat := by
    rw [← zpow_natCast, ← zpow_natCast, ← zpow_sub₀ (by norm_num), hexponent]
  rw [hpow, numerator, denominator]
  push_cast
  rw [mul_div_assoc]

/-- The double of a decimal is the nearest one, or the decimal is so small or so large that its
length decides. -/
theorem toDouble_cases (d : Decimal) :
    d.toDouble = Double.ofRatio d.negative d.numerator d.denominator ∨
      d.toDouble = Double.infinity d.negative ∧
        310 < decimalLength d.coefficient + d.exponent ∨
      d.toDouble = { Double.zero with negative := d.negative } ∧
        (d.coefficient = 0 ∨ decimalLength d.coefficient + d.exponent < -400) := by
  unfold toDouble
  simp only
  split
  next hzero => exact .inr (.inr ⟨rfl, .inl hzero⟩)
  next =>
    split
    next hlarge => exact .inr (.inl ⟨rfl, hlarge⟩)
    next =>
      split
      next hsmall => exact .inr (.inr ⟨rfl, .inr hsmall⟩)
      next =>
        left
        split
        next hexponent =>
          have hneg : (-d.exponent).toNat = 0 := by omega
          rw [denominator, hneg]
          rfl
        next hexponent =>
          have hpos : d.exponent.toNat = 0 := by omega
          rw [numerator, hpos, Nat.pow_zero, Nat.mul_one]
          rfl

theorem abs_value_eq (d : Decimal) : |d.value| = d.coefficient * 10 ^ d.exponent := by
  have hmagnitude : (0 : ℚ) ≤ d.coefficient * 10 ^ d.exponent := by positivity
  rw [value, abs_mul, abs_of_nonneg hmagnitude]
  cases d.negative <;> simp

/-- From a whole number of its sign a decimal is as far as their magnitudes are. -/
theorem abs_value_sub (h : n = if d.negative then -(n.natAbs : ℤ) else n.natAbs) :
    |d.value - n| = |(d.numerator : ℚ) / d.denominator - n.natAbs| := by
  rw [value, magnitude_eq]
  generalize n.natAbs = magnitude at h
  subst h
  cases d.negative with
  | false => simp
  | true =>
    rw [if_pos rfl, if_pos rfl, ← abs_neg]
    push_cast
    ring_nf

/-! ## Rounding -/

theorem lt_pow_decimalLength (n : ℕ) : n < 10 ^ decimalLength n :=
  (Nat.length_toDigits_le_iff (by decide) Nat.length_toDigits_pos).1 le_rfl

/-- A decimal of a small length is less than half of the smallest positive double. -/
theorem abs_value_of_length_lt (h : decimalLength d.coefficient + d.exponent < -400) :
    |d.value| * (2 * Double.unitsPerOne) ≤ 1 := by
  obtain ⟨length, hlength⟩ : ∃ length : ℕ, length = 400 := ⟨_, rfl⟩
  have hcoefficient : (d.coefficient : ℚ) ≤ 10 ^ decimalLength d.coefficient := by
    exact_mod_cast Nat.le_of_lt (lt_pow_decimalLength d.coefficient)
  have hvalue : |d.value| ≤ (10 : ℚ) ^ (-length : ℤ) := by
    calc
      |d.value| = d.coefficient * 10 ^ d.exponent := abs_value_eq d
      _ ≤ 10 ^ decimalLength d.coefficient * 10 ^ d.exponent :=
        mul_le_mul_of_nonneg_right hcoefficient (by positivity)
      _ = 10 ^ (decimalLength d.coefficient + d.exponent) := by
        rw [zpow_add₀ (by norm_num), zpow_natCast]
      _ ≤ 10 ^ (-length : ℤ) := zpow_le_zpow_right₀ (by norm_num) (by omega)
  -- The units stay a variable: their number is a power of two too large to compute with.
  have hunits := Double.two_mul_unitsPerOne_le (Nat.le_of_eq hlength.symm)
  generalize Double.unitsPerOne = units at hunits ⊢
  calc
    |d.value| * (2 * units) ≤ 10 ^ (-length : ℤ) * 10 ^ length :=
      mul_le_mul hvalue (by exact_mod_cast hunits) (by positivity) (by positivity)
    _ = 1 := by
      rw [zpow_neg, zpow_natCast]
      exact inv_mul_cancel₀ (by positivity)

/-- The double of a decimal is the whole number to which rounding turns the decimal. -/
theorem roundsTo_of_exactInt? (h : d.toDouble.exactInt? = some n) : d.RoundsTo n := by
  have hpos : (0 : ℚ) < d.denominator := by
    exact_mod_cast d.denominator_pos
  rcases d.toDouble_cases with hratio | ⟨hinfinite, -⟩ | ⟨hzero, hsmall⟩
  · rw [hratio] at h
    obtain ⟨hsign, hne, heq⟩ := Double.of_exactInt?_ofRatio d.denominator_pos h
    by_cases hn : n = 0
    · have hbound : (2 * Double.unitsPerOne * d.numerator : ℚ) ≤ d.denominator := by
        exact_mod_cast heq hn
      refine .inr ⟨hn, ?_⟩
      rw [abs_value_eq, magnitude_eq, div_mul_eq_mul_div, div_le_one hpos, mul_comm]
      exact hbound
    · obtain ⟨hupper, hlower⟩ := hne hn
      have hupper' : (2 ^ 53 * d.numerator : ℚ) ≤
          2 ^ 53 * (d.denominator * n.natAbs) + d.denominator * n.natAbs := by
        exact_mod_cast hupper
      have hlower' : (2 ^ 53 * (d.denominator * n.natAbs) : ℚ) ≤
          2 ^ 53 * d.numerator + d.denominator * n.natAbs := by
        exact_mod_cast hlower
      have hdifference : (d.numerator : ℚ) / d.denominator - n.natAbs =
          (d.numerator - d.denominator * n.natAbs) / d.denominator := by
        field_simp
      left
      rw [abs_value_sub hsign, hdifference, abs_div, abs_of_pos hpos, div_mul_eq_mul_div,
        div_le_iff₀ hpos, ← Int.cast_abs, Int.abs_eq_natAbs, Int.cast_natCast]
      calc
        |(d.numerator : ℚ) - d.denominator * n.natAbs| * 2 ^ 53 =
            |((d.numerator : ℚ) - d.denominator * n.natAbs) * 2 ^ 53| := by
          rw [abs_mul, abs_of_pos (by positivity : (0 : ℚ) < 2 ^ 53)]
        _ ≤ n.natAbs * d.denominator := abs_le.2 ⟨by linarith, by linarith⟩
  · rw [hinfinite, Double.exactInt?_of_not_isFinite rfl] at h
    cases h
  · obtain ⟨hunits, -⟩ := Double.units_of_exactInt? h
    have hmagnitude : 0 = n.natAbs * Double.unitsPerOne := by
      rw [← hunits, hzero]
      rfl
    obtain rfl : n = 0 := by
      rcases Nat.mul_eq_zero.1 hmagnitude.symm with hn | hone
      · exact Int.natAbs_eq_zero.1 hn
      · exact absurd hone (Nat.ne_of_gt Double.unitsPerOne_pos)
    rcases hsmall with hcoefficient | hlength
    · apply roundsTo_of_eq
      rw [value, hcoefficient, Nat.cast_zero, zero_mul, mul_zero, Int.cast_zero]
    · exact .inr ⟨rfl, abs_value_of_length_lt hlength⟩

theorem value_eq (d : Decimal) :
    d.value = Double.sign d.negative * (d.numerator / d.denominator) := by
  rw [value, magnitude_eq]
  cases d.negative <;> simp [Double.sign]

/-- The double of a decimal is the nearest one. -/
theorem isNearest_toDouble (h : d.toDouble.isFinite = true) : d.toDouble.IsNearest d.value := by
  rcases d.toDouble_cases with hratio | ⟨hinfinite, -⟩ | ⟨hzero, hsmall⟩
  · rw [hratio] at h ⊢
    rw [value_eq]
    exact Double.isNearest_ofRatio d.denominator_pos h
  · rw [hinfinite] at h
    cases h
  · rw [hzero]
    refine Double.isNearest_of_significand_eq_zero rfl rfl ?_
    rcases hsmall with hcoefficient | hlength
    · rw [abs_value_eq, hcoefficient, Nat.cast_zero, zero_mul, zero_mul]
      exact zero_le_one
    · exact abs_value_of_length_lt hlength

/-- A decimal with no more than the digits of a 64-bit integer has a finite double. -/
theorem isFinite_toDouble (hexponent : d.exponent = 0) (h : d.coefficient ≤ 2 ^ 64) :
    d.toDouble.isFinite = true := by
  rcases d.toDouble_cases with hratio | ⟨-, hlarge⟩ | ⟨hzero, -⟩
  · rw [hratio, numerator, denominator, hexponent]
    simpa using Double.isFinite_ofRatio_one h
  · have hlength : decimalLength d.coefficient ≤ 20 :=
      (Nat.length_toDigits_le_iff (by decide) (by decide)).2 (lt_of_le_of_lt h (by decide))
    omega
  · rw [hzero]
    rfl

end Decimal

/-! ## Numerals -/

variable {text : List Char} {n : ℤ}

/-- A decimal integer is a decimal numeral of the same value, which has no exponent. -/
theorem Decimal.exists_of_integer? {m : ℤ} (h : Numeral.integer? text = some m) :
    ∃ d, ofChars? text = some d ∧ d.value = m ∧ d.exponent = 0 := by
  unfold Numeral.integer? at h
  unfold ofChars?
  generalize Numeral.takeSign text = signed at h ⊢
  obtain ⟨negative, digits⟩ := signed
  simp only at h ⊢
  split at h
  next hdigits =>
    obtain ⟨hnonempty, hall⟩ := Bool.and_eq_true_iff.1 hdigits
    have hwhole : digits.takeWhile Char.isDigit = digits :=
      List.takeWhile_eq_self_iff.2 (List.all_eq_true.1 hall)
    have hrest : digits.dropWhile Char.isDigit = [] :=
      List.dropWhile_eq_nil_iff.2 (List.all_eq_true.1 hall)
    have hempty : (digits.isEmpty && ([] : List Char).isEmpty) = false := by
      rw [Bool.eq_false_of_not_eq_true' hnonempty, Bool.false_and]
    refine ⟨ofParts negative digits [] 0, ?_, ?_, rfl⟩
    · unfold unsigned?
      simp only [hwhole, hrest, hempty]
      rfl
    · cases h
      cases negative <;> simp [value, ofParts, Numeral.withSign]
  next => cases h

/-- The words for doubles do not denote whole numbers. -/
theorem Double.exactInt?_of_ofWord? {negative : Bool} {x : Double}
    (h : ofWord? negative text = some x) : x.exactInt? = none := by
  unfold ofWord? at h
  split at h
  all_goals cases h
  all_goals exact exactInt?_of_not_isFinite rfl

/-- A text whose double is read as a whole number is a decimal numeral, rounded to that number. -/
theorem Decimal.exists_of_exactInt? {x : Double} (hx : Double.ofChars? text = some x)
    (h : x.exactInt? = some n) : ∃ d, ofChars? text = some d ∧ d.RoundsTo n := by
  unfold Double.ofChars? at hx
  unfold ofChars?
  generalize Numeral.takeSign text = signed at hx ⊢
  obtain ⟨negative, rest⟩ := signed
  simp only at hx ⊢
  rcases Option.or_eq_some_iff.1 hx with hword | ⟨-, hnumeral⟩
  · rw [Double.exactInt?_of_ofWord? hword] at h
    cases h
  · obtain ⟨d, hd, rfl⟩ := Option.map_eq_some_iff.1 hnumeral
    exact ⟨d, hd, roundsTo_of_exactInt? h⟩

/-- No decimal numeral is a word for a double. -/
theorem Decimal.ofWord?_eq_none {d : Decimal} {negative : Bool}
    (h : unsigned? negative text = some d) : Double.ofWord? negative text = none := by
  cases text with
  | nil => cases h
  | cons c text =>
    have hletter {first : Char} (hc : c.toLower = first)
        (hfirst : unsigned? negative (first :: text) = none)
        (hupper : unsigned? negative (first.toUpper :: text) = none) : False := by
      rcases Numeral.eq_or_eq_toUpper_of_toLower_eq hc with rfl | rfl
      · cases h.symm.trans hfirst
      · cases h.symm.trans hupper
    exact Double.ofWord?_eq_none (fun hi ↦ hletter hi rfl rfl) fun hn ↦ hletter hn rfl rfl

/-- A decimal numeral is read as its double. -/
theorem Double.ofChars?_of_decimal {d : Decimal} (h : Decimal.ofChars? text = some d) :
    ofChars? text = some d.toDouble := by
  unfold Decimal.ofChars? at h
  unfold ofChars?
  generalize Numeral.takeSign text = signed at h ⊢
  obtain ⟨negative, rest⟩ := signed
  simp only at h ⊢
  rw [Decimal.ofWord?_eq_none h, h]
  rfl

/-- A text that is no double is no decimal numeral. -/
theorem Decimal.ofChars?_eq_none (h : Double.ofChars? text = none) : ofChars? text = none := by
  cases hd : ofChars? text with
  | none => rfl
  | some d => cases h.symm.trans (Double.ofChars?_of_decimal hd)

/-- A decimal integer of 64 bits is read as the double nearest to it. -/
theorem Decimal.exists_isNearest_of_integer? (h : Numeral.integer? text = some n)
    (hn : n.natAbs ≤ 2 ^ 64) : ∃ x, Double.ofChars? text = some x ∧ x.IsNearest n := by
  obtain ⟨d, hd, hvalue, hexponent⟩ := exists_of_integer? h
  have hcoefficient : d.coefficient = n.natAbs := by
    have habs := abs_value_eq d
    rw [hvalue, hexponent, zpow_zero, mul_one, ← Int.cast_abs, Int.abs_eq_natAbs,
      Int.cast_natCast] at habs
    exact_mod_cast habs.symm
  refine ⟨d.toDouble, Double.ofChars?_of_decimal hd, ?_⟩
  rw [← hvalue]
  exact isNearest_toDouble (isFinite_toDouble hexponent (hcoefficient ▸ hn))

end TwoWaySchema
