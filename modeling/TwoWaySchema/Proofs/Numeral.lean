import Mathlib.Data.List.Basic
import Mathlib.Data.List.TakeWhile
import Mathlib.Tactic.IntervalCases
import TwoWaySchema.Numeral
import TwoWaySchema.Text.Blank

/-!
# Numerals of whole numbers

The texts that write a whole number, in decimal and in hexadecimal digits, and what the readers
make of them.  A hexadecimal numeral is marked, so no reader of decimal numerals takes it; the
readers of decimal and of hexadecimal integers read every number from all of its numerals.
-/

namespace TwoWaySchema

namespace Numeral

/-- The digits of a number in a base with any zeros before them, the letters in either case. -/
def IsDigits (base n : ℕ) (digits : List Char) : Prop :=
  ∃ zeros, digits.map Char.toLower = List.replicate zeros '0' ++ Nat.toDigits base n

/-- The decimal numerals of a whole number. -/
inductive IsDecimal : ℤ → List Char → Prop where
  | plain {n : ℕ} {digits : List Char} (h : IsDigits 10 n digits) : IsDecimal n digits
  | plus {n : ℕ} {digits : List Char} (h : IsDigits 10 n digits) : IsDecimal n ('+' :: digits)
  | minus {n : ℕ} {digits : List Char} (h : IsDigits 10 n digits) : IsDecimal (-n) ('-' :: digits)

def IsHexMark (mark : Char) : Prop :=
  mark = 'x' ∨ mark = 'X'

/-- The hexadecimal numerals of a whole number. -/
inductive IsHexadecimal : ℤ → List Char → Prop where
  | plain {n : ℕ} {mark : Char} {digits : List Char} (hmark : IsHexMark mark)
      (h : IsDigits 16 n digits) : IsHexadecimal n ('0' :: mark :: digits)
  | minus {n : ℕ} {mark : Char} {digits : List Char} (hmark : IsHexMark mark)
      (h : IsDigits 16 n digits) : IsHexadecimal (-n) ('-' :: '0' :: mark :: digits)

/-! ## Letters in either case -/

section Digits

variable {base n d : ℕ} {c : Char} {digits : List Char}

theorem eq_or_eq_toUpper_of_toLower_eq {x : Char} (h : c.toLower = x) : c = x ∨ c = x.toUpper := by
  subst h
  by_cases hupper : c.val ≥ 'A'.val ∧ c.val ≤ 'Z'.val
  · have hlower : c.toLower.val = c.val + 32 := by
      delta Char.toLower
      rw [dif_pos hupper]
      rfl
    have hrange : c.toLower.val ≥ 'a'.val ∧ c.toLower.val ≤ 'z'.val := by
      rw [hlower]
      grind
    have hback : c.toLower.toUpper.val = c.toLower.val + ('A'.val - 'a'.val) := by
      delta Char.toUpper
      rw [dif_pos hrange]
    right
    apply Char.ext
    rw [hback, hlower, UInt32.add_assoc]
    exact (UInt32.add_zero _).symm
  · left
    delta Char.toLower
    rw [dif_neg hupper]

/-- A digit is a digit with the same value when it is a letter of the other case. -/
theorem digitValue_of_toLower_eq (hd : d < 16) (h : c.toLower = d.digitChar) :
    isHexDigit c = true ∧ digitValue c = d ∧ (d < 10 → c.isDigit = true) := by
  rcases eq_or_eq_toUpper_of_toLower_eq h with rfl | rfl
  · interval_cases d <;> decide
  · interval_cases d <;> decide

theorem digitValue_toLower (hd : d < 16) (h : c.toLower = d.digitChar) :
    digitValue c.toLower = digitValue c := by
  rw [(digitValue_of_toLower_eq hd h).2.1, h]
  interval_cases d <;> decide

/-! ## Values of digits -/

theorem digitValue_of_isDigit (h : c.isDigit = true) :
    digitValue c = c.toNat - '0'.toNat :=
  if_pos h

theorem digitValue_lt (h : c.isDigit = true) : digitValue c < 10 := by
  have hnine : c.toNat ≤ '9'.toNat := (Char.isDigit_iff_toNat.1 h).2
  rw [digitValue_of_isDigit h]
  exact Nat.lt_succ_of_le (Nat.sub_le_sub_right hnine _)

theorem natOfDigits_eq_ofDigitChars (h : ∀ c ∈ digits, c.isDigit = true) :
    natOfDigits 10 digits = Nat.ofDigitChars 10 digits 0 :=
  List.foldl_ext _ _ _ fun n c hc ↦ by rw [digitValue_of_isDigit (h c hc)]

theorem natOfDigits_lt (h : ∀ c ∈ digits, c.isDigit = true) :
    natOfDigits 10 digits < 10 ^ digits.length := by
  rw [natOfDigits_eq_ofDigitChars h]
  induction digits with
  | nil => exact Nat.zero_lt_one
  | cons c digits ih =>
    obtain ⟨hc, hdigits⟩ := List.forall_mem_cons.1 h
    have hvalue : c.toNat - '0'.toNat ≤ 9 := by
      rw [← digitValue_of_isDigit hc]
      exact Nat.le_of_lt_succ (digitValue_lt hc)
    calc
      Nat.ofDigitChars 10 (c :: digits) 0 =
          10 ^ digits.length * (c.toNat - '0'.toNat) + Nat.ofDigitChars 10 digits 0 := by
        rw [Nat.ofDigitChars_cons, Nat.ofDigitChars_eq_ofDigitChars_zero, Nat.mul_zero,
          Nat.zero_add]
      _ < 10 ^ digits.length * 9 + 10 ^ digits.length :=
        Nat.add_lt_add_of_le_of_lt (Nat.mul_le_mul_left _ hvalue) (ih hdigits)
      _ = 10 ^ (c :: digits).length := by
        rw [List.length_cons, Nat.pow_succ]
        omega

theorem natOfDigits_append_singleton :
    natOfDigits base (digits ++ [c]) = base * natOfDigits base digits + digitValue c := by
  rw [natOfDigits, List.foldl_append]
  rfl

theorem natOfDigits_replicate_append (zeros : ℕ) :
    natOfDigits base (List.replicate zeros '0' ++ digits) = natOfDigits base digits := by
  induction zeros with
  | zero => rfl
  | succ zeros ih =>
    rw [← ih, List.replicate_succ, List.cons_append, natOfDigits, List.foldl_cons]
    rfl

theorem natOfDigits_toDigits (hbase : 1 < base) (hle : base ≤ 16) :
    natOfDigits base (Nat.toDigits base n) = n := by
  have hvalue {d : ℕ} (hd : d < base) : digitValue d.digitChar = d := by
    have hd' : d < 16 := by omega
    interval_cases d <;> decide
  induction n using Nat.strong_induction_on with
  | _ n ih =>
    rw [Nat.toDigits_eq_if hbase]
    split
    next hn =>
      rw [natOfDigits, List.foldl_cons, List.foldl_nil, Nat.mul_zero, Nat.zero_add, hvalue hn]
    next hn =>
      have hlast : n % base < base := Nat.mod_lt _ (by omega)
      rw [natOfDigits_append_singleton, ih _ (Nat.div_lt_self (by omega) hbase), hvalue hlast]
      exact Nat.div_add_mod n base

theorem exists_of_mem_toDigits (hbase : 1 < base) (h : c ∈ Nat.toDigits base n) :
    ∃ d < base, c = d.digitChar := by
  induction n using Nat.strong_induction_on with
  | _ n ih =>
    rw [Nat.toDigits_eq_if hbase] at h
    split at h
    next hn => exact ⟨n, hn, List.mem_singleton.1 h⟩
    next hn =>
      rcases List.mem_append.1 h with hfront | hlast
      · exact ih _ (Nat.div_lt_self (by omega) hbase) hfront
      · exact ⟨n % base, Nat.mod_lt _ (by omega), List.mem_singleton.1 hlast⟩

namespace IsDigits

/-- Each of the digits is one below the base. -/
theorem exists_of_mem (hbase : 1 < base) (h : IsDigits base n digits) (hc : c ∈ digits) :
    ∃ d < base, c.toLower = d.digitChar := by
  obtain ⟨zeros, hzeros⟩ := h
  have hmem : c.toLower ∈ List.replicate zeros '0' ++ Nat.toDigits base n := by
    rw [← hzeros]
    exact List.mem_map_of_mem hc
  rcases List.mem_append.1 hmem with hzero | hdigit
  · exact ⟨0, by omega, List.eq_of_mem_replicate hzero⟩
  · exact exists_of_mem_toDigits hbase hdigit

theorem all_isDigit (h : IsDigits 10 n digits) : digits.all Char.isDigit = true := by
  refine List.all_eq_true.2 fun c hc ↦ ?_
  obtain ⟨d, hd, hlower⟩ := h.exists_of_mem (by decide) hc
  exact (digitValue_of_toLower_eq (by omega) hlower).2.2 hd

theorem all_isHexDigit (h : IsDigits 16 n digits) : digits.all isHexDigit = true := by
  refine List.all_eq_true.2 fun c hc ↦ ?_
  obtain ⟨d, hd, hlower⟩ := h.exists_of_mem (by decide) hc
  exact (digitValue_of_toLower_eq hd hlower).1

theorem isEmpty_eq_false (h : IsDigits base n digits) : digits.isEmpty = false := by
  obtain ⟨zeros, hzeros⟩ := h
  cases digits with
  | cons c digits => rfl
  | nil =>
    have hnil : Nat.toDigits base n = [] := (List.append_eq_nil_iff.1 hzeros.symm).2
    exact absurd hnil Nat.toDigits_ne_nil

/-- The number is read from its digits. -/
theorem natOfDigits_eq (hbase : 1 < base) (hle : base ≤ 16) (h : IsDigits base n digits) :
    natOfDigits base digits = n := by
  have hlower : natOfDigits base (digits.map Char.toLower) = natOfDigits base digits := by
    rw [natOfDigits, natOfDigits, List.foldl_map]
    refine List.foldl_ext _ _ _ fun read c hc ↦ ?_
    obtain ⟨d, hd, hdigit⟩ := h.exists_of_mem hbase hc
    rw [digitValue_toLower (by omega) hdigit]
  obtain ⟨zeros, hzeros⟩ := h
  rw [← hlower, hzeros, natOfDigits_replicate_append, natOfDigits_toDigits hbase hle]

end IsDigits

end Digits

end Numeral

/-! ## Readers -/

namespace Double

/-- The words for doubles begin with an `i` or an `n`. -/
theorem ofWord?_eq_none {negative : Bool} {c : Char} {text : List Char}
    (hi : c.toLower ≠ 'i') (hn : c.toLower ≠ 'n') : ofWord? negative (c :: text) = none := by
  unfold ofWord?
  split
  all_goals rename_i h
  · exact absurd (by simpa using congrArg (fun s ↦ s.toList.head?) h) hi
  · exact absurd (by simpa using congrArg (fun s ↦ s.toList.head?) h) hi
  · exact absurd (by simpa using congrArg (fun s ↦ s.toList.head?) h) hn
  · rfl

end Double

namespace Numeral

section Readers

variable {n : ℤ} {digits text : List Char}

/-- What a reader does after the sign: if all characters are digits, it takes their value. -/
theorem IsDigits.read {base n : ℕ} {isDigit : Char → Bool} (hbase : 1 < base) (hle : base ≤ 16)
    (h : IsDigits base n digits) (hall : digits.all isDigit = true) (negative : Bool) :
    (if !digits.isEmpty && digits.all isDigit then
      some (withSign negative (natOfDigits base digits)) else none) =
        some (withSign negative n) := by
  rw [h.isEmpty_eq_false, hall, h.natOfDigits_eq hbase hle]
  rfl

theorem takeSign_of_all_isDigit (h : digits.all Char.isDigit = true) :
    takeSign digits = (false, digits) := by
  unfold takeSign
  split
  · exact absurd h (by simp)
  · exact absurd h (by simp)
  · rfl

theorem IsDecimal.integer?_eq (h : IsDecimal n text) : integer? text = some n := by
  unfold integer?
  cases h with
  | plain h =>
    rw [takeSign_of_all_isDigit h.all_isDigit]
    exact h.read (by decide) (by decide) h.all_isDigit false
  | plus h => exact h.read (by decide) (by decide) h.all_isDigit false
  | minus h => exact h.read (by decide) (by decide) h.all_isDigit true

namespace IsHexadecimal

theorem hexInteger?_eq (h : IsHexadecimal n text) : hexInteger? text = some n := by
  cases h with
  | plain hmark h =>
    rcases hmark with rfl | rfl <;> exact h.read (by decide) (by decide) h.all_isHexDigit false
  | minus hmark h =>
    rcases hmark with rfl | rfl <;> exact h.read (by decide) (by decide) h.all_isHexDigit true

/-- The mark keeps hexadecimal numerals apart from the decimal ones. -/
theorem integer?_eq_none (h : IsHexadecimal n text) : integer? text = none := by
  cases h with
  | plain hmark h => rcases hmark with rfl | rfl <;> rfl
  | minus hmark h => rcases hmark with rfl | rfl <;> rfl

theorem ofChars?_eq_none (h : IsHexadecimal n text) : Double.ofChars? text = none := by
  have hunsigned {negative : Bool} {mark : Char} {digits : List Char} (hmark : IsHexMark mark) :
      Decimal.unsigned? negative ('0' :: mark :: digits) = none := by
    rcases hmark with rfl | rfl <;> rfl
  have hread {negative : Bool} {mark : Char} {digits : List Char} (hmark : IsHexMark mark) :
      (Double.ofWord? negative ('0' :: mark :: digits)).or
        ((Decimal.unsigned? negative ('0' :: mark :: digits)).map Decimal.toDouble) = none := by
    rw [Double.ofWord?_eq_none (by decide) (by decide), hunsigned hmark]
    rfl
  cases h with
  | plain hmark => exact hread hmark
  | minus hmark => exact hread hmark

end IsHexadecimal

end Readers

/-! ## Blanks -/

section Blanks

variable {n : ℤ} {c : Char} {text : List Char}

theorem IsDigits.isBlank_eq_false {base n : ℕ} {digits : List Char} (hbase : 1 < base)
    (hle : base ≤ 16) (h : IsDigits base n digits) (hc : c ∈ digits) : Text.isBlank c = false := by
  obtain ⟨d, hd, hdigit⟩ := h.exists_of_mem hbase hc
  have hd' : d < 16 := by omega
  rcases eq_or_eq_toUpper_of_toLower_eq hdigit with rfl | rfl
  · interval_cases d <;> decide
  · interval_cases d <;> decide

theorem IsDecimal.isBlank_eq_false (h : IsDecimal n text) : ∀ c ∈ text, Text.isBlank c = false := by
  cases h with
  | plain h => exact fun c ↦ h.isBlank_eq_false (by decide) (by decide)
  | plus h | minus h =>
    refine List.forall_mem_cons.2 ⟨by decide, fun c ↦ ?_⟩
    exact h.isBlank_eq_false (by decide) (by decide)

theorem IsHexadecimal.isBlank_eq_false (h : IsHexadecimal n text) :
    ∀ c ∈ text, Text.isBlank c = false := by
  have hmarked {m : ℕ} {mark : Char} {digits : List Char} (hmark : IsHexMark mark)
      (h : IsDigits 16 m digits) : ∀ c ∈ '0' :: mark :: digits, Text.isBlank c = false := by
    refine List.forall_mem_cons.2 ⟨by decide, List.forall_mem_cons.2 ⟨?_, fun c ↦ ?_⟩⟩
    · rcases hmark with rfl | rfl <;> decide
    · exact h.isBlank_eq_false (by decide) (by decide)
  cases h with
  | plain hmark h => exact hmarked hmark h
  | minus hmark h => exact List.forall_mem_cons.2 ⟨by decide, hmarked hmark h⟩

end Blanks

end Numeral

namespace Text

variable {before text after : List Char}

/-- Cutting takes away the blanks around a text that has none itself. -/
theorem trim_append (hbefore : ∀ c ∈ before, isBlank c = true)
    (htext : ∀ c ∈ text, isBlank c = false) (hafter : ∀ c ∈ after, isBlank c = true) :
    trim (before ++ text ++ after) = text := by
  have hkeep {text : List Char} (rest : List Char) (htext : ∀ c ∈ text, isBlank c = false)
      (hne : text ≠ []) : (text ++ rest).dropWhile isBlank = text ++ rest := by
    obtain ⟨c, text, rfl⟩ := List.exists_cons_of_ne_nil hne
    exact List.dropWhile_cons_of_neg (by simp [htext c List.mem_cons_self])
  have hafter' : ∀ c ∈ after.reverse, isBlank c = true := by simpa using hafter
  have htext' : ∀ c ∈ text.reverse, isBlank c = false := by simpa using htext
  rw [trim, List.append_assoc, List.dropWhile_append_of_pos hbefore]
  by_cases hne : text = []
  · rw [hne, List.nil_append, List.dropWhile_eq_nil_iff.2 hafter]
    rfl
  · rw [hkeep after htext hne, List.reverse_append, List.dropWhile_append_of_pos hafter',
      ← List.append_nil text.reverse, hkeep [] htext' (by simpa using hne), List.append_nil,
      List.reverse_reverse]

end Text

end TwoWaySchema
