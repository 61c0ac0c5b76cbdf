import TwoWaySchema.Proofs.Decimal
import TwoWaySchema.Proofs.Numeral
import TwoWaySchema.Schema

/-!
# Coercing text to numbers

A schema of whole numbers that coerces reads decimal numerals and hexadecimal ones.  Whether a
decimal numeral is whole is asked of its double, so one with a fraction can be read as the whole
number to which it is rounded; one that is a whole number is read as itself.  Every 64-bit integer
is read from all of its numerals, but for the least one in hexadecimal digits.  A schema of doubles
reads the same texts, as the doubles nearest to the whole numbers.
-/

namespace TwoWaySchema

namespace Coercion

variable {m : ℤ} {n : Int64} {text : String}

theorem toInt_ofInt (h : m.natAbs < 2 ^ 63) : (Int64.ofInt m).toInt = m :=
  Int64.toInt_ofInt_of_le (by omega) (by omega)

theorem toInt_of_int64? (h : int64? m = some n) : n.toInt = m := by
  unfold int64? at h
  split at h
  next hrange =>
    cases h
    exact Int64.toInt_ofInt_of_le hrange.1 hrange.2
  next => cases h

theorem natAbs_lt_of_hexInt64? {digits : List Char} (h : hexInt64? digits = some m) :
    m.natAbs < 2 ^ 63 :=
  of_decide_eq_true (Option.filter_eq_some_iff.1 h).2

/-- The three ways in which a text is read as a whole number. -/
theorem textToInt64?_cases (h : textToInt64? text = some n) :
    Numeral.integer? (Text.trim text.toList) = some n.toInt ∨
      (∃ x, Double.ofChars? (Text.trim text.toList) = some x ∧ x.exactInt? = some n.toInt) ∨
      Double.ofChars? (Text.trim text.toList) = none ∧
        hexInt64? (Text.trim text.toList) = some n.toInt := by
  unfold textToInt64? at h
  simp only at h
  split at h
  next i hinteger =>
    cases h
    obtain ⟨m, hm, hi⟩ := Option.bind_eq_some_iff.1 hinteger
    left
    rwa [toInt_of_int64? hi]
  next =>
    right
    split at h
    next x hx =>
      obtain ⟨m, hm, rfl⟩ := Option.map_eq_some_iff.1 h
      have hsmall : m.natAbs < 2 ^ 53 := Double.natAbs_lt_of_exactInt? hm
      left
      rw [toInt_ofInt (by omega)]
      exact ⟨x, hx, hm⟩
    next hx =>
      obtain ⟨m, hm, rfl⟩ := Option.map_eq_some_iff.1 h
      right
      rw [toInt_ofInt (natAbs_lt_of_hexInt64? hm)]
      exact ⟨hx, hm⟩

/-! ## Numerals -/

theorem int64?_toInt (n : Int64) : int64? n.toInt = some n := by
  have hlower := n.le_toInt
  have hupper := n.toInt_lt
  rw [int64?, if_pos ⟨by omega, by omega⟩, Int64.ofInt_toInt]

/-- The magnitude of the least 64-bit integer is the only one that is none itself. -/
theorem natAbs_toInt_lt_iff (n : Int64) :
    n.toInt.natAbs < 9223372036854775808 ↔ n ≠ Int64.minValue := by
  have hlower := n.le_toInt
  have hupper := n.toInt_lt
  have hmin : Int64.minValue.toInt = -9223372036854775808 := by decide
  rw [Ne, ← Int64.toInt_inj, hmin]
  omega

theorem textToInt64?_of_isDecimal (h : Numeral.IsDecimal n.toInt (Text.trim text.toList)) :
    textToInt64? text = some n := by
  simp only [textToInt64?, h.integer?_eq, Option.bind_some, int64?_toInt]

theorem textToInt64?_of_isHexadecimal
    (h : Numeral.IsHexadecimal n.toInt (Text.trim text.toList)) :
    textToInt64? text = if n = Int64.minValue then none else some n := by
  have hread : textToInt64? text = (hexInt64? (Text.trim text.toList)).map Int64.ofInt := by
    simp only [textToInt64?, h.integer?_eq_none, h.ofChars?_eq_none, Option.bind_none]
  rw [hread, hexInt64?, h.hexInteger?_eq]
  by_cases hmin : n = Int64.minValue
  · subst hmin
    rfl
  · have hsmall : n.toInt.natAbs < 9223372036854775808 := (natAbs_toInt_lt_iff n).2 hmin
    rw [Option.filter_some, if_pos (decide_eq_true hsmall), if_neg hmin, Option.map_some,
      Int64.ofInt_toInt]

/-! ## Doubles -/

section Doubles

variable {x : Double}

/-- The two ways in which a text is read as a double. -/
theorem textToDouble?_eq_some_iff : textToDouble? text = some x ↔
    (Double.ofChars? (Text.trim text.toList) = some x ∧ x.isFinite = true) ∨
      Double.ofChars? (Text.trim text.toList) = none ∧
        ∃ m, hexInt64? (Text.trim text.toList) = some m ∧ Double.ofInt m = x := by
  unfold textToDouble?
  simp only
  cases Double.ofChars? (Text.trim text.toList) with
  | none => simp
  | some y =>
    simp only [Option.ite_none_right_eq_some, Option.some_inj, reduceCtorEq, false_and, or_false]
    rw [and_comm]
    exact and_congr_right fun h ↦ by rw [h]

/-- A text that is read as a whole number is read as the double nearest to it. -/
theorem exists_textToDouble? (h : textToInt64? text = some n) :
    ∃ x, textToDouble? text = some x ∧ x.IsNearest n.toInt := by
  have hsize : n.toInt.natAbs ≤ 2 ^ 64 := by
    have hlower := n.le_toInt
    have hupper := n.toInt_lt
    omega
  simp only [textToDouble?_eq_some_iff]
  rcases textToInt64?_cases h with hinteger | ⟨x, hx, hexact⟩ | ⟨hdouble, hhex⟩
  · obtain ⟨x, hx, hnearest⟩ := Decimal.exists_isNearest_of_integer? hinteger hsize
    exact ⟨x, .inl ⟨hx, hnearest.isFinite⟩, hnearest⟩
  · obtain ⟨hfinite, hvalue⟩ := Double.value_of_exactInt? hexact
    exact ⟨x, .inl ⟨hx, hfinite⟩, hvalue ▸ Double.isNearest_value hfinite⟩
  · exact ⟨_, .inr ⟨hdouble, _, hhex, rfl⟩, Double.isNearest_ofInt hsize⟩

/-- A text whose double is a whole number below `2 ^ 53` is read as that number. -/
theorem exists_textToInt64? (h : textToDouble? text = some x) (hvalue : x.value = m)
    (hm : m.natAbs < 2 ^ 53) : ∃ n, textToInt64? text = some n ∧ n.toInt = m := by
  have hread : ∃ n, textToInt64? text = some n := by
    unfold textToInt64?
    simp only
    split
    next n hn => exact ⟨n, rfl⟩
    next =>
      rcases textToDouble?_eq_some_iff.1 h with ⟨hx, hfinite⟩ | ⟨hdouble, i, hhex, -⟩
      · have hexact := Double.exactInt?_of_signedUnits hfinite (Double.value_eq_iff.1 hvalue) hm
        exact ⟨.ofInt m, by simp only [hx, hexact, Option.map_some]⟩
      · exact ⟨.ofInt i, by simp only [hdouble, hhex, Option.map_some]⟩
  -- Whatever reader took the text, its double is the nearest one to the whole number.
  obtain ⟨n, hn⟩ := hread
  obtain ⟨y, hy, hnearest⟩ := exists_textToDouble? hn
  obtain rfl := Option.some.inj (h.symm.trans hy)
  exact ⟨n, hn, hnearest.eq_of_natAbs_lt hvalue hm⟩

end Doubles

end Coercion

namespace Schema

variable {σ : Type} {n : Int64} {text : String}

theorem parse_coerce_integer :
    (integer : Schema σ Int64).coerce.parse (.string text) = .ok n ↔
      Coercion.textToInt64? text = some n := by
  change Leaf.readInteger true (some (.string text)) = .ok n ↔ _
  simp only [Leaf.readInteger, requirePresent, bind, Except.bind]
  split
  next i hi => rw [hi, Option.some_inj, Except.ok.injEq]
  next hi => simp [hi]

/-- A text that is read as a whole number is a decimal numeral that rounding takes to the number,
and that equals it exactly if it is whole; or it is no decimal numeral and is the number in
hexadecimal digits. -/
theorem of_parse_coerce_integer
    (h : (integer : Schema σ Int64).coerce.parse (.string text) = .ok n) :
    (∃ d, Decimal.ofChars? (Text.trim text.toList) = some d ∧ d.RoundsTo n.toInt ∧
        (d.value = n.toInt ↔ ∃ m : ℤ, d.value = m)) ∨
      Decimal.ofChars? (Text.trim text.toList) = none ∧
        Numeral.hexInteger? (Text.trim text.toList) = some n.toInt := by
  rcases Coercion.textToInt64?_cases (parse_coerce_integer.1 h) with
    hinteger | ⟨x, hx, hexact⟩ | ⟨hdouble, hhex⟩
  · obtain ⟨d, hd, hvalue, -⟩ := Decimal.exists_of_integer? hinteger
    exact .inl ⟨d, hd, Decimal.roundsTo_of_eq hvalue, iff_of_true hvalue ⟨_, hvalue⟩⟩
  · obtain ⟨d, hd, hrounds⟩ := Decimal.exists_of_exactInt? hx hexact
    have hsmall : n.toInt.natAbs < 2 ^ 53 := Double.natAbs_lt_of_exactInt? hexact
    exact .inl ⟨d, hd, hrounds, Decimal.eq_iff_exists_int (hrounds.abs_sub_lt_one hsmall)⟩
  · exact .inr ⟨Decimal.ofChars?_eq_none hdouble, (Option.filter_eq_some_iff.1 hhex).1⟩

/-- A half below a large whole number is rounded to it. -/
theorem coerce_integer_reads_half :
    (integer : Schema Unit Int64).coerce.parse (.string "4503599627370497.5") =
        .ok 4503599627370498 ∧
      ∃ d, Decimal.ofChars? (Text.trim "4503599627370497.5".toList) = some d ∧
        ¬∃ m : ℤ, d.value = m := by
  refine ⟨parse_coerce_integer.2 (by decide +kernel), ⟨false, 45035996273704975, -1⟩, by decide, ?_⟩
  rintro ⟨m, hm⟩
  have hmul : (45035996273704975 : ℚ) = 10 * m := by
    rw [← hm]
    norm_num [Decimal.value]
  have hint : (45035996273704975 : ℤ) = 10 * m := by exact_mod_cast hmul
  omega

theorem coerce_integer_reads_exponent :
    (integer : Schema Unit Int64).coerce.parse (.string " -2E2 ") = .ok (-200) ∧
      ((∃ d, Decimal.ofChars? (Text.trim " -2E2 ".toList) = some d ∧
          d.RoundsTo (-200 : Int64).toInt ∧
          (d.value = (-200 : Int64).toInt ↔ ∃ m : ℤ, d.value = m)) ∨
        Decimal.ofChars? (Text.trim " -2E2 ".toList) = none ∧
          Numeral.hexInteger? (Text.trim " -2E2 ".toList) = some (-200 : Int64).toInt) := by
  have hread : (integer : Schema Unit Int64).coerce.parse (.string " -2E2 ") = .ok (-200) :=
    parse_coerce_integer.2 (by decide +kernel)
  exact ⟨hread, of_parse_coerce_integer hread⟩

/-- Every 64-bit integer is read from each of its numerals, decimal or hexadecimal, with any blanks
around it.  But for the least of them: it is read from its decimal numerals only. -/
theorem parse_coerce_integer_numeral {before numeral after : List Char}
    (hbefore : ∀ c ∈ before, Text.isBlank c = true)
    (hafter : ∀ c ∈ after, Text.isBlank c = true) :
    (Numeral.IsDecimal n.toInt numeral →
      (integer : Schema σ Int64).coerce.parse
        (.string (String.ofList (before ++ numeral ++ after))) = .ok n) ∧
    (Numeral.IsHexadecimal n.toInt numeral →
      ((integer : Schema σ Int64).coerce.parse
        (.string (String.ofList (before ++ numeral ++ after))) = .ok n ↔ n ≠ Int64.minValue)) := by
  have htrim (hnumeral : ∀ c ∈ numeral, Text.isBlank c = false) :
      Text.trim (String.ofList (before ++ numeral ++ after)).toList = numeral := by
    rw [String.toList_ofList]
    exact Text.trim_append hbefore hnumeral hafter
  rw [parse_coerce_integer]
  constructor
  · intro h
    rw [← htrim h.isBlank_eq_false] at h
    exact Coercion.textToInt64?_of_isDecimal h
  · intro h
    rw [← htrim h.isBlank_eq_false] at h
    rw [Coercion.textToInt64?_of_isHexadecimal h]
    split <;> simp_all

/-- The magnitude of the least 64-bit integer is too large to be read before the sign is put to it,
though the same number is read in decimal digits. -/
theorem coerce_integer_misses_least :
    Numeral.IsHexadecimal Int64.minValue.toInt "-0x8000000000000000".toList ∧
      (∀ n, (integer : Schema Unit Int64).coerce.parse (.string "-0x8000000000000000") ≠ .ok n) ∧
      (integer : Schema Unit Int64).coerce.parse (.string "-9223372036854775808") =
        .ok Int64.minValue := by
  have hleast : Numeral.IsHexadecimal Int64.minValue.toInt "-0x8000000000000000".toList :=
    .minus (n := 9223372036854775808) (.inl rfl) ⟨0, by decide⟩
  refine ⟨hleast, fun n hn ↦ ?_, parse_coerce_integer.2 (by decide +kernel)⟩
  rw [parse_coerce_integer, Coercion.textToInt64?_of_isHexadecimal hleast] at hn
  cases hn

theorem coerce_integer_reads_padded :
    (integer : Schema Unit Int64).coerce.parse (.string " +007\n") = .ok 7 ∧
      (integer : Schema Unit Int64).coerce.parse (.string "\t-0X00fF") = .ok (-255) := by
  have hdecimal : Numeral.IsDecimal (7 : Int64).toInt "+007".toList :=
    .plus (n := 7) ⟨2, by decide⟩
  have hhexadecimal : Numeral.IsHexadecimal (-255 : Int64).toInt "-0X00fF".toList :=
    .minus (n := 255) (.inr rfl) ⟨2, by decide⟩
  constructor
  · have hblank : ∀ c ∈ [' '], Text.isBlank c = true := List.forall_mem_singleton.2 rfl
    have hbreak : ∀ c ∈ ['\n'], Text.isBlank c = true := List.forall_mem_singleton.2 rfl
    exact (parse_coerce_integer_numeral hblank hbreak).1 hdecimal
  · have htab : ∀ c ∈ ['\t'], Text.isBlank c = true := List.forall_mem_singleton.2 rfl
    exact ((parse_coerce_integer_numeral htab (List.forall_mem_nil _)).2 hhexadecimal).2 (by decide)

/-! ## Whole numbers and doubles -/

theorem parse_coerce_number {x : Double} :
    (number : Schema σ Double).coerce.parse (.string text) = .ok x ↔
      Coercion.textToDouble? text = some x := by
  change Leaf.readNumber true (some (.string text)) = .ok x ↔ _
  simp only [Leaf.readNumber, requirePresent, bind, Except.bind]
  split
  next i hi => rw [hi, Option.some_inj, Except.ok.injEq]
  next hi => simp [hi]

/-- Texts are read alike as whole numbers and as doubles.  A text of a whole number is read as the
double nearest to it, and where the double of a text is a whole number below `2 ^ 53`, the text is
read as the same whole number. -/
theorem parse_coerce_integer_number (text : String) :
    (∀ n, (integer : Schema σ Int64).coerce.parse (.string text) = .ok n →
      ∃ x, (number : Schema σ Double).coerce.parse (.string text) = .ok x ∧
        x.IsNearest n.toInt) ∧
    ∀ x, (number : Schema σ Double).coerce.parse (.string text) = .ok x →
      ∀ m : ℤ, x.value = m → |m| < 2 ^ 53 →
        ∃ n, (integer : Schema σ Int64).coerce.parse (.string text) = .ok n ∧ n.toInt = m := by
  simp only [parse_coerce_integer, parse_coerce_number]
  refine ⟨fun n hn ↦ Coercion.exists_textToDouble? hn, fun x hx m hvalue hm ↦ ?_⟩
  rw [Int.abs_eq_natAbs] at hm
  exact Coercion.exists_textToInt64? hx hvalue (by exact_mod_cast hm)

/-- Between two doubles the one with the even significand is read. -/
theorem coerce_number_reads_tie :
    (number : Schema Unit Double).coerce.parse (.string "9007199254740993") =
        .ok 9007199254740992 ∧
      (9007199254740992 : Double).IsNearest (9007199254740993 : Int64).toInt ∧
      ∃ n, (integer : Schema Unit Int64).coerce.parse (.string " 0x10 ") = .ok n ∧
        n.toInt = 16 := by
  have hdouble : (number : Schema Unit Double).coerce.parse (.string "9007199254740993") =
      .ok 9007199254740992 := parse_coerce_number.2 (by decide +kernel)
  have hinteger : (integer : Schema Unit Int64).coerce.parse (.string "9007199254740993") =
      .ok 9007199254740993 := parse_coerce_integer.2 (by decide +kernel)
  have hexadecimal : (number : Schema Unit Double).coerce.parse (.string " 0x10 ") =
      .ok (.ofInt 16) := parse_coerce_number.2 (by decide +kernel)
  have hvalue : (Double.ofInt 16).value = (16 : ℤ) :=
    Double.value_eq_iff.2 (Double.signedUnits_ofInt (by decide))
  obtain ⟨x, hx, hnearest⟩ := (parse_coerce_integer_number "9007199254740993").1 _ hinteger
  obtain rfl := Except.ok.inj (hdouble.symm.trans hx)
  exact ⟨hdouble, hnearest,
    (parse_coerce_integer_number " 0x10 ").2 _ hexadecimal 16 hvalue (by decide)⟩

end Schema

end TwoWaySchema
