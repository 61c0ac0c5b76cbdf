import TwoWaySchema.Time.Rfc3339
import TwoWaySchema.Proofs.Numeral
import TwoWaySchema.Proofs.Outcome
import TwoWaySchema.Proofs.Time.Timestamp
import Mathlib.Algebra.Ring.Nat
import Mathlib.Data.List.Basic

/-!
# Reading written timestamps

What the writer writes for a year with four digits, the reader takes, and it gives back the
timestamp to the millisecond.  Each part of the text is read off the front of whatever follows it:
digits, the date, the time, the offset.  The years before 0 and after 9999 begin with a sign, where
the reader wants a digit.
-/

namespace TwoWaySchema

theorem length_toList_le_utf8ByteSize (s : String) : s.toList.length ≤ s.utf8ByteSize := by
  induction s using String.push_induction with
  | empty => exact Nat.le_refl 0
  | push s c ih =>
    have hc := c.utf8Size_pos
    rw [String.toList_push, List.length_append, String.utf8ByteSize_push, List.length_singleton]
    omega

namespace Rfc3339

variable {width n : Nat} {rest : List Char}

/-! ## Digits -/

theorem toList_padded : (padded width n).toList =
    List.replicate (width - (Nat.toDigits 10 n).length) '0' ++ Nat.toDigits 10 n :=
  String.toList_ofList

theorem isDigit_of_mem_padded {c : Char} (h : c ∈ (padded width n).toList) : c.isDigit = true := by
  rw [toList_padded] at h
  rcases List.mem_append.1 h with hzero | hdigit
  · rw [List.eq_of_mem_replicate hzero]
    rfl
  · exact Nat.isDigit_of_mem_toDigits (by decide) (by decide) hdigit

theorem length_padded (hwidth : 0 < width) (h : n < 10 ^ width) :
    (padded width n).toList.length = width := by
  have hle : (Nat.toDigits 10 n).length ≤ width :=
    (Nat.length_toDigits_le_iff (by decide) hwidth).2 h
  rw [toList_padded, List.length_append, List.length_replicate, Nat.sub_add_cancel hle]

theorem le_length_padded (width n : Nat) : width ≤ (padded width n).toList.length := by
  rw [toList_padded, List.length_append, List.length_replicate]
  omega

theorem ofDigitChars_padded : Nat.ofDigitChars 10 (padded width n).toList 0 = n := by
  rw [toList_padded, Nat.ofDigitChars_append, Nat.ofDigitChars_replicate_zero, Nat.mul_zero,
    Nat.ofDigitChars_ten_toDigits]

theorem readDigits_append {digits : List Char} (h : ∀ c ∈ digits, c.isDigit = true) (read : Nat) :
    readDigits digits.length read (digits ++ rest) =
      .ok (Nat.ofDigitChars 10 digits read, rest) := by
  induction digits generalizing read with
  | nil => rfl
  | cons c digits ih =>
    obtain ⟨hc, hdigits⟩ := List.forall_mem_cons.1 h
    rw [List.length_cons, List.cons_append, readDigits, if_pos hc, ih hdigits,
      Nat.ofDigitChars_cons, Numeral.digitValue_of_isDigit hc]

theorem readDigits_padded (hwidth : 0 < width) (h : n < 10 ^ width) :
    readDigits width 0 ((padded width n).toList ++ rest) = .ok (n, rest) := by
  calc
    readDigits width 0 ((padded width n).toList ++ rest) =
        readDigits (padded width n).toList.length 0 ((padded width n).toList ++ rest) := by
      rw [length_padded hwidth h]
    _ = .ok (Nat.ofDigitChars 10 (padded width n).toList 0, rest) :=
      readDigits_append (fun _ hc ↦ isDigit_of_mem_padded hc) 0
    _ = .ok (n, rest) := by rw [ofDigitChars_padded]

/-! ## Parts of the text -/

theorem readMark_cons {isMark : Char → Bool} {c : Char} (h : isMark c = true) :
    readMark isMark (c :: rest) = .ok rest :=
  if_pos h

theorem readDate_written {d : Date} (h : d.IsValid) (hyear : 0 ≤ d.year ∧ d.year ≤ 9999) :
    readDate ((padded 4 d.year.toNat).toList ++ '-' :: ((padded 2 d.month).toList ++
      '-' :: ((padded 2 d.day).toList ++ rest))) = .ok (d, rest) := by
  have hyear' : d.year.toNat < 10 ^ 4 := by omega
  have hcast : (d.year.toNat : Int) = d.year := Int.toNat_of_nonneg hyear.1
  unfold readDate
  rw [readDigits_padded (by decide) hyear']
  simp only [bind, Except.bind]
  rw [readMark_cons rfl]
  simp only
  rw [readDigits_padded (by decide) h.month_lt]
  simp only
  rw [readMark_cons rfl]
  simp only
  rw [readDigits_padded (by decide) h.day_lt]
  simp only
  rw [hcast, if_pos h]

theorem readFraction_written {millis : Nat} (h : millis < 1000) :
    readFraction ('.' :: ((padded 3 millis).toList ++ 'Z' :: rest)) =
      .ok (millis * 1000000, 'Z' :: rest) := by
  have hdigits : ∀ c ∈ (padded 3 millis).toList, c.isDigit = true :=
    fun _ hc ↦ isDigit_of_mem_padded hc
  have hlength : (padded 3 millis).toList.length = 3 := length_padded (by decide) h
  have htake : ((padded 3 millis).toList ++ 'Z' :: rest).takeWhile Char.isDigit =
      (padded 3 millis).toList := by
    rw [List.takeWhile_append_of_pos hdigits]
    exact List.append_nil _
  have hdrop : ((padded 3 millis).toList ++ 'Z' :: rest).dropWhile Char.isDigit = 'Z' :: rest := by
    rw [List.dropWhile_append_of_pos hdigits]
    rfl
  have hnonempty : (padded 3 millis).toList.isEmpty = false := by
    rw [List.isEmpty_eq_false_iff, ← List.length_pos_iff, hlength]
    decide
  have hnanos : nanosOfFraction (padded 3 millis).toList = millis * 1000000 := by
    unfold nanosOfFraction
    simp only
    rw [List.take_of_length_le (by omega), Numeral.natOfDigits_eq_ofDigitChars hdigits,
      ofDigitChars_padded, hlength]
  simp only [readFraction]
  rw [htake, hdrop, hnonempty, hnanos]
  rfl

theorem readTime_written {hour minute second millis : Nat} (hhour : hour < 24)
    (hminute : minute < 60) (hsecond : second ≤ 60) (hmillis : millis < 1000) :
    readTime ((padded 2 hour).toList ++ ':' :: ((padded 2 minute).toList ++
        ':' :: ((padded 2 second).toList ++ '.' :: ((padded 3 millis).toList ++ 'Z' :: rest)))) =
      if second = 60 then
        .ok (hour * 3600 + minute * 60 + 59, millis * 1000000 + 1000000000, 'Z' :: rest)
      else .ok (hour * 3600 + minute * 60 + second, millis * 1000000, 'Z' :: rest) := by
  unfold readTime
  rw [readDigits_padded (by decide) (by omega)]
  simp only [bind, Except.bind]
  rw [readMark_cons rfl]
  simp only
  rw [readDigits_padded (by decide) (by omega)]
  simp only
  rw [readMark_cons rfl]
  simp only
  rw [readDigits_padded (by decide) (by omega)]
  simp only
  rw [readFraction_written hmillis]
  simp only
  split
  next heq => simp [hhour, hminute]
  next hne =>
    have hlt : second < 60 := Nat.lt_of_le_of_ne hsecond hne
    simp [hhour, hminute, hlt]

/-! ## Whole texts -/

variable {t : Timestamp}

theorem text_eq (t : Timestamp) : text t =
    yearText t.date.year ++ "-" ++ padded 2 t.date.month ++ "-" ++ padded 2 t.date.day ++ "T"
      ++ padded 2 (t.secondOfDay / 3600) ++ ":" ++ padded 2 (t.secondOfDay / 60 % 60) ++ ":"
      ++ padded 2 t.shownSecond ++ "." ++ padded 3 t.shownMillis ++ "Z" := by
  unfold text
  by_cases h : t.IsLeap
  · have hlt : ¬ t.nanos < 1000000000 := Nat.not_lt.2 h
    simp only [if_neg hlt, Timestamp.shownSecond, Timestamp.shownMillis, if_pos h,
      Timestamp.secondOfDay, Timestamp.date]
  · have hlt : t.nanos < 1000000000 := Nat.not_le.1 h
    simp only [if_pos hlt, Timestamp.shownSecond, Timestamp.shownMillis, if_neg h,
      Timestamp.secondOfDay, Timestamp.date]

theorem toList_text (hyear : t.HasFourDigitYear) : (text t).toList =
    (padded 4 t.date.year.toNat).toList ++ '-' :: ((padded 2 t.date.month).toList ++
      '-' :: ((padded 2 t.date.day).toList ++ 'T' :: ((padded 2 (t.secondOfDay / 3600)).toList ++
      ':' :: ((padded 2 (t.secondOfDay / 60 % 60)).toList ++
      ':' :: ((padded 2 t.shownSecond).toList ++
      '.' :: ((padded 3 t.shownMillis).toList ++ ['Z'])))))) := by
  have hyearText : yearText t.date.year = padded 4 t.date.year.toNat := by
    unfold yearText
    rw [if_pos (by simpa [Timestamp.HasFourDigitYear] using hyear)]
  rw [text_eq, hyearText]
  simp

theorem leastLength_le_utf8ByteSize_text (hyear : t.HasFourDigitYear) :
    leastLength ≤ (text t).utf8ByteSize := by
  have hyear' := le_length_padded 4 t.date.year.toNat
  have hmonth := le_length_padded 2 t.date.month
  have hday := le_length_padded 2 t.date.day
  have hhour := le_length_padded 2 (t.secondOfDay / 3600)
  have hminute := le_length_padded 2 (t.secondOfDay / 60 % 60)
  have hsecond := le_length_padded 2 t.shownSecond
  calc
    leastLength ≤ (text t).toList.length := by
      rw [toList_text hyear]
      simp only [List.length_append, List.length_cons, leastLength]
      omega
    _ ≤ (text t).utf8ByteSize := length_toList_le_utf8ByteSize _

theorem readTime_shown (hleap : t.IsLeap → t.seconds % 60 = 59) :
    readTime ((padded 2 (t.secondOfDay / 3600)).toList ++
        ':' :: ((padded 2 (t.secondOfDay / 60 % 60)).toList ++
        ':' :: ((padded 2 t.shownSecond).toList ++
        '.' :: ((padded 3 t.shownMillis).toList ++ 'Z' :: rest)))) =
      .ok (t.secondOfDay, t.toMillis.nanos, 'Z' :: rest) := by
  have hday := t.secondOfDay_lt
  have hminute := t.secondOfDay_mod_sixty
  have hsecond : t.shownSecond ≤ 60 := by
    unfold Timestamp.shownSecond
    split <;> omega
  rw [readTime_written (by omega) (Nat.mod_lt _ (by decide)) hsecond t.shownMillis_lt]
  rw [t.nanos_toMillis_eq]
  unfold Timestamp.shownSecond
  by_cases h : t.IsLeap
  · have hlast : t.seconds % 60 = 59 := hleap h
    have hsixty : t.secondOfDay % 60 + 1 = 60 := by omega
    have hseconds :
        t.secondOfDay / 3600 * 3600 + t.secondOfDay / 60 % 60 * 60 + 59 = t.secondOfDay := by omega
    rw [if_pos h, if_pos h, if_pos hsixty, hseconds]
  · have hlt : t.secondOfDay % 60 ≠ 60 := by omega
    have hseconds : t.secondOfDay / 3600 * 3600 + t.secondOfDay / 60 % 60 * 60 +
        t.secondOfDay % 60 = t.secondOfDay := by omega
    rw [if_neg h, if_neg h, if_neg hlt, hseconds, Nat.add_zero]

theorem text_toMillis (t : Timestamp) : text t.toMillis = text t := by
  rw [text_eq, text_eq t, t.shownSecond_toMillis, t.shownMillis_toMillis]
  rfl

/-- The reader takes a text of a year with four digits.  The leap seconds that have a text of their
own are those that end a minute. -/
theorem ofText?_text (hyear : t.HasFourDigitYear)
    (hleap : t.IsLeap → t.seconds % 60 = 59) : ofText? (text t) = .ok t.toMillis := by
  unfold ofText?
  rw [if_neg (Nat.not_lt.2 (leastLength_le_utf8ByteSize_text hyear)), toList_text hyear,
    readDate_written t.date_isValid hyear]
  simp only [bind, Except.bind]
  rw [readMark_cons rfl]
  simp only
  rw [readTime_shown hleap]
  have hoffset : readOffset ['Z'] = .ok (0, []) := rfl
  have hparts : Timestamp.ofParts? ((t.date.dayNumber - Date.epochDay) * Timestamp.secondsPerDay +
      t.secondOfDay) t.toMillis.nanos = some t.toMillis := by
    rw [t.seconds_eq]
    exact t.ofParts?_toMillis
  simp [hoffset, hparts]

/-- The reader takes no text of a year with a sign. -/
theorem ofText?_text_of_year (hyear : ¬ t.HasFourDigitYear) :
    ∃ fault, ofText? (text t) = .error fault := by
  have hsign : ∃ c rest, (text t).toList = c :: rest ∧ c.isDigit = false := by
    have hyearText : yearText t.date.year =
        (if t.date.year < 0 then "-" else "+") ++ padded 4 t.date.year.natAbs := by
      unfold yearText
      rw [if_neg (by simpa [Timestamp.HasFourDigitYear] using hyear)]
    rw [text_eq, hyearText]
    split
    next =>
      simp only [String.toList_append]
      exact ⟨'-', _, rfl, rfl⟩
    next =>
      simp only [String.toList_append]
      exact ⟨'+', _, rfl, rfl⟩
  obtain ⟨c, rest, hlist, hc⟩ := hsign
  have hread : readDate (text t).toList = .error .invalid := by
    rw [hlist, readDate, readDigits, hc]
    rfl
  unfold ofText?
  split
  next => exact ⟨_, rfl⟩
  next =>
    rw [hread]
    exact ⟨_, rfl⟩

/-! ## Leap seconds and the last year -/

theorem nanosOfFraction_lt {digits : List Char} (h : ∀ c ∈ digits, c.isDigit = true) :
    nanosOfFraction digits < 1000000000 := by
  unfold nanosOfFraction
  have hkept : ∀ c ∈ digits.take 9, c.isDigit = true := fun c hc ↦ h c (List.mem_of_mem_take hc)
  have hlength : (digits.take 9).length ≤ 9 := List.length_take_le 9 digits
  calc
    Numeral.natOfDigits 10 (digits.take 9) * 10 ^ (9 - (digits.take 9).length) <
        10 ^ (digits.take 9).length * 10 ^ (9 - (digits.take 9).length) :=
      Nat.mul_lt_mul_of_pos_right (Numeral.natOfDigits_lt hkept) (Nat.pow_pos (by decide))
    _ = 10 ^ 9 := by rw [← Nat.pow_add, Nat.add_sub_cancel' hlength]

theorem readDigits_lt {count read n : Nat} {text : List Char}
    (h : readDigits count read text = .ok (n, rest)) : n < (read + 1) * 10 ^ count := by
  induction count generalizing read text with
  | zero =>
    obtain ⟨rfl, -⟩ := Prod.mk.inj (Except.ok.inj h)
    omega
  | succ count ih =>
    match text, h with
    | c :: text, h =>
      rw [readDigits] at h
      by_cases hc : c.isDigit = true
      · rw [if_pos hc] at h
        have hdigit := Numeral.digitValue_lt hc
        calc
          n < (10 * read + Numeral.digitValue c + 1) * 10 ^ count := ih h
          _ ≤ ((read + 1) * 10) * 10 ^ count := Nat.mul_le_mul_right _ (by omega)
          _ = (read + 1) * 10 ^ (count + 1) := by
            rw [Nat.pow_succ, Nat.mul_assoc, Nat.mul_comm 10]
      · rw [if_neg hc] at h
        cases h

theorem readDate_spec {text : List Char} {date : Date} (h : readDate text = .ok (date, rest)) :
    date.IsValid ∧ date.year ≤ 9999 := by
  unfold readDate at h
  obtain ⟨⟨year, text₁⟩, hyear, h⟩ := bind_eq_ok_iff.1 h
  obtain ⟨text₂, -, h⟩ := bind_eq_ok_iff.1 h
  obtain ⟨⟨month, text₃⟩, -, h⟩ := bind_eq_ok_iff.1 h
  obtain ⟨text₄, -, h⟩ := bind_eq_ok_iff.1 h
  obtain ⟨⟨day, text₅⟩, -, h⟩ := bind_eq_ok_iff.1 h
  dsimp only at h
  split at h
  next hvalid =>
    obtain ⟨rfl, -⟩ := Prod.mk.inj (Except.ok.inj h)
    have hlt : year < (0 + 1) * 10 ^ 4 := readDigits_lt hyear
    refine ⟨hvalid, ?_⟩
    dsimp only
    omega
  next => cases h

theorem readFraction_lt {text : List Char} {nanos : Nat}
    (h : readFraction text = .ok (nanos, rest)) : nanos < 1000000000 := by
  unfold readFraction at h
  split at h
  next text =>
    simp only at h
    split at h
    next => cases h
    next =>
      rw [← (Prod.mk.inj (Except.ok.inj h)).1]
      exact nanosOfFraction_lt (List.all_eq_true.1 List.all_takeWhile)
  next =>
    rw [← (Prod.mk.inj (Except.ok.inj h)).1]
    decide

/-- A time of day is one of its seconds, and in a leap second it is the last of a minute. -/
theorem readTime_spec {text : List Char} {second nanos : Nat}
    (h : readTime text = .ok (second, nanos, rest)) :
    second < 86400 ∧ (1000000000 ≤ nanos → second % 60 = 59) := by
  unfold readTime at h
  obtain ⟨⟨hour, text₁⟩, -, h⟩ := bind_eq_ok_iff.1 h
  obtain ⟨text₂, -, h⟩ := bind_eq_ok_iff.1 h
  obtain ⟨⟨minute, text₃⟩, -, h⟩ := bind_eq_ok_iff.1 h
  obtain ⟨text₄, -, h⟩ := bind_eq_ok_iff.1 h
  obtain ⟨⟨read, text₅⟩, -, h⟩ := bind_eq_ok_iff.1 h
  obtain ⟨⟨fraction, text₆⟩, hfraction, h⟩ := bind_eq_ok_iff.1 h
  have hlt := readFraction_lt hfraction
  by_cases hread : read = 60
  · simp only [hread, if_true] at h
    split at h
    next hbounds =>
      simp only [Bool.and_eq_true, decide_eq_true_eq] at hbounds
      obtain ⟨hsecond, -⟩ := Prod.mk.inj (Except.ok.inj h)
      exact ⟨by omega, fun _ ↦ by omega⟩
    next => cases h
  · simp only [hread, if_false] at h
    split at h
    next hbounds =>
      simp only [Bool.and_eq_true, decide_eq_true_eq] at hbounds
      obtain ⟨hsecond, hrest⟩ := Prod.mk.inj (Except.ok.inj h)
      obtain ⟨hnanos, -⟩ := Prod.mk.inj hrest
      exact ⟨by omega, fun _ ↦ by omega⟩
    next => cases h

theorem readOffset_mod_sixty {text : List Char} {offset : Int}
    (h : readOffset text = .ok (offset, rest)) : offset % 60 = 0 := by
  unfold readOffset at h
  split at h
  next => cases h
  next =>
    rw [← (Prod.mk.inj (Except.ok.inj h)).1]
    rfl
  next =>
    rw [← (Prod.mk.inj (Except.ok.inj h)).1]
    rfl
  next =>
    split at h
    next =>
      obtain ⟨⟨hours, text₁⟩, -, h⟩ := bind_eq_ok_iff.1 h
      obtain ⟨text₂, -, h⟩ := bind_eq_ok_iff.1 h
      obtain ⟨⟨minutes, text₃⟩, -, h⟩ := bind_eq_ok_iff.1 h
      dsimp only at h
      split at h
      next =>
        rw [← (Prod.mk.inj (Except.ok.inj h)).1]
        unfold Numeral.withSign
        split <;> omega
      next => cases h
    next => cases h

/-- What a text is read to are the second of a day and an offset, in whole minutes and less than a
day. -/
theorem exists_of_ofText? {s : String} (h : ofText? s = .ok t) :
    ∃ (date : Date) (second : Nat) (offset : Int), date.IsValid ∧ date.year ≤ 9999 ∧
      (second < 86400 ∧ (t.IsLeap → second % 60 = 59)) ∧
      (offset % 60 = 0 ∧ offset.natAbs < 86400) ∧
      t.seconds =
        (date.dayNumber - Date.epochDay) * Timestamp.secondsPerDay + second - offset := by
  unfold ofText? at h
  split at h
  next => cases h
  next =>
    obtain ⟨⟨date, text₁⟩, hdate, h⟩ := bind_eq_ok_iff.1 h
    obtain ⟨text₂, -, h⟩ := bind_eq_ok_iff.1 h
    obtain ⟨⟨second, nanos, text₃⟩, htime, h⟩ := bind_eq_ok_iff.1 h
    obtain ⟨⟨offset, text₄⟩, hoffset, h⟩ := bind_eq_ok_iff.1 h
    obtain ⟨hvalid, hyear⟩ := readDate_spec hdate
    obtain ⟨hsecond, hleap⟩ := readTime_spec htime
    dsimp only at h
    split at h
    next => cases h
    next =>
      split at h
      next habs =>
        split at h
        next t' hparts =>
          obtain rfl := Except.ok.inj h
          obtain ⟨hseconds, rfl⟩ := Timestamp.ofParts?_eq_some_iff.1 hparts
          exact ⟨date, second, offset, hvalid, hyear, ⟨hsecond, hleap⟩,
            ⟨readOffset_mod_sixty hoffset, habs⟩, hseconds⟩
        next => cases h
      next => cases h

/-- The leap seconds that the reader gives end a minute, as offsets are whole minutes. -/
theorem ofText?_leap {s : String} (h : ofText? s = .ok t) (hleap : t.IsLeap) :
    t.seconds % 60 = 59 := by
  obtain ⟨date, second, offset, -, -, ⟨-, hsecond⟩, ⟨hoffset, -⟩, hseconds⟩ :=
    exists_of_ofText? h
  have hlast := hsecond hleap
  rw [hseconds]
  unfold Timestamp.secondsPerDay
  omega

/-- A year of four digits ends long before the last timestamp, wherever on the earth. -/
theorem seconds_lt_of_ofText? {s : String} (h : ofText? s = .ok t) :
    t.seconds < Timestamp.lastSecond := by
  obtain ⟨date, second, offset, hvalid, hyear, ⟨hsecond, -⟩, ⟨-, hoffset⟩, hseconds⟩ :=
    exists_of_ofText? h
  have hday : date.dayNumber < Date.dayOfYearStart 10000 :=
    Int.lt_of_lt_of_le hvalid.dayNumber_lt (Date.dayOfYearStart_le (by omega))
  have hstart : Date.dayOfYearStart 10000 = 3652059 := by decide
  rw [hstart] at hday
  rw [hseconds]
  unfold Date.epochDay Timestamp.secondsPerDay Timestamp.lastSecond
  omega

end Rfc3339

end TwoWaySchema
