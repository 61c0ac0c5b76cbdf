import TwoWaySchema.Time.Timestamp
import TwoWaySchema.Proofs.Time.Calendar

/-!
# Parts of a timestamp

A timestamp is the second of the day of its date, and what its text shows of it are the minutes'
seconds and the milliseconds.  In a leap second the text shows one second more than the count does.
-/

namespace TwoWaySchema

namespace Timestamp

variable (t : Timestamp)

/-- The date of a timestamp in universal time. -/
def date : Date :=
  Date.ofDayNumber (t.seconds / secondsPerDay + Date.epochDay)

def secondOfDay : Nat :=
  (t.seconds % secondsPerDay).toNat

/-- The year of the date is written with four digits and no sign. -/
def HasFourDigitYear : Prop :=
  0 ≤ t.date.year ∧ t.date.year ≤ 9999

instance : Decidable t.HasFourDigitYear :=
  inferInstanceAs (Decidable (_ ∧ _))

/-- The timestamp lies in a leap second. -/
def IsLeap : Prop :=
  1000000000 ≤ t.nanos

instance : Decidable t.IsLeap :=
  Nat.decLe _ _

/-- The timestamp without the part of it below a millisecond. -/
def toMillis : Timestamp where
  seconds := t.seconds
  nanos := t.nanos / 1000000 * 1000000
  inRange := t.inRange
  nanos_lt := Nat.lt_of_le_of_lt (Nat.div_mul_le_self _ _) t.nanos_lt

theorem nanos_toMillis : t.toMillis.nanos = t.nanos / 1000000 * 1000000 := rfl

/-- The second of its minute that the text of a timestamp shows. -/
def shownSecond : Nat :=
  if t.IsLeap then t.secondOfDay % 60 + 1 else t.secondOfDay % 60

/-- The milliseconds that the text of a timestamp shows. -/
def shownMillis : Nat :=
  if t.IsLeap then (t.nanos - 1000000000) / 1000000 else t.nanos / 1000000

/-- What the text of a timestamp shows of its nanoseconds. -/
theorem nanos_toMillis_eq : t.toMillis.nanos =
    t.shownMillis * 1000000 + if t.IsLeap then 1000000000 else 0 := by
  rw [nanos_toMillis]
  unfold shownMillis
  by_cases h : t.IsLeap
  · have hle : 1000000000 ≤ t.nanos := h
    rw [if_pos h, if_pos h]
    generalize t.nanos = nanos at hle ⊢
    omega
  · rw [if_neg h, if_neg h, Nat.add_zero]

theorem secondOfDay_lt : t.secondOfDay < 86400 := by
  unfold secondOfDay secondsPerDay
  omega

theorem shownMillis_lt : t.shownMillis < 1000 := by
  have hn := t.nanos_lt
  unfold shownMillis
  split
  next => omega
  next h =>
    have hlt : t.nanos < 1000000000 := Nat.not_le.1 h
    omega

theorem date_isValid : t.date.IsValid :=
  (Date.ofDayNumber_spec _).1

/-- A timestamp is the second of the day of its date. -/
theorem seconds_eq :
    (t.date.dayNumber - Date.epochDay) * secondsPerDay + t.secondOfDay = t.seconds := by
  have hnumber : t.date.dayNumber = t.seconds / secondsPerDay + Date.epochDay :=
    (Date.ofDayNumber_spec _).2
  rw [hnumber]
  unfold secondOfDay secondsPerDay
  omega

theorem secondOfDay_mod_sixty : ((t.secondOfDay % 60 : Nat) : Int) = t.seconds % 60 := by
  unfold secondOfDay secondsPerDay
  omega

theorem ofParts?_eq_some_iff {t : Timestamp} {seconds : Int} {nanos : Nat} :
    ofParts? seconds nanos = some t ↔ t.seconds = seconds ∧ t.nanos = nanos := by
  unfold ofParts?
  constructor
  · intro h
    split at h
    next =>
      obtain rfl := Option.some.inj h
      exact ⟨rfl, rfl⟩
    next => cases h
  · rintro ⟨rfl, rfl⟩
    exact dif_pos ⟨t.inRange, t.nanos_lt⟩

theorem ofParts?_toMillis : ofParts? t.seconds t.toMillis.nanos = some t.toMillis :=
  ofParts?_eq_some_iff.2 ⟨rfl, rfl⟩

/-! ## Milliseconds -/

theorem isLeap_toMillis_iff : t.toMillis.IsLeap ↔ t.IsLeap := by
  unfold IsLeap
  rw [nanos_toMillis]
  generalize t.nanos = nanos
  omega

theorem shownSecond_toMillis : t.toMillis.shownSecond = t.shownSecond := by
  unfold shownSecond
  simp only [isLeap_toMillis_iff]
  rfl

theorem shownMillis_toMillis : t.toMillis.shownMillis = t.shownMillis := by
  have heq := t.toMillis.nanos_toMillis_eq
  have hnanos : t.toMillis.toMillis.nanos = t.toMillis.nanos := by
    rw [nanos_toMillis, nanos_toMillis, Nat.mul_div_cancel _ (by decide)]
  rw [hnanos, nanos_toMillis_eq] at heq
  simp only [isLeap_toMillis_iff] at heq
  omega

theorem millis_toMillis : t.toMillis.millis = t.millis := by
  unfold millis
  rw [nanos_toMillis, Nat.mul_div_cancel _ (by decide)]
  rfl

variable {t}

theorem ofMillis?_eq_some_iff {millis : Int} : ofMillis? millis = some t ↔
    t.seconds = millis / 1000 ∧ t.nanos = (millis % 1000).toNat * 1000000 :=
  ofParts?_eq_some_iff

/-- No count of milliseconds stands for a leap second. -/
theorem not_isLeap_of_ofMillis? {millis : Int} (h : ofMillis? millis = some t) : ¬ t.IsLeap := by
  obtain ⟨-, hnanos⟩ := ofMillis?_eq_some_iff.1 h
  unfold IsLeap
  rw [hnanos]
  omega

/-- Outside leap seconds the milliseconds stand for the timestamp. -/
theorem ofMillis?_millis (h : ¬ t.IsLeap) : ofMillis? t.millis = some t.toMillis := by
  have hlt : t.nanos < 1000000000 := Nat.not_le.1 h
  refine ofMillis?_eq_some_iff.2 ⟨?_, ?_⟩
  · change t.seconds = t.millis / 1000
    unfold millis
    omega
  · rw [nanos_toMillis]
    unfold millis
    omega

theorem HasFourDigitYear.seconds_lt (h : t.HasFourDigitYear) : t.seconds < 253402300800 := by
  have hyear : Date.yearOfDay (t.seconds / secondsPerDay + Date.epochDay) ≤ 9999 := h.2
  obtain ⟨-, hend⟩ := Date.yearOfDay_spec (t.seconds / secondsPerDay + Date.epochDay)
  generalize Date.yearOfDay (t.seconds / secondsPerDay + Date.epochDay) = year at hyear hend
  unfold Date.dayOfYearStart Date.epochDay secondsPerDay at hend
  omega

/-- The milliseconds of a timestamp stand for one too, in a leap second for one in the second after
it, which only the last second of all lacks. -/
theorem exists_ofMillis? (h : t.IsLeap → t.seconds < lastSecond) :
    ∃ u, ofMillis? t.millis = some u := by
  by_cases hleap : t.IsLeap
  · have hlt := h hleap
    have hnanos := t.nanos_lt
    obtain ⟨hfirst, -⟩ := t.inRange
    have hrange : firstSecond ≤ t.millis / 1000 ∧ t.millis / 1000 ≤ lastSecond := by
      unfold millis
      omega
    exact ⟨⟨_, (t.millis % 1000).toNat * 1000000, hrange, by omega⟩,
      ofMillis?_eq_some_iff.2 ⟨rfl, rfl⟩⟩
  · exact ⟨t.toMillis, ofMillis?_millis hleap⟩

theorem HasFourDigitYear.exists_ofMillis? (h : t.HasFourDigitYear) :
    ∃ u, ofMillis? t.millis = some u :=
  Timestamp.exists_ofMillis? fun _ ↦ Int.lt_trans h.seconds_lt (by decide)

end Timestamp

end TwoWaySchema
