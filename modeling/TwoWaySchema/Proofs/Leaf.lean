import TwoWaySchema.Proofs.Double
import TwoWaySchema.Proofs.Outcome
import TwoWaySchema.Proofs.Time.Rfc3339
import TwoWaySchema.Shape.Leaf

/-!
# Scalars

The failures of a scalar reader fit its input, and what a reader has read it reads again from what
is written for it.  A number is then an equal one: minus zero comes back as zero.
-/

namespace TwoWaySchema

theorem Number.toInt64?_ofInt64 (i : Int64) : (Number.ofInt64 i).toInt64? = some i := by
  have hlt : i.toInt < 9223372036854775808 := Int64.toInt_lt i
  simp [Number.ofInt64, Number.toInt64?, hlt]

namespace Leaf

variable {coerces : Bool} {input : Option Json}

/-! ## Failures -/

theorem readString_fits : (readString coerces input).Fits input := by
  refine .requirePresent fun x hx ↦ ?_
  have hpresent : ¬ IsVacant (some x) := not_isVacant_some.2 hx
  cases x <;> cases coerces <;>
    first
      | exact .ok
      | exact .single (by decide) hpresent

theorem readNumber_fits : (readNumber coerces input).Fits input := by
  refine .requirePresent fun x hx ↦ ?_
  have hpresent : ¬ IsVacant (some x) := not_isVacant_some.2 hx
  split
  next => exact .ok
  next text _ =>
    split
    next => exact .ok
    next => exact .single (by decide) hpresent
  next => exact .single (by decide) hpresent

theorem readInteger_fits : (readInteger coerces input).Fits input := by
  refine .requirePresent fun x hx ↦ ?_
  have hpresent : ¬ IsVacant (some x) := not_isVacant_some.2 hx
  split
  case h_4 => exact .single (by decide) hpresent
  all_goals
    split
    next => exact .ok
    next => exact .single (by decide) hpresent

theorem readBoolean_fits : (readBoolean coerces input).Fits input := by
  unfold readBoolean
  split
  next =>
    split
    next => exact .error (.missing (.inl rfl))
    next => exact .ok
  next =>
    refine .requirePresent fun x hx ↦ ?_
    cases x <;>
      first
        | exact .ok
        | exact .single (by decide) (not_isVacant_some.2 hx)

theorem readDatetime_fits : (readDatetime input).Fits input := by
  refine .requirePresent fun x hx ↦ ?_
  have hpresent : ¬ IsVacant (some x) := not_isVacant_some.2 hx
  split
  next n =>
    unfold readMillis
    simp only
    split
    next => exact .ok
    next => exact .single (by decide) hpresent
  next =>
    split
    next => exact .ok
    next => exact .single (by decide) hpresent
  next => exact .single (by decide) hpresent

theorem readRegex_fits {ρ : Type} {engine : Regex.Engine ρ} :
    (readRegex engine input).Fits input := by
  refine .requirePresent fun x hx ↦ ?_
  have hpresent : ¬ IsVacant (some x) := not_isVacant_some.2 hx
  have hsource : ∀ member, (readSource member).Fits (some x) := by
    intro member
    unfold readSource
    split
    next => exact .ok
    next => exact .error (.within (List.cons_ne_nil _ _) hpresent _)
    next => exact .error (.within (List.cons_ne_nil _ _) hpresent _)
  have hflags : ∀ member, (readFlags member).Fits (some x) := by
    intro member
    unfold readFlags
    split
    next => exact .ok
    next => exact .ok
    next => exact .ok
    next => exact .error (.within (List.cons_ne_nil _ _) hpresent _)
  have hpattern : ∀ source flags, (readPattern engine source flags).Fits (some x) := by
    intro source flags
    unfold readPattern
    split
    next => exact .single (by decide) hpresent
    next =>
      split
      next => exact .ok
      next => exact .single (by decide) hpresent
  split
  next => exact .bind (hsource _) fun _ _ ↦ .bind (hflags _) fun _ _ ↦ hpattern _ _
  next => exact .single (by decide) hpresent

/-! ## Failures of scalars -/

theorem readString_failsWhole : (readString coerces input).FailsWhole := by
  refine .requirePresent fun x ↦ ?_
  split <;>
    first
      | exact .ok
      | exact .single

theorem readNumber_failsWhole : (readNumber coerces input).FailsWhole := by
  refine .requirePresent fun x ↦ ?_
  split
  next => exact .ok
  next =>
    split
    next => exact .ok
    next => exact .single
  next => exact .single

theorem readInteger_failsWhole : (readInteger coerces input).FailsWhole := by
  refine .requirePresent fun x ↦ ?_
  split
  case h_4 => exact .single
  all_goals
    split
    next => exact .ok
    next => exact .single

theorem readBoolean_failsWhole : (readBoolean coerces input).FailsWhole := by
  unfold readBoolean
  split
  next =>
    split
    next => exact .single
    next => exact .ok
  next =>
    refine .requirePresent fun x ↦ ?_
    split
    next => exact .ok
    next => exact .single

theorem readDatetime_failsWhole : (readDatetime input).FailsWhole := by
  refine .requirePresent fun x ↦ ?_
  split
  next =>
    unfold readMillis
    simp only
    split
    next => exact .ok
    next => exact .single
  next =>
    split
    next => exact .ok
    next => exact .single
  next => exact .single

/-! ## Reading what was written -/

theorem isFinite_of_textToDouble? {text : String} {x : Double}
    (h : Coercion.textToDouble? text = some x) : x.isFinite = true := by
  unfold Coercion.textToDouble? at h
  simp only at h
  split at h
  next y hy =>
    split at h
    next hfinite => exact Option.some.inj h ▸ hfinite
    next => cases h
  next =>
    obtain ⟨n, hn, rfl⟩ := Option.map_eq_some_iff.1 h
    have hsmall : n.natAbs < 9223372036854775808 := by
      simpa using (Option.filter_eq_some_iff.1 hn).2
    exact Double.isFinite_ofInt (by omega)

theorem isFinite_of_readNumber {x : Double} (h : readNumber coerces input = .ok x) :
    x.isFinite = true := by
  obtain ⟨raw, -, -, hread⟩ := exists_of_requirePresent_bind h
  split at hread
  next n =>
    cases hread
    exact Number.isFinite_toDouble _
  next text _ =>
    split at hread
    next y hy =>
      cases hread
      exact isFinite_of_textToDouble? hy
    next => cases hread
  next => cases hread

/-- A number that was read is written, and an equal one is read from that. -/
theorem exists_writeNumber {x : Double} (h : readNumber coerces input = .ok x) :
    ∃ n : Number, writeNumber x = .ok (.number n) ∧ (x == n.toDouble) = true := by
  obtain ⟨n, hn⟩ := exists_jsonNumber? (isFinite_of_readNumber h)
  refine ⟨n, ?_, beq_toDouble_of_jsonNumber? hn⟩
  rw [writeNumber, hn]

theorem readInteger_writeInteger (i : Int64) :
    readInteger coerces (some (writeInteger i)) = .ok i := by
  have hback := Number.toInt64?_ofInt64 i
  cases coerces <;>
    simp [readInteger, writeInteger, Coercion.numberToInt64?, requirePresent, hback, bind,
      Except.bind]

section Datetime

variable {t : Timestamp}

theorem readDatetime_millis {millis : Int}
    {h : -9223372036854775808 ≤ millis ∧ millis < 18446744073709551616} :
    readDatetime (some (.number (.whole millis h))) = .ok t ↔
      Timestamp.ofMillis? millis = some t := by
  have hread : readDatetime (some (.number (.whole millis h))) =
      readMillis (.whole millis h) := rfl
  rw [hread]
  unfold readMillis
  dsimp only
  cases Timestamp.ofMillis? millis with
  | none => exact ⟨fun h ↦ (by cases h), fun h ↦ (by cases h)⟩
  | some u =>
    rw [Except.ok.injEq, Option.some.injEq]

/-- Only a text can stand for a moment in a leap second. -/
theorem exists_ofText?_of_isLeap (h : readDatetime input = .ok t) (hleap : t.IsLeap) :
    ∃ s, Rfc3339.ofText? s = .ok t := by
  obtain ⟨x, -, -, h⟩ := exists_of_requirePresent_bind h
  split at h
  next n =>
    unfold readMillis at h
    dsimp only at h
    split at h
    next t' ht =>
      obtain rfl := Except.ok.inj h
      exact absurd hleap (Timestamp.not_isLeap_of_ofMillis? ht)
    next => cases h
  next s =>
    split at h
    next t' ht =>
      obtain rfl := Except.ok.inj h
      exact ⟨s, ht⟩
    next => cases h
  next => cases h

/-- A moment that was read is in a leap second only where the leap second ends a minute. -/
theorem readDatetime_leap (h : readDatetime input = .ok t) (hleap : t.IsLeap) :
    t.seconds % 60 = 59 := by
  obtain ⟨s, hs⟩ := exists_ofText?_of_isLeap h hleap
  exact Rfc3339.ofText?_leap hs hleap

/-- A moment can be read from the milliseconds of one that was read.  It need not be the same one:
what is left of the nanoseconds is cut off, and a leap second becomes the second after it. -/
theorem exists_readDatetime_writeDatetime (h : readDatetime input = .ok t) :
    ∃ u, readDatetime (some (writeDatetime t)) = .ok u := by
  have hlast : t.IsLeap → t.seconds < Timestamp.lastSecond := by
    intro hleap
    obtain ⟨s, hs⟩ := exists_ofText?_of_isLeap h hleap
    exact Rfc3339.seconds_lt_of_ofText? hs
  obtain ⟨u, hu⟩ := Timestamp.exists_ofMillis? hlast
  exact ⟨u, readDatetime_millis.2 hu⟩

end Datetime

end Leaf

end TwoWaySchema
