import TwoWaySchema.Proofs.Shape.Reading
import TwoWaySchema.Schema

/-!
# Coercing shapes

Coercion has a say in reading only.  Descriptions and writers stay as they are, and so does the
verdict on a value: a scalar is checked by reading what is written for it, which is of the scalar's
own kind and needs no conversion.  A chain of wrappers around one scalar reads more when it coerces,
and what it read before it reads to the same value.  An optional on the way takes a missing value
for a result, so there the scalar must not turn a null into a value, as truth values do.
-/

namespace TwoWaySchema

variable {σ : Type}

/-! ## Descriptions and writers -/

namespace Shape

theorem describe_coerce : {α : Type} → (s : Shape σ α) → s.coerce.describe = s.describe
  | _, string _ | _, number _ | _, integer _ | _, boolean _ | _, datetime | _, regex _ => rfl
  | _, optional inner => congrArg (· ++ "?") inner.describe_coerce
  | _, nullable inner => congrArg (· ++ " | null") inner.describe_coerce
  | _, orDefault inner _ => inner.describe_coerce
  | _, transform inner _ => inner.describe_coerce
  | _, andThen inner _ => inner.describe_coerce
  | _, recover inner _ => inner.describe_coerce
  | _, refine inner _ _ => inner.describe_coerce
  | _, map inner _ _ => inner.describe_coerce
  | _, tryMap inner _ _ => inner.describe_coerce
  | _, union first second => by
    rw [coerce, describe, first.describe_coerce, second.describe_coerce, describe]
  | _, array _ | _, set _ _ | _, distinct _ _ | _, indexed _ | _, mapOf _ _ _ => rfl
  | _, tuple _ | _, sequence _ | _, object _ _ | _, construct _ _ _ _ => rfl

theorem writer_coerce : {α : Type} → (s : Shape σ α) → s.coerce.writer = s.writer
  | _, string _ | _, number _ | _, integer _ | _, boolean _ | _, datetime | _, regex _ => rfl
  | _, optional inner => congrArg Writer.optional inner.writer_coerce
  | _, nullable inner => congrArg Writer.nullable inner.writer_coerce
  | _, orDefault inner _ => inner.writer_coerce
  | _, transform inner _ => inner.writer_coerce
  | _, andThen inner _ => inner.writer_coerce
  | _, recover inner _ => inner.writer_coerce
  | _, refine inner _ _ => inner.writer_coerce
  | _, map inner _ _ => by
    simp only [coerce, writer, inner.describe_coerce, inner.writer_coerce]
  | _, tryMap inner _ _ => by
    simp only [coerce, writer, inner.describe_coerce, inner.writer_coerce]
  | _, union first second => by
    simp only [coerce, writer, first.describe_coerce, second.describe_coerce,
      first.writer_coerce, second.writer_coerce]
  | _, array _ | _, set _ _ | _, distinct _ _ | _, indexed _ | _, mapOf _ _ _ => rfl
  | _, tuple _ | _, sequence _ | _, object _ _ | _, construct _ _ _ _ => rfl

/-- All scalars that coercion reaches coerce after the first time. -/
theorem coerce_coerce : {α : Type} → (s : Shape σ α) → s.coerce.coerce = s.coerce
  | _, string _ | _, number _ | _, integer _ | _, boolean _ | _, datetime | _, regex _ => rfl
  | _, optional inner => congrArg optional inner.coerce_coerce
  | _, nullable inner => congrArg nullable inner.coerce_coerce
  | _, orDefault inner value => congrArg (orDefault · value) inner.coerce_coerce
  | _, transform inner f => congrArg (transform · f) inner.coerce_coerce
  | _, andThen inner f => congrArg (andThen · f) inner.coerce_coerce
  | _, recover inner f => congrArg (recover · f) inner.coerce_coerce
  | _, refine inner accepts message =>
    congrArg (refine · accepts message) inner.coerce_coerce
  | _, map inner forward backward => congrArg (map · forward backward) inner.coerce_coerce
  | _, tryMap inner forward backward => congrArg (tryMap · forward backward) inner.coerce_coerce
  | _, union first second => congrArg₂ union first.coerce_coerce second.coerce_coerce
  | _, array _ | _, set _ _ | _, distinct _ _ | _, indexed _ | _, mapOf _ _ _ => rfl
  | _, tuple _ | _, sequence _ | _, object _ _ | _, construct _ _ _ _ => rfl

/-! ## Checking -/

section Scalars

variable {coerces : Bool}

theorem reparses_string {s : String} : (string coerces : Shape σ _).reparses s = true := by
  cases coerces <;> rfl

/-- A number is valid if it is written, whether what is written is converted or not. -/
theorem reparses_number {x : Double} :
    (number coerces : Shape σ _).reparses x = (jsonNumber? x).isSome := by
  have hwrite : (number coerces : Shape σ _).serialize x = Leaf.writeNumber x := rfl
  rw [reparses, hwrite, Leaf.writeNumber]
  cases jsonNumber? x with
  | some n => cases coerces <;> rfl
  | none => rfl

theorem reparses_integer {i : Int64} : (integer coerces : Shape σ _).reparses i = true :=
  isOk_iff.2 ⟨i, Leaf.readInteger_writeInteger i⟩

theorem reparses_boolean {b : Bool} : (boolean coerces : Shape σ _).reparses b = true := by
  cases coerces <;> rfl

end Scalars

theorem check_coerce : {α : Type} → (s : Shape σ α) → (a : α) → s.coerce.check a = s.check a
  | _, string _, _ => reparses_string.trans reparses_string.symm
  | _, number _, _ => reparses_number.trans reparses_number.symm
  | _, integer _, _ => reparses_integer.trans reparses_integer.symm
  | _, boolean _, _ => reparses_boolean.trans reparses_boolean.symm
  | _, datetime, _ | _, regex _, _ => rfl
  | _, optional inner, a => congrArg (a.all ·) (funext inner.check_coerce)
  | _, nullable inner, a => congrArg (a.all ·) (funext inner.check_coerce)
  | _, orDefault inner _, a => inner.check_coerce a
  | _, transform inner _, a => inner.check_coerce a
  | _, andThen inner _, a => inner.check_coerce a
  | _, recover inner _, a => inner.check_coerce a
  | _, refine inner accepts _, a => congrArg (accepts a && ·) (inner.check_coerce a)
  | _, map inner _ backward, b => congrArg ((backward b).any ·) (funext inner.check_coerce)
  | _, tryMap inner _ _, b => by
    simp only [coerce, check, inner.check_coerce]
  | _, union first second, a =>
    congrArg₂ (· || ·) (first.check_coerce a) (second.check_coerce a)
  | _, array _, _ | _, set _ _, _ | _, distinct _ _, _ | _, indexed _, _ => rfl
  | _, mapOf _ _ _, _ | _, tuple _, _ | _, sequence _, _ => rfl
  | _, object _ _, _ | _, construct _ _ _ _, _ => rfl

end Shape

/-! ## Reading -/

namespace Leaf

variable {coerces : Bool} {input : Option Json}

theorem readString_true {s : String} (h : readString coerces input = .ok s) :
    readString true input = .ok s := by
  obtain ⟨x, -, rfl, hread⟩ := exists_of_requirePresent_bind h
  cases coerces with
  | true => exact h
  | false => cases x <;> cases hread; rfl

theorem readNumber_true {x : Double} (h : readNumber coerces input = .ok x) :
    readNumber true input = .ok x := by
  obtain ⟨x, -, rfl, hread⟩ := exists_of_requirePresent_bind h
  cases coerces with
  | true => exact h
  | false => cases x <;> cases hread; rfl

/-- A whole number within 64 bits is read from a number before anything else is tried. -/
theorem readInteger_true {i : Int64} (h : readInteger coerces input = .ok i) :
    readInteger true input = .ok i := by
  obtain ⟨x, -, rfl, hread⟩ := exists_of_requirePresent_bind h
  cases coerces with
  | true => exact h
  | false =>
    cases x with
    | number n =>
      cases hn : n.toInt64? with
      | some j =>
        have hnumber : Coercion.numberToInt64? n = some j := by
          rw [Coercion.numberToInt64?, hn, Option.some_or]
        simp only [hn] at hread
        cases hread
        simp only [readInteger, requirePresent, bind, Except.bind, hnumber]
      | none =>
        simp only [hn] at hread
        cases hread
    | _ => cases hread

theorem readBoolean_true {b : Bool} (h : readBoolean coerces input = .ok b) :
    readBoolean true input = .ok b := by
  cases coerces with
  | true => exact h
  | false =>
    obtain ⟨x, -, rfl, hread⟩ := exists_of_requirePresent_bind h
    cases x <;> cases hread; rfl

end Leaf

namespace Shape

variable {α β : Type} {inner : Shape σ α} {outer : Shape σ β} {f : α → Outcome β}

/-- What the shape reads it reads also when it coerces. -/
def Widens (s : Shape σ α) : Prop :=
  ∀ input a, s.parse input = .ok a → s.coerce.parse input = .ok a

/-- Where a value is missing for the shape it is missing also when the shape coerces. -/
def MissesAlike (s : Shape σ α) : Prop :=
  ∀ input failure, s.parse input = .error failure → failure.isMissing = true →
    ∃ other, s.coerce.parse input = .error other ∧ other.isMissing = true

theorem missesAlike_of_fits {s : Shape σ α} (h : ∀ input, (s.parse input).Fits input)
    (hmissing : ∀ input, IsVacant input → s.coerce.parse input = .error .missing) :
    s.MissesAlike :=
  fun input failure hfailure hm ↦
    ⟨.missing, hmissing input ((h input failure hfailure).isMissing_iff.1 hm), rfl⟩

/-! ### Wrappers -/

/-- The outer shape does something with what the inner one reads, be it that both coerce, and it
has no failures of its own that say that a value is missing. -/
structure ReadsThrough (outer : Shape σ β) (inner : Shape σ α) (f : α → Outcome β) : Prop where
  parse : ∀ input, outer.parse input = inner.parse input >>= f
  parse_coerce : ∀ input, outer.coerce.parse input = inner.coerce.parse input >>= f
  isMissing : ∀ a failure, f a = .error failure → failure.isMissing = false

theorem ReadsThrough.widens (h : outer.ReadsThrough inner f) (hinner : inner.Widens) :
    outer.Widens := by
  intro input b hread
  rw [h.parse] at hread
  obtain ⟨a, ha, hb⟩ := bind_eq_ok_iff.1 hread
  rw [h.parse_coerce]
  exact bind_eq_ok_iff.2 ⟨a, hinner input a ha, hb⟩

theorem ReadsThrough.missesAlike (h : outer.ReadsThrough inner f) (hinner : inner.MissesAlike) :
    outer.MissesAlike := by
  intro input failure hfailure hmissing
  rw [h.parse] at hfailure
  cases hread : inner.parse input with
  | ok a =>
    rw [hread] at hfailure
    rw [h.isMissing a failure hfailure] at hmissing
    cases hmissing
  | error g =>
    rw [hread] at hfailure
    cases hfailure
    obtain ⟨other, hother, hm⟩ := hinner input failure hread hmissing
    refine ⟨other, ?_, hm⟩
    rw [h.parse_coerce, hother]
    rfl

theorem parse_map {forward : α → β} {backward : β → Option α} {input : Option Json} :
    (map inner forward backward).parse input =
      inner.parse input >>= fun a ↦ .ok (forward a) := by
  rw [Shape.parse]
  cases inner.parse input <;> rfl

theorem parse_andThen {g : α → α} {input : Option Json} :
    (andThen inner g).parse input = inner.parse input >>= fun a ↦ .ok (g a) := by
  rw [Shape.parse]
  cases inner.parse input <;> rfl

theorem refine_readsThrough {accepts : α → Bool} {message : String} :
    (refine inner accepts message).ReadsThrough inner
      fun a ↦ if accepts a then .ok a else .error (.single .invalid message) where
  parse _ := parse_refine
  parse_coerce _ := parse_refine
  isMissing a failure h := by
    split at h
    next => cases h
    next => cases h; rfl

theorem andThen_readsThrough {g : α → α} :
    (andThen inner g).ReadsThrough inner fun a ↦ .ok (g a) where
  parse _ := parse_andThen
  parse_coerce _ := parse_andThen
  isMissing _ _ h := by cases h

theorem map_readsThrough {forward : α → β} {backward : β → Option α} :
    (map inner forward backward).ReadsThrough inner fun a ↦ .ok (forward a) where
  parse _ := parse_map
  parse_coerce _ := parse_map
  isMissing _ _ h := by cases h

theorem tryMap_readsThrough {forward : α → Except String β} {backward : β → Option α} :
    (tryMap inner forward backward).ReadsThrough inner fun a ↦ Outcome.ofMessage (forward a) where
  parse _ := parse_tryMap
  parse_coerce _ := parse_tryMap
  isMissing a failure h := by
    cases hforward : forward a with
    | ok b => simp [hforward, Outcome.ofMessage] at h
    | error message =>
      rw [hforward] at h
      cases h
      rfl

theorem nullable_widens (h : inner.Widens) : (nullable inner).Widens := by
  intro input v hread
  by_cases hnull : input = some .null
  · subst hnull
    exact hread
  · rw [parse_nullable_of_ne hnull] at hread
    obtain ⟨a, ha, rfl⟩ := map_eq_ok_iff.1 hread
    rw [coerce, parse_nullable_of_ne hnull]
    exact map_eq_ok_iff.2 ⟨a, h input a ha, rfl⟩

theorem nullable_missesAlike (h : inner.MissesAlike) : (nullable inner).MissesAlike := by
  intro input failure hfailure hmissing
  by_cases hnull : input = some .null
  · subst hnull
    cases hfailure
  · rw [parse_nullable_of_ne hnull] at hfailure
    obtain ⟨other, hother, hm⟩ := h input failure (map_eq_error_iff.1 hfailure) hmissing
    refine ⟨other, ?_, hm⟩
    rw [coerce, parse_nullable_of_ne hnull]
    exact map_eq_error_iff.2 hother

/-- What an optional takes for no value is missing also when the shape inside coerces. -/
theorem optional_widens (h : inner.Widens) (hmisses : inner.MissesAlike) :
    (optional inner).Widens := by
  intro input v hread
  rw [coerce]
  cases hinner : inner.parse input with
  | ok a =>
    rw [parse_optional_of_ok hinner] at hread
    rw [parse_optional_of_ok (h input a hinner)]
    exact hread
  | error failure =>
    rw [parse_optional_of_error hinner] at hread
    split at hread
    next hmissing =>
      obtain ⟨other, hother, hm⟩ := hmisses input failure hinner hmissing
      rw [parse_optional_of_error hother, if_pos hm]
      exact hread
    next => cases hread

/-- An optional never says that a value is missing. -/
theorem optional_missesAlike : (optional inner).MissesAlike := by
  intro input failure hfailure hmissing
  cases hinner : inner.parse input with
  | ok a =>
    rw [parse_optional_of_ok hinner] at hfailure
    cases hfailure
  | error f =>
    rw [parse_optional_of_error hinner] at hfailure
    split at hfailure
    next => cases hfailure
    next hf =>
      cases hfailure
      exact absurd hmissing hf

/-! ### Chains -/

/-- One scalar under wrappers that do something with what it reads.  Texts and numbers may be
optional on the way, as a null is missing for them even if they convert; a truth value may not. -/
inductive IsScalarChain : (mayBeOptional : Bool) → {α : Type} → Shape σ α → Prop
  | string (coerces : Bool) : IsScalarChain true (string coerces)
  | number (coerces : Bool) : IsScalarChain true (number coerces)
  | integer (coerces : Bool) : IsScalarChain true (integer coerces)
  | boolean (coerces : Bool) : IsScalarChain false (boolean coerces)
  | optional {α : Type} {inner : Shape σ α} (h : IsScalarChain true inner) :
      IsScalarChain true (optional inner)
  | nullable {mayBeOptional : Bool} {α : Type} {inner : Shape σ α}
      (h : IsScalarChain mayBeOptional inner) : IsScalarChain mayBeOptional (nullable inner)
  | refine {mayBeOptional : Bool} {α : Type} {inner : Shape σ α}
      (h : IsScalarChain mayBeOptional inner) (accepts : α → Bool) (message : String) :
      IsScalarChain mayBeOptional (refine inner accepts message)
  | andThen {mayBeOptional : Bool} {α : Type} {inner : Shape σ α}
      (h : IsScalarChain mayBeOptional inner) (f : α → α) :
      IsScalarChain mayBeOptional (andThen inner f)
  | map {mayBeOptional : Bool} {α β : Type} {inner : Shape σ α}
      (h : IsScalarChain mayBeOptional inner) (forward : α → β) (backward : β → Option α) :
      IsScalarChain mayBeOptional (map inner forward backward)
  | tryMap {mayBeOptional : Bool} {α β : Type} {inner : Shape σ α}
      (h : IsScalarChain mayBeOptional inner) (forward : α → Except String β)
      (backward : β → Option α) : IsScalarChain mayBeOptional (tryMap inner forward backward)

namespace IsScalarChain

variable {mayBeOptional : Bool} {s : Shape σ α}

theorem missesAlike (h : s.IsScalarChain mayBeOptional) (hoptional : mayBeOptional = true) :
    s.MissesAlike := by
  have hmissing {γ : Type} (f : Json → Outcome γ) (input : Option Json) (hinput : IsVacant input) :
      requirePresent input >>= f = .error .missing := by
    rw [requirePresent_of_isVacant hinput]
    rfl
  induction h with
  | string => exact missesAlike_of_fits (fun _ ↦ Leaf.readString_fits) (hmissing _)
  | number => exact missesAlike_of_fits (fun _ ↦ Leaf.readNumber_fits) (hmissing _)
  | integer => exact missesAlike_of_fits (fun _ ↦ Leaf.readInteger_fits) (hmissing _)
  | boolean => cases hoptional
  | optional => exact optional_missesAlike
  | nullable _ ih => exact nullable_missesAlike (ih hoptional)
  | refine _ _ _ ih => exact refine_readsThrough.missesAlike (ih hoptional)
  | andThen _ _ ih => exact andThen_readsThrough.missesAlike (ih hoptional)
  | map _ _ _ ih => exact map_readsThrough.missesAlike (ih hoptional)
  | tryMap _ _ _ ih => exact tryMap_readsThrough.missesAlike (ih hoptional)

theorem widens (h : s.IsScalarChain mayBeOptional) : s.Widens := by
  induction h with
  | string => exact fun _ _ ↦ Leaf.readString_true
  | number => exact fun _ _ ↦ Leaf.readNumber_true
  | integer => exact fun _ _ ↦ Leaf.readInteger_true
  | boolean => exact fun _ _ ↦ Leaf.readBoolean_true
  | optional h ih => exact optional_widens ih (h.missesAlike rfl)
  | nullable _ ih => exact nullable_widens ih
  | refine _ _ _ ih => exact refine_readsThrough.widens ih
  | andThen _ _ ih => exact andThen_readsThrough.widens ih
  | map _ _ _ ih => exact map_readsThrough.widens ih
  | tryMap _ _ _ ih => exact tryMap_readsThrough.widens ih

end IsScalarChain

end Shape

/-! ## Schemas -/

namespace Schema

/-- Coercion leaves writing, checking and describing as they are, and a second time it does nothing.
A chain of wrappers around one scalar still reads whatever it read, to the same value. -/
theorem coerce_widens_reading_only {α : Type} (s : Schema σ α) :
    (∀ v, s.coerce.serialize v = s.serialize v ∧ s.coerce.serializeField v = s.serializeField v ∧
      s.coerce.validate v = s.validate v) ∧
    s.coerce.describe = s.describe ∧ s.coerce.coerce = s.coerce ∧
    ∀ mayBeOptional, s.shape.IsScalarChain mayBeOptional →
      ∀ input v, s.parseInput input = .ok v → s.coerce.parseInput input = .ok v := by
  refine ⟨fun v ↦ ⟨?_, ?_, s.shape.check_coerce v⟩, s.shape.describe_coerce, ?_, ?_⟩
  · exact congrArg (fun w ↦ w.serialize v) s.shape.writer_coerce
  · exact congrArg (fun w ↦ w.serializeField v) s.shape.writer_coerce
  · exact congrArg (Schema.mk · s.help) s.shape.coerce_coerce
  · exact fun _ h input v hread ↦ h.widens input v hread

/-- How many of something, a dozen of them if nothing is said. -/
def dozenSchema : Schema σ Int64 :=
  (integer.optional.map (·.getD 12) fun i ↦ some (some i)).refine (fun i ↦ 0 < i) "must be positive"

/-- Nothing is said by a null, and a text says something only to the schema that coerces. -/
theorem dozenSchema_coerce :
    (dozenSchema : Schema Unit Int64).shape.IsScalarChain true ∧
      (dozenSchema : Schema Unit Int64).parseInput (some .null) = .ok 12 ∧
      (dozenSchema : Schema Unit Int64).coerce.parseInput (some .null) = .ok 12 ∧
      (dozenSchema : Schema Unit Int64).parseInput (some (.string "5")) =
        .error (.typeMismatch "integer" (.string "5")) ∧
      (dozenSchema : Schema Unit Int64).coerce.parseInput (some (.string "5")) = .ok 5 := by
  have hchain : (dozenSchema : Schema Unit Int64).shape.IsScalarChain true :=
    .refine (.map (.optional (.integer false)) _ _) _ _
  obtain ⟨-, -, -, hwidens⟩ := coerce_widens_reading_only (dozenSchema : Schema Unit Int64)
  exact ⟨hchain, rfl, hwidens true hchain (some .null) 12 rfl, rfl, rfl⟩

-- A truth value that coerces takes a null for false, which an optional outside sees.
example : (boolean.optional : Schema Unit (Option Bool)).parse .null = .ok none ∧
    (boolean.optional : Schema Unit (Option Bool)).coerce.parse .null = .ok (some false) :=
  ⟨rfl, rfl⟩

end Schema

end TwoWaySchema
