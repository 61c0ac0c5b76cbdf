import TwoWaySchema.Proofs.Shape.Reading
import TwoWaySchema.Schema

/-!
# Sequences and tuples

Schemas over JSON values can be lined up to a sequence, whose value is an array, or to a tuple of
as many JSON values.  The two are read and written by recursions of their own: a sequence collects
the outcomes of its positions and a tuple the errors beside the components.  They come to the same.
-/

namespace TwoWaySchema

variable {σ : Type}

/-! ## Tuples of JSON values -/

namespace Tuple

def items : {n : Nat} → Tuple (List.replicate n Json) → List Json
  | 0, _ => []
  | _ + 1, (x, rest) => x :: items rest

theorem length_items : {n : Nat} → (t : Tuple (List.replicate n Json)) → t.items.length = n
  | 0, _ => rfl
  | _ + 1, (_, rest) => congrArg (· + 1) (length_items rest)

end Tuple

/-- The shapes of a tuple with a JSON value in each position. -/
def Shapes.ofList : (shapes : List (Shape σ Json)) → Shapes σ (List.replicate shapes.length Json)
  | [] => nil
  | shape :: rest => cons shape (ofList rest)

/-! ## Position by position -/

namespace Shapes

/-- What the errors of the positions and their tuple, if there is one, come to. -/
def outcome {αs : List Type} : List ErrorEntry × Option (Tuple αs) → Outcome (Tuple αs)
  | (_, some values) => .ok values
  | (errors, none) => .error ⟨errors, none⟩

theorem size_ofList : (shapes : List (Shape σ Json)) → (ofList shapes).size = shapes.length
  | [] => rfl
  | _ :: rest => congrArg (· + 1) (size_ofList rest)

theorem describe_ofList : (shapes : List (Shape σ Json)) →
    (ofList shapes).describe = (JsonShapes.ofList shapes).describe
  | [] => rfl
  | shape :: rest => congrArg (shape.describe :: ·) (describe_ofList rest)

theorem check_ofList : (shapes : List (Shape σ Json)) →
    (t : Tuple (List.replicate shapes.length Json)) →
      (ofList shapes).check t = (JsonShapes.ofList shapes).check t.items
  | [], _ => rfl
  | shape :: rest, (x, t) => congrArg (shape.check x && ·) (check_ofList rest t)

theorem serializeFrom_ofList : (shapes : List (Shape σ Json)) → (i : Nat) →
    (t : Tuple (List.replicate shapes.length Json)) →
      (ofList shapes).serializeFrom i t = (JsonShapes.ofList shapes).serializeFrom i t.items
  | [], _, _ => rfl
  | shape :: rest, i, (x, t) => by
    rw [ofList, serializeFrom, serializeFrom_ofList rest]
    rfl

/-- The errors of a tuple are those of the outcomes, in their order. -/
theorem errors_parseFrom_ofList : (shapes : List (Shape σ Json)) → (i : Nat) →
    (raw : List Json) → ((ofList shapes).parseFrom i raw).1 =
      ((JsonShapes.ofList shapes).parseFrom i raw).flatMap Outcome.errors
  | [], _, _ => rfl
  | _ :: _, _, [] => rfl
  | shape :: rest, i, x :: raw => by
    have ih := errors_parseFrom_ofList rest (i + 1) raw
    rw [ofList, parseFrom_cons, JsonShapes.ofList, JsonShapes.parseFrom, List.flatMap_cons, ← ih]
    cases (shape.parse (some x)).within (.index i) <;> rfl

/-- Where a tuple is read its components are the outcomes. -/
theorem parseFrom_ofList_of_some : (shapes : List (Shape σ Json)) → (i : Nat) → (raw : List Json) →
    (t : Tuple (List.replicate shapes.length Json)) → raw.length = shapes.length →
      ((ofList shapes).parseFrom i raw).2 = some t →
        (JsonShapes.ofList shapes).parseFrom i raw = t.items.map .ok
  | [], _, [], _, _, _ => rfl
  | shape :: rest, i, x :: raw, t, hlength, h => by
    rw [ofList, parseFrom_cons] at h
    split at h
    next a ha =>
      obtain ⟨others, hothers, rfl⟩ := Option.map_eq_some_iff.1 h
      have ih := parseFrom_ofList_of_some rest (i + 1) raw others (Nat.succ.inj hlength) hothers
      rw [JsonShapes.ofList, JsonShapes.parseFrom, ha, ih]
      rfl
    next => cases h

/-- A tuple fails with an error if its positions do. -/
theorem isExplained_outcome_parseFrom : (shapes : List (Shape σ Json)) → (i : Nat) →
    (raw : List Json) → raw.length = shapes.length →
      (∀ shape ∈ shapes, ∀ x, (shape.parse (some x)).IsExplained) →
        (outcome ((ofList shapes).parseFrom i raw)).IsExplained
  | [], _, _, _, _ => Outcome.isExplained_ok
  | shape :: rest, i, x :: raw, hlength, h => by
    obtain ⟨hfirst, hrest⟩ := List.forall_mem_cons.1 h
    have ih := isExplained_outcome_parseFrom rest (i + 1) raw (Nat.succ.inj hlength) hrest
    rw [ofList, parseFrom_cons]
    cases hparse : (shape.parse (some x)).within (.index i) with
    | ok a =>
      cases hothers : (ofList rest).parseFrom (i + 1) raw with
      | mk errors values =>
        rw [hothers] at ih
        cases values with
        | none => exact Outcome.isExplained_error_iff.2 (Outcome.isExplained_error_iff.1 ih)
        | some values => exact Outcome.isExplained_ok
    | error failure =>
      have hfailure := (hfirst x).within (.index i) failure hparse
      exact Outcome.isExplained_error_iff.2 (List.append_ne_nil_of_left_ne_nil hfailure _)

end Shapes

/-! ## All positions -/

namespace Shape

variable {shapes : List (Shape σ Json)} {input : Option Json}

theorem parse_tuple_ofList :
    (tuple (.ofList shapes)).parse input =
      Parts.requireLength shapes.length input >>= fun raw ↦
        Shapes.outcome ((Shapes.ofList shapes).parseFrom 0 raw) := by
  rw [parse_tuple, Shapes.size_ofList]
  rfl

theorem parse_sequence_ofList :
    (sequence (.ofList shapes)).parse input =
      Parts.requireLength shapes.length input >>= fun raw ↦
        (Outcome.collect ((JsonShapes.ofList shapes).parseFrom 0 raw)).map .array := by
  rw [← JsonShapes.size_ofList]
  rfl

/-- A tuple that fails without an error is the one thing that a sequence reads otherwise. -/
theorem parse_sequence_ofList_eq_iff :
    ((sequence (.ofList shapes)).parse input =
      ((tuple (.ofList shapes)).parse input).map fun t ↦ .array t.items) ↔
        ((tuple (.ofList shapes)).parse input).IsExplained := by
  rw [parse_sequence_ofList, parse_tuple_ofList]
  cases hraw : Parts.requireLength shapes.length input with
  | error failure =>
    have hfailure := Parts.requireLength_fits.isExplained failure hraw
    exact iff_of_true rfl (Outcome.isExplained_error_iff.2 hfailure)
  | ok raw =>
    have hlength := (Parts.requireLength_eq_ok_iff.1 hraw).2
    have herrors := Shapes.errors_parseFrom_ofList shapes 0 raw
    change (Outcome.collect _).map Json.array = (Shapes.outcome _).map _ ↔
      (Shapes.outcome _).IsExplained
    cases hread : (Shapes.ofList shapes).parseFrom 0 raw with
    | mk errors values =>
      cases values with
      | some t =>
        have houtcomes := Shapes.parseFrom_ofList_of_some shapes 0 raw t hlength (by rw [hread])
        rw [houtcomes, Outcome.collect_map_ok]
        exact iff_of_true rfl Outcome.isExplained_ok
      | none =>
        rw [hread] at herrors
        unfold Outcome.collect
        rw [← herrors]
        cases errors with
        | nil => exact iff_of_false nofun fun h ↦ Outcome.isExplained_error_iff.1 h rfl
        | cons entry rest => exact iff_of_true rfl (Outcome.isExplained_error_iff.2 nofun)

theorem isExplained_parse_tuple_ofList
    (h : ∀ shape ∈ shapes, ∀ x, (shape.parse (some x)).IsExplained) :
    ((tuple (.ofList shapes)).parse input).IsExplained := by
  rw [parse_tuple_ofList]
  cases hraw : Parts.requireLength shapes.length input with
  | error failure =>
    have hfailure := Parts.requireLength_fits.isExplained failure hraw
    exact Outcome.isExplained_error_iff.2 hfailure
  | ok raw =>
    exact Shapes.isExplained_outcome_parseFrom shapes 0 raw
      (Parts.requireLength_eq_ok_iff.1 hraw).2 h

theorem describe_sequence_ofList :
    (sequence (.ofList shapes)).describe = (tuple (.ofList shapes)).describe := by
  rw [describe, describe, Shapes.describe_ofList]

theorem check_sequence_ofList (t : Tuple (List.replicate shapes.length Json)) :
    (sequence (.ofList shapes)).check (.array t.items) = (tuple (.ofList shapes)).check t := by
  rw [check, check, Shapes.check_ofList, t.length_items, JsonShapes.size_ofList]
  simp

theorem serialize_sequence_ofList (t : Tuple (List.replicate shapes.length Json)) :
    (sequence (.ofList shapes)).serialize (.array t.items) =
      (tuple (.ofList shapes)).serialize t := by
  have hlength : t.items.length = (JsonShapes.ofList shapes).size :=
    t.length_items.trans (JsonShapes.size_ofList shapes).symm
  calc
    (sequence (.ofList shapes)).serialize (.array t.items)
      = ((JsonShapes.ofList shapes).serializeFrom 0 t.items).map .array := if_pos hlength
    _ = ((Shapes.ofList shapes).serializeFrom 0 t).map .array := by
        rw [Shapes.serializeFrom_ofList]

end Shape

namespace Schema

/-- The tuple of these schemas. -/
def tupleOf (items : List (Schema σ Json)) :
    Schema σ (Tuple (List.replicate (items.map shape).length Json)) :=
  tuple (.ofList (items.map shape))

end Schema

end TwoWaySchema
