import Mathlib.Data.List.Induction
import Mathlib.Data.List.Nodup
import TwoWaySchema.Proofs.List
import TwoWaySchema.Schema

/-!
# Building objects

The fields of an object are declared one after another.  A builder has met no error exactly when
no name is empty and none comes twice, and else its error is that of the first name that is wrong,
however many fields are declared after it and wherever unknown fields are denied.
-/

namespace TwoWaySchema

namespace Fields

variable {σ : Type}

theorem append_nil : (fields : Fields σ) → fields.append .nil = fields
  | .nil => rfl
  | .cons name type shape rest => by rw [append, append_nil rest]

theorem append_assoc :
    (a b c : Fields σ) → (a.append b).append c = a.append (b.append c)
  | .nil, _, _ => rfl
  | .cons name type shape rest, b, c => by simp only [append, append_assoc rest b c]

theorem names_append : (a b : Fields σ) → (a.append b).names = a.names ++ b.names
  | .nil, _ => rfl
  | .cons name type shape rest, b => by simp only [append, names, names_append rest b,
      List.cons_append]

end Fields

/-- Names that the fields of an object can have. -/
def AreFieldNames (names : List String) : Prop :=
  (∀ name ∈ names, name ≠ "") ∧ names.Nodup

theorem areFieldNames_append_singleton {names : List String} {name : String} :
    AreFieldNames (names ++ [name]) ↔ AreFieldNames names ∧ name ≠ "" ∧ name ∉ names := by
  simp only [AreFieldNames, List.mem_append, List.mem_singleton, List.nodup_append]
  grind

namespace ObjectBuilder

variable {σ α : Type} {names : List String} {name : String} {error : BuildError}

/-- The builder has met no error exactly when the names of its fields are in order. -/
def IsConsistent (b : ObjectBuilder σ) : Prop :=
  b.error = none ↔ AreFieldNames b.fields.names

theorem nameError?_eq_none_iff {declared : List String} {name : String} :
    nameError? declared name = none ↔ name ≠ "" ∧ name ∉ declared := by
  unfold nameError?
  split
  next h =>
    have hname : name = "" := by simpa using h
    simp [hname]
  next h =>
    have hname : name ≠ "" := by simpa using h
    simp [hname]

theorem nameError?_eq_some_iff {declared : List String} :
    nameError? declared name = some error ↔ name = "" ∧ error = .emptyFieldName ∨
      name ≠ "" ∧ name ∈ declared ∧ error = .duplicateField name := by
  unfold nameError?
  by_cases hempty : name = ""
  · simp [hempty, eq_comm (a := error)]
  · by_cases hdeclared : name ∈ declared <;> simp [hempty, hdeclared, eq_comm (a := error)]

theorem isConsistent_empty : (empty : ObjectBuilder σ).IsConsistent := by
  simp [IsConsistent, empty, AreFieldNames, Fields.names]

theorem IsConsistent.field {b : ObjectBuilder σ} (h : b.IsConsistent) (name : String)
    (type : SlotType σ α) (schema : Schema σ α) : (b.field name type schema).IsConsistent := by
  unfold IsConsistent at h ⊢
  simp only [ObjectBuilder.field, Option.or_eq_none_iff, nameError?_eq_none_iff,
    Fields.names_append, Fields.names, areFieldNames_append_singleton, h]

theorem IsConsistent.denyUnknownFields {b : ObjectBuilder σ} (h : b.IsConsistent) :
    b.denyUnknownFields.IsConsistent :=
  h

/-- The schema of a consistent builder has its fields, and their names are in order. -/
theorem IsConsistent.build_eq_ok_iff {b : ObjectBuilder σ} (h : b.IsConsistent)
    {s : Schema σ (Record σ)} :
    b.build = .ok s ↔
      AreFieldNames b.fields.names ∧ s = ⟨.object b.fields b.denyUnknown, none⟩ := by
  unfold IsConsistent at h
  rw [← h, build]
  cases b.error <;> simp [eq_comm]

theorem build_eq_error_iff {b : ObjectBuilder σ} :
    b.build = .error error ↔ b.error = some error := by
  unfold build
  cases b.error <;> simp

/-! ## First faults -/

/-- The error is that of the first name that is empty or was declared before. -/
def IsFirstFault (names : List String) (error : BuildError) : Prop :=
  ∃ before name after, names = before ++ name :: after ∧ AreFieldNames before ∧
    (name = "" ∧ error = .emptyFieldName ∨
      name ≠ "" ∧ name ∈ before ∧ error = .duplicateField name)

theorem not_isFirstFault_nil : ¬ IsFirstFault [] error :=
  fun ⟨_, _, _, h, _⟩ ↦ List.append_ne_nil_of_right_ne_nil _ (List.cons_ne_nil _ _) h.symm

theorem isFirstFault_append_singleton :
    IsFirstFault (names ++ [name]) error ↔
      IsFirstFault names error ∨ AreFieldNames names ∧ nameError? names name = some error := by
  rw [nameError?_eq_some_iff]
  constructor
  · rintro ⟨before, fault, after, h, hbefore, herror⟩
    rcases append_singleton_eq_append_cons_iff.1 h with ⟨rfl, rfl, -⟩ | ⟨rest, -, hnames⟩
    · exact .inr ⟨hbefore, herror⟩
    · exact .inl ⟨before, fault, rest, hnames, hbefore, herror⟩
  · rintro (⟨before, fault, after, hnames, hbefore, herror⟩ | ⟨hnames, herror⟩)
    · exact ⟨before, fault, after ++ [name],
        append_singleton_eq_append_cons_iff.2 (.inr ⟨after, rfl, hnames⟩), hbefore, herror⟩
    · exact ⟨names, name, [], rfl, hnames, herror⟩

/-- The error of the builder is that of the first name that is wrong. -/
def ReportsFirstFault (b : ObjectBuilder σ) : Prop :=
  ∀ error, b.error = some error ↔ IsFirstFault b.fields.names error

theorem reportsFirstFault_empty : (empty : ObjectBuilder σ).ReportsFirstFault :=
  fun _ ↦ iff_of_false nofun not_isFirstFault_nil

theorem ReportsFirstFault.field {b : ObjectBuilder σ} (h : b.ReportsFirstFault)
    (hconsistent : b.IsConsistent) (name : String) (type : SlotType σ α) (schema : Schema σ α) :
    (b.field name type schema).ReportsFirstFault := by
  intro error
  simp only [ObjectBuilder.field, Fields.names_append, Fields.names, isFirstFault_append_singleton,
    Option.or_eq_some_iff, h error]
  exact or_congr_right (and_congr_left fun _ ↦ hconsistent)

/-! ## Runs -/

/-- A call of one of the builder's methods. -/
inductive Call (σ : Type) : Type 1 where
  | field {α : Type} (name : String) (type : SlotType σ α) (schema : Schema σ α)
  | denyUnknownFields

namespace Call

def name? : Call σ → Option String
  | field name _ _ => some name
  | denyUnknownFields => none

def isDenial : Call σ → Bool
  | field _ _ _ => false
  | denyUnknownFields => true

end Call

def perform (b : ObjectBuilder σ) : Call σ → ObjectBuilder σ
  | .field name type schema => b.field name type schema
  | .denyUnknownFields => b.denyUnknownFields

/-- The builder after these calls. -/
def ofCalls (calls : List (Call σ)) : ObjectBuilder σ :=
  calls.foldl perform empty

def declaredNames (calls : List (Call σ)) : List String :=
  calls.filterMap Call.name?

/-- The calls that declare fields. -/
def withoutDenials (calls : List (Call σ)) : List (Call σ) :=
  calls.filter fun call ↦ !call.isDenial

variable {calls : List (Call σ)} {call : Call σ}

theorem ofCalls_append_singleton : ofCalls (calls ++ [call]) = (ofCalls calls).perform call := by
  rw [ofCalls, List.foldl_append]
  rfl

/-- The builder knows what its calls were about. -/
structure Follows (b : ObjectBuilder σ) (calls : List (Call σ)) : Prop where
  names_eq : b.fields.names = declaredNames calls
  denyUnknown_iff : b.denyUnknown = true ↔ .denyUnknownFields ∈ calls
  isConsistent : b.IsConsistent
  reportsFirstFault : b.ReportsFirstFault

namespace Follows

theorem empty : (ObjectBuilder.empty : ObjectBuilder σ).Follows [] :=
  ⟨rfl, iff_of_false Bool.false_ne_true List.not_mem_nil, isConsistent_empty,
    reportsFirstFault_empty⟩

theorem perform {b : ObjectBuilder σ} (h : b.Follows calls) (call : Call σ) :
    (b.perform call).Follows (calls ++ [call]) := by
  cases call with
  | field name type schema =>
    refine ⟨?_, ?_, h.isConsistent.field name type schema,
      h.reportsFirstFault.field h.isConsistent name type schema⟩
    · rw [declaredNames, List.filterMap_append, ← declaredNames, ← h.names_eq]
      exact Fields.names_append _ _
    · rw [List.mem_append, ← h.denyUnknown_iff]
      exact (or_iff_left (by simp)).symm
  | denyUnknownFields =>
    refine ⟨?_, ?_, h.isConsistent.denyUnknownFields, h.reportsFirstFault⟩
    · rw [declaredNames, List.filterMap_append, ← declaredNames, ← h.names_eq]
      exact (List.append_nil _).symm
    · exact iff_of_true rfl (by simp)

end Follows

theorem ofCalls_follows (calls : List (Call σ)) : (ofCalls calls).Follows calls := by
  induction calls using List.reverseRecOn with
  | nil => exact .empty
  | append_singleton calls call ih =>
    rw [ofCalls_append_singleton]
    exact ih.perform call

/-- Without denials the builder is the same but that it does not deny. -/
theorem ofCalls_withoutDenials (calls : List (Call σ)) :
    ofCalls (withoutDenials calls) = { ofCalls calls with denyUnknown := false } := by
  induction calls using List.reverseRecOn with
  | nil => rfl
  | append_singleton calls call ih =>
    rw [withoutDenials, List.filter_append, ← withoutDenials, ofCalls_append_singleton]
    cases call with
    | field name type schema =>
      change ofCalls (withoutDenials calls ++ [_]) = _
      rw [ofCalls_append_singleton, ih]
      rfl
    | denyUnknownFields =>
      change ofCalls (withoutDenials calls ++ []) = _
      rw [List.append_nil, ih]
      rfl

/-- A schema is built when the declared names are in order. -/
theorem build_ofCalls_eq_ok_iff {s : Schema σ (Record σ)} :
    (ofCalls calls).build = .ok s ↔ AreFieldNames (declaredNames calls) ∧
      s = ⟨.object (ofCalls calls).fields (ofCalls calls).denyUnknown, none⟩ := by
  rw [(ofCalls_follows calls).isConsistent.build_eq_ok_iff, (ofCalls_follows calls).names_eq]

theorem build_ofCalls_eq_error_iff :
    (ofCalls calls).build = .error error ↔ IsFirstFault (declaredNames calls) error := by
  rw [build_eq_error_iff, (ofCalls_follows calls).reportsFirstFault,
    (ofCalls_follows calls).names_eq]

end ObjectBuilder

end TwoWaySchema
