import Mathlib.Data.List.Induction
import TwoWaySchema.Proofs.List
import TwoWaySchema.Proofs.Lookup

/-!
# Records in use

A record is used by storing values in it and by taking values out of it.  The history of its use
tells what each of these operations did, and at any time it tells what the record holds: under each
name the value that was stored last, unless it has been taken since, and the names in the order in
which they came in.
-/

namespace TwoWaySchema.Record

variable {σ α : Type} {r rest : Record σ} {type : SlotType σ α} {name other : String} {slot : σ}
  {value : α} {error : RecordError}

/-! ## Storing and removing -/

theorem slot?_eq_none_iff : r.slot? name = none ↔ name ∉ r.names :=
  lookup_eq_none_iff_notMem

theorem get?_eq_some_iff :
    r.get? type name = some value ↔ r.slot? name = some (type.put value) := by
  simp only [get?, Option.bind_eq_some_iff, type.get?_eq_some_iff, exists_eq_right]

theorem slot?_store : (r.store name slot).slot? other =
    if other = name then some slot else r.slot? other :=
  lookup_storeEntry

theorem names_store_of_mem (h : name ∈ r.names) : (r.store name slot).names = r.names :=
  map_fst_storeEntry_of_mem h

theorem names_store_of_notMem (h : name ∉ r.names) :
    (r.store name slot).names = r.names ++ [name] :=
  map_fst_storeEntry_of_notMem h

theorem map_fst_eraseFrom (fields : List (String × σ)) :
    (eraseFrom name fields).map Prod.fst = (fields.map Prod.fst).erase name := by
  induction fields with
  | nil => rfl
  | cons field fields ih =>
    rw [eraseFrom, List.map_cons, List.erase_cons]
    by_cases h : field.1 = name <;> simp [h, ih]

theorem names_erase : (r.erase name).names = r.names.erase name :=
  map_fst_eraseFrom r.fields

theorem eraseFrom_append {before after : List (String × σ)} (h : name ∉ before.map Prod.fst) :
    eraseFrom name (before ++ (name, slot) :: after) = before ++ after := by
  induction before with
  | nil => rw [List.nil_append, eraseFrom, if_pos rfl, List.nil_append]
  | cons field before ih =>
    obtain ⟨hfield, hbefore⟩ := not_or.1 (mt List.mem_cons.2 h)
    rw [List.cons_append, eraseFrom, if_neg (Ne.symm hfield), ih hbefore, List.cons_append]

/-- What is removed stood between the other fields, and these stay as they are. -/
theorem exists_erase (h : r.slot? name = some slot) : ∃ before after,
    r.fields = before ++ (name, slot) :: after ∧ (r.erase name).fields = before ++ after := by
  obtain ⟨before, after, hfields, hbefore⟩ := List.lookup_eq_some_iff.1 h
  refine ⟨before, after, hfields, (congrArg _ hfields).trans (eraseFrom_append fun hmem ↦ ?_)⟩
  obtain ⟨field, hfield, rfl⟩ := List.mem_map.1 hmem
  simpa using hbefore field hfield

/-- With distinct names every field is found, and removing it leaves the others. -/
theorem slot?_and_erase_of_fields {before after : List (String × σ)} (hnames : r.NamesDistinct)
    (hfields : r.fields = before ++ (name, slot) :: after) :
    r.slot? name = some slot ∧ r.erase name = ⟨before ++ after⟩ := by
  have hmem : (name, slot) ∈ r.fields := hfields ▸ List.mem_append_right _ List.mem_cons_self
  refine ⟨lookup_of_mem hnames hmem, congrArg mk ?_⟩
  rw [NamesDistinct, names, hfields, List.map_append, List.nodup_append] at hnames
  rw [hfields, eraseFrom_append fun hbefore ↦ hnames.2.2 _ hbefore _ List.mem_cons_self rfl]

theorem slot?_erase (hnames : r.NamesDistinct) (hslot : r.slot? name = some slot) :
    (r.erase name).slot? other = if other = name then none else r.slot? other := by
  split
  next h =>
    subst h
    rw [slot?_eq_none_iff, names_erase]
    exact hnames.not_mem_erase
  next h =>
    obtain ⟨before, after, hfields, herase⟩ := exists_erase hslot
    change (r.erase name).fields.lookup other = r.fields.lookup other
    rw [hfields, herase, List.lookup_append, List.lookup_append, lookup_cons_of_ne h]

/-! ## Taking a value -/

theorem take_of_absent (h : r.slot? name = none) :
    r.take type name = (.error (.missingField name), r) := by
  rw [take, h]

/-- A slot of this type is converted once it has been removed. -/
theorem take_of_put (h : r.slot? name = some (type.put value)) :
    r.take type name = (.ok value, r.erase name) := by
  simp only [take, h, SlotType.holds, SlotType.get?_put, Option.isSome_some, if_true]

theorem take_of_other (h : r.slot? name = some slot) (hother : ∀ value, slot ≠ type.put value) :
    r.take type name = (.error (.wrongType name type.name), r) := by
  have hnone : type.get? slot = none :=
    Option.eq_none_iff_forall_ne_some.2 fun value hvalue ↦
      hother value ((type.get?_eq_some_iff slot value).1 hvalue)
  simp only [take, h, SlotType.holds, hnone, Option.isSome_none, Bool.false_eq_true, if_false]

/-- Either nothing stands under the name, or a value of the type, or one of another type. -/
theorem slot?_cases (type : SlotType σ α) (r : Record σ) (name : String) :
    r.slot? name = none ∨ (∃ value, r.slot? name = some (type.put value)) ∨
      ∃ slot, r.slot? name = some slot ∧ ∀ value, slot ≠ type.put value := by
  cases r.slot? name with
  | none => exact .inl rfl
  | some slot =>
    by_cases h : ∃ value, slot = type.put value
    · obtain ⟨value, rfl⟩ := h
      exact .inr (.inl ⟨value, rfl⟩)
    · exact .inr (.inr ⟨slot, rfl, not_exists.1 h⟩)

theorem take_eq_ok_iff :
    r.take type name = (.ok value, rest) ↔
      r.slot? name = some (type.put value) ∧ rest = r.erase name := by
  rcases slot?_cases type r name with h | ⟨held, h⟩ | ⟨slot, h, hother⟩
  · simp [take_of_absent h, h]
  · rw [take_of_put h, h]
    constructor
    · rintro ⟨⟩
      exact ⟨rfl, rfl⟩
    · rintro ⟨hput, rfl⟩
      have hget := congrArg type.get? (Option.some.inj hput)
      rw [SlotType.get?_put, SlotType.get?_put] at hget
      rw [Option.some.inj hget]
  · simp [take_of_other h hother, h, hother]

/-- A value is taken if its field is there, and then only this field goes. -/
theorem take_eq_ok_iff_fields (hnames : r.NamesDistinct) :
    r.take type name = (.ok value, rest) ↔ ∃ before after,
      r.fields = before ++ (name, type.put value) :: after ∧ rest.fields = before ++ after := by
  rw [take_eq_ok_iff]
  constructor
  · rintro ⟨hslot, rfl⟩
    exact exists_erase hslot
  · rintro ⟨before, after, hfields, hrest⟩
    obtain ⟨hslot, herase⟩ := slot?_and_erase_of_fields hnames hfields
    exact ⟨hslot, herase ▸ congrArg mk hrest⟩

theorem take_eq_error_iff :
    r.take type name = (.error error, rest) ↔ rest = r ∧
      (r.slot? name = none ∧ error = .missingField name ∨
        (∃ slot, r.slot? name = some slot ∧ ∀ value, slot ≠ type.put value) ∧
          error = .wrongType name type.name) := by
  rcases slot?_cases type r name with h | ⟨held, h⟩ | ⟨slot, h, hother⟩
  · simp [take_of_absent h, h, eq_comm, and_comm]
  · rw [take_of_put h, h]
    constructor
    · rintro ⟨⟩
    · rintro ⟨-, ⟨⟨⟩, -⟩ | ⟨⟨slot, hslot, hother⟩, -⟩⟩
      exact absurd (Option.some.inj hslot).symm (hother held)
  · simp [take_of_other h hother, h, hother, eq_comm, and_comm]

/-! ## Histories -/

/-- One use of a record; values of all types go in and out. -/
inductive Operation (σ : Type) : Type 1 where
  /-- Stores a value, be it in a record at hand or in one that is being built up. -/
  | insert {α : Type} (type : SlotType σ α) (name : String) (value : α)
  | take {α : Type} (type : SlotType σ α) (name : String)

/-- What came of an operation. -/
inductive Event (σ : Type) where
  | stored (name : String) (slot : σ)
  | taken (name : String) (slot : σ)
  | refused (error : RecordError)

/-- The name that a value was stored under or taken from. -/
def Event.name? : Event σ → Option String
  | stored name _ => some name
  | taken name _ => some name
  | refused _ => none

def perform (r : Record σ) : Operation σ → Event σ × Record σ
  | .insert type name value => (.stored name (type.put value), r.insert type name value)
  | .take type name =>
    match r.take type name with
    | (.ok value, rest) => (.taken name (type.put value), rest)
    | (.error error, rest) => (.refused error, rest)

/-- All that an operation can do to a record. -/
theorem perform_cases (r : Record σ) (operation : Operation σ) :
    (∃ name slot, r.perform operation = (.stored name slot, r.store name slot)) ∨
      (∃ name slot, r.slot? name = some slot ∧
        r.perform operation = (.taken name slot, r.erase name)) ∨
      ∃ error, r.perform operation = (.refused error, r) := by
  cases operation with
  | insert type name value => exact .inl ⟨name, type.put value, rfl⟩
  | take type name =>
    rcases slot?_cases type r name with h | ⟨value, h⟩ | ⟨slot, h, hother⟩
    · exact .inr (.inr ⟨_, by rw [perform, take_of_absent h]⟩)
    · exact .inr (.inl ⟨name, type.put value, h, by rw [perform, take_of_put h]⟩)
    · exact .inr (.inr ⟨_, by rw [perform, take_of_other h hother]⟩)

/-- A record and what has been done to it, the first event first. -/
structure Run (σ : Type) where
  history : List (Event σ)
  record : Record σ

namespace Run

def start : Run σ := ⟨[], .empty⟩

def step (run : Run σ) (operation : Operation σ) : Run σ :=
  ⟨run.history ++ [(run.record.perform operation).1], (run.record.perform operation).2⟩

/-- The run of these operations on a record that is empty at first. -/
def ofOperations (operations : List (Operation σ)) : Run σ :=
  operations.foldl step start

end Run

/-- This was the last slot stored under the name, and none has been taken from it since. -/
def Holds (history : List (Event σ)) (name : String) (slot : σ) : Prop :=
  IsLast (fun event ↦ event.name? = some name) (.stored name slot) history

/-- The name came in with the event at this place: nothing was held under it then, and nothing has
been taken from it since. -/
def EntersAt (history : List (Event σ)) (name : String) (place : Nat) : Prop :=
  ∃ earlier slot later, history = earlier ++ .stored name slot :: later ∧
    earlier.length = place ∧ (∀ slot, ¬ Holds earlier name slot) ∧
      ∀ slot, .taken name slot ∉ later

section History

variable {history : List (Event σ)} {event : Event σ} {place : Nat}

theorem holds_concat_iff :
    Holds (history ++ [event]) name slot ↔
      event = .stored name slot ∨ event.name? ≠ some name ∧ Holds history name slot :=
  isLast_concat_iff

/-- What was stored and not taken since is held, though others may have come in its place. -/
theorem exists_holds_of_stored (earlier : List (Event σ)) (slot : σ) {later : List (Event σ)}
    (h : ∀ slot, .taken name slot ∉ later) :
    ∃ held, Holds (earlier ++ .stored name slot :: later) name held := by
  induction later using List.reverseRecOn with
  | nil => exact ⟨slot, earlier, [], rfl, by simp⟩
  | append_singleton later event ih =>
    obtain ⟨held, hheld⟩ := ih fun slot hmem ↦ h slot (List.mem_append_left _ hmem)
    rw [← List.cons_append, ← List.append_assoc]
    by_cases hname : event.name? = some name
    · cases event with
      | stored other slot =>
        obtain rfl := Option.some.inj hname
        exact ⟨slot, holds_concat_iff.2 (.inl rfl)⟩
      | taken other slot =>
        obtain rfl := Option.some.inj hname
        exact absurd (List.mem_append_right _ (List.mem_singleton_self _)) (h slot)
      | refused error => cases hname
    · exact ⟨held, holds_concat_iff.2 (.inr ⟨hname, hheld⟩)⟩

theorem EntersAt.exists_holds (h : EntersAt history name place) :
    ∃ slot, Holds history name slot := by
  obtain ⟨earlier, slot, later, rfl, -, -, hlater⟩ := h
  exact exists_holds_of_stored earlier slot hlater

theorem EntersAt.place_lt (h : EntersAt history name place) : place < history.length := by
  obtain ⟨earlier, slot, later, rfl, rfl, -, -⟩ := h
  simp

theorem EntersAt.concat (h : EntersAt history name place)
    (hevent : ∀ slot, event ≠ .taken name slot) :
    EntersAt (history ++ [event]) name place := by
  obtain ⟨earlier, slot, later, rfl, hplace, habsent, hlater⟩ := h
  refine ⟨earlier, slot, later ++ [event], by simp, hplace, habsent, fun taken hmem ↦ ?_⟩
  rcases List.mem_append.1 hmem with hmem | hmem
  · exact hlater taken hmem
  · exact hevent taken (List.mem_singleton.1 hmem).symm

theorem entersAt_length (h : ∀ slot, ¬ Holds history name slot) (slot : σ) :
    EntersAt (history ++ [.stored name slot]) name history.length :=
  ⟨history, slot, [], rfl, rfl, h, by simp⟩

/-- Between two places where a name came in it would have been held at the second. -/
theorem EntersAt.le {i j : Nat} (hi : EntersAt history name i) (hj : EntersAt history name j) :
    j ≤ i := by
  obtain ⟨earlier, slot, later, rfl, rfl, -, hlater⟩ := hi
  obtain ⟨earlier', slot', later', h, rfl, habsent, -⟩ := hj
  rcases List.append_eq_append_iff.1 h with ⟨between, rfl, hbetween⟩ | ⟨between, rfl, -⟩
  · cases between with
    | nil => simp
    | cons event between =>
      obtain ⟨rfl, rfl⟩ := List.cons.inj hbetween
      obtain ⟨held, hheld⟩ := exists_holds_of_stored earlier slot fun taken hmem ↦
        hlater taken (List.mem_append_left _ hmem)
      exact absurd hheld (habsent held)
  · simp

theorem EntersAt.unique {i j : Nat} (hi : EntersAt history name i) (hj : EntersAt history name j) :
    i = j :=
  Nat.le_antisymm (hj.le hi) (hi.le hj)

/-- The names have come in, one after the other. -/
structure InOrder (history : List (Event σ)) (names : List String) : Prop where
  entered : ∀ name ∈ names, ∃ place, EntersAt history name place
  ordered : names.Pairwise fun first second ↦
    ∃ i j, EntersAt history first i ∧ EntersAt history second j ∧ i < j

namespace InOrder

variable {names some : List String}

theorem sublist (h : InOrder history names) (hsome : some.Sublist names) :
    InOrder history some :=
  ⟨fun name hname ↦ h.entered name (hsome.subset hname), h.ordered.sublist hsome⟩

/-- What happens to other names changes nothing. -/
theorem concat (h : InOrder history names)
    (hevent : ∀ name ∈ names, ∀ slot, event ≠ .taken name slot) :
    InOrder (history ++ [event]) names where
  entered name hname := by
    obtain ⟨place, hplace⟩ := h.entered name hname
    exact ⟨place, hplace.concat (hevent name hname)⟩
  ordered := h.ordered.imp_of_mem fun hfirst hsecond ⟨i, j, hi, hj, hij⟩ ↦
    ⟨i, j, hi.concat (hevent _ hfirst), hj.concat (hevent _ hsecond), hij⟩

/-- A name that comes in now is the last one. -/
theorem append (h : InOrder history names) (habsent : ∀ slot, ¬ Holds history name slot)
    (slot : σ) : InOrder (history ++ [.stored name slot]) (names ++ [name]) := by
  have hnew := entersAt_length habsent slot
  have hnames : InOrder (history ++ [.stored name slot]) names := h.concat fun _ _ _ ↦ nofun
  refine ⟨fun other hother ↦ ?_,
    List.pairwise_append.2 ⟨hnames.ordered, List.pairwise_singleton _ _, ?_⟩⟩
  · rcases List.mem_append.1 hother with hother | hother
    · exact hnames.entered other hother
    · obtain rfl := List.mem_singleton.1 hother
      exact ⟨_, hnew⟩
  · intro other hother last hlast
    obtain rfl := List.mem_singleton.1 hlast
    obtain ⟨place, hplace⟩ := h.entered other hother
    exact ⟨place, _, hplace.concat nofun, hnew, hplace.place_lt⟩

theorem lt_of_pairwise (h : InOrder history names) :
    names.Pairwise fun first second ↦ ∀ i j, EntersAt history first i →
      EntersAt history second j → i < j :=
  h.ordered.imp fun ⟨_, _, hi, hj, hij⟩ _ _ hi' hj' ↦ hi'.unique hi ▸ hj'.unique hj ▸ hij

end InOrder

end History

/-! ## Runs -/

/-- The record is what the history says: what is held, under names in the order in which they came
in. -/
structure Run.IsFaithful (run : Run σ) : Prop where
  slot?_eq_some_iff : ∀ name slot,
    run.record.slot? name = some slot ↔ Holds run.history name slot
  namesDistinct : run.record.NamesDistinct
  inOrder : InOrder run.history run.record.names

namespace Run.IsFaithful

variable {history : List (Event σ)}

theorem start : (Run.start : Run σ).IsFaithful :=
  ⟨fun _ _ ↦ iff_of_false nofun not_isLast_nil, List.nodup_nil, nofun, .nil⟩

theorem stored (h : IsFaithful ⟨history, r⟩) (name : String) (slot : σ) :
    IsFaithful ⟨history ++ [.stored name slot], r.store name slot⟩ where
  slot?_eq_some_iff other held := by
    rw [slot?_store, holds_concat_iff, ← h.slot?_eq_some_iff]
    by_cases hname : other = name
    · simp [hname, Event.name?]
    · simp [hname, Ne.symm hname, Event.name?]
  namesDistinct := nodup_map_fst_storeEntry h.namesDistinct
  inOrder := by
    by_cases hname : name ∈ r.names
    · rw [names_store_of_mem hname]
      exact h.inOrder.concat fun _ _ _ ↦ nofun
    · rw [names_store_of_notMem hname]
      refine h.inOrder.append (fun held hheld ↦ ?_) slot
      rw [← h.slot?_eq_some_iff, slot?_eq_none_iff.2 hname] at hheld
      cases hheld

theorem taken (h : IsFaithful ⟨history, r⟩) (hslot : r.slot? name = some slot) :
    IsFaithful ⟨history ++ [.taken name slot], r.erase name⟩ where
  slot?_eq_some_iff other held := by
    rw [slot?_erase h.namesDistinct hslot, holds_concat_iff, ← h.slot?_eq_some_iff]
    by_cases hname : other = name
    · simp [hname, Event.name?]
    · simp [hname, Ne.symm hname, Event.name?]
  namesDistinct := by
    unfold NamesDistinct
    rw [names_erase]
    exact h.namesDistinct.erase name
  inOrder := by
    rw [names_erase]
    refine (h.inOrder.sublist List.erase_sublist).concat ?_
    rintro other hother _ ⟨⟩
    exact h.namesDistinct.not_mem_erase hother

theorem refused (h : IsFaithful ⟨history, r⟩) (error : RecordError) :
    IsFaithful ⟨history ++ [.refused error], r⟩ where
  slot?_eq_some_iff name slot := by
    rw [holds_concat_iff, ← h.slot?_eq_some_iff]
    simp [Event.name?]
  namesDistinct := h.namesDistinct
  inOrder := h.inOrder.concat fun _ _ _ ↦ nofun

theorem step {run : Run σ} (h : run.IsFaithful) (operation : Operation σ) :
    (run.step operation).IsFaithful := by
  unfold Run.step
  rcases run.record.perform_cases operation with ⟨name, slot, heq⟩ | ⟨name, slot, hslot, heq⟩ |
    ⟨error, heq⟩
  · rw [heq]
    exact h.stored name slot
  · rw [heq]
    exact h.taken hslot
  · rw [heq]
    exact h.refused error

end Run.IsFaithful

theorem Run.ofOperations_isFaithful (operations : List (Operation σ)) :
    (Run.ofOperations operations).IsFaithful := by
  induction operations using List.reverseRecOn with
  | nil => exact .start
  | append_singleton operations operation ih =>
    rw [Run.ofOperations, List.foldl_append]
    exact ih.step operation

theorem Run.IsFaithful.mem_names_iff {history : List (Event σ)}
    (h : Run.IsFaithful ⟨history, r⟩) : name ∈ r.names ↔ ∃ place, EntersAt history name place := by
  refine ⟨h.inOrder.entered name, fun ⟨place, hplace⟩ ↦ ?_⟩
  obtain ⟨slot, hslot⟩ := hplace.exists_holds
  by_contra hname
  rw [← h.slot?_eq_some_iff, slot?_eq_none_iff.2 hname] at hslot
  cases hslot

/-- Whatever is stored in a record and taken from it, the names stay distinct and in the order in
which they came in.  A value is there if it was the last one stored under its name and has not been
taken since.  Where it is taken its own field goes and the others stay in their order, and where
there is none of the type nothing changes. -/
theorem follows_history (operations : List (Operation σ)) :
    let history := (Run.ofOperations operations).history
    let r := (Run.ofOperations operations).record
    r.names.Nodup ∧ (∀ name, name ∈ r.names ↔ ∃ place, EntersAt history name place) ∧
      (r.names.Pairwise fun first second ↦ ∀ i j, EntersAt history first i →
        EntersAt history second j → i < j) ∧
      ∀ {α : Type} (type : SlotType σ α) (name : String),
        (∀ value, r.get? type name = some value ↔ Holds history name (type.put value)) ∧
        (∀ value rest, r.take type name = (.ok value, rest) ↔
          Holds history name (type.put value) ∧ ∃ before after,
            r.fields = before ++ (name, type.put value) :: after ∧ rest.fields = before ++ after) ∧
        ∀ error rest, r.take type name = (.error error, rest) ↔ rest = r ∧
          ((∀ slot, ¬ Holds history name slot) ∧ error = .missingField name ∨
            (∃ slot, Holds history name slot ∧ ∀ value, slot ≠ type.put value) ∧
              error = .wrongType name type.name) := by
  intro history r
  have h : Run.IsFaithful ⟨history, r⟩ := Run.ofOperations_isFaithful operations
  have hheld (name : String) (slot : σ) : r.slot? name = some slot ↔ Holds history name slot :=
    h.slot?_eq_some_iff name slot
  refine ⟨h.namesDistinct, fun name ↦ h.mem_names_iff, h.inOrder.lt_of_pairwise,
    fun type name ↦ ⟨fun value ↦ ?_, fun value rest ↦ ?_, fun error rest ↦ ?_⟩⟩
  · rw [get?_eq_some_iff, hheld]
  · rw [take_eq_ok_iff_fields h.namesDistinct, iff_and_self]
    rintro ⟨before, after, hfields, -⟩
    exact (hheld _ _).1 (slot?_and_erase_of_fields h.namesDistinct hfields).1
  · rw [take_eq_error_iff]
    simp only [Option.eq_none_iff_forall_ne_some, ne_eq, hheld]

/-- Slots that hold a whole number or a text. -/
def wholeSlot : SlotType (Int64 ⊕ String) Int64 :=
  ⟨"i64", .inl, Sum.getLeft?, fun slot value ↦ by cases slot <;> simp⟩

def textSlot : SlotType (Int64 ⊕ String) String :=
  ⟨"String", .inr, Sum.getRight?, fun slot value ↦ by cases slot <;> simp⟩

/-- A number makes way for a text, which cannot be taken as a number, and the field after it is
taken. -/
def errand : List (Operation (Int64 ⊕ String)) :=
  [.insert wholeSlot "a" 1, .insert textSlot "b" "two", .insert textSlot "a" "one",
    .take wholeSlot "a", .take textSlot "b"]

def errandHistory : List (Event (Int64 ⊕ String)) :=
  [.stored "a" (.inl 1), .stored "b" (.inr "two"), .stored "a" (.inr "one"),
    .refused (.wrongType "a" "i64"), .taken "b" (.inr "two")]

theorem errand_follows_history :
    Run.ofOperations errand = ⟨errandHistory, ⟨[("a", .inr "one")]⟩⟩ ∧
      EntersAt errandHistory "a" 0 ∧ "a" ∈ (Run.ofOperations errand).record.names ∧
      (Run.ofOperations errand).record.get? textSlot "a" = some "one" ∧
      (Run.ofOperations errand).record.take wholeSlot "a" =
        (.error (.wrongType "a" "i64"), (Run.ofOperations errand).record) := by
  have hrun : Run.ofOperations errand = ⟨errandHistory, ⟨[("a", .inr "one")]⟩⟩ := rfl
  have henters : EntersAt errandHistory "a" 0 :=
    ⟨[], .inl 1, _, rfl, rfl, fun _ ↦ not_isLast_nil, by simp⟩
  have hheld : Holds errandHistory "a" (.inr "one") :=
    ⟨[.stored "a" (.inl 1), .stored "b" (.inr "two")], _, rfl, by simp [Event.name?]⟩
  obtain ⟨-, hnames, -, hvalues⟩ := follows_history errand
  rw [hrun] at hnames hvalues ⊢
  obtain ⟨hget, -, -⟩ := hvalues textSlot "a"
  obtain ⟨-, -, herror⟩ := hvalues wholeSlot "a"
  exact ⟨rfl, henters, (hnames "a").2 ⟨0, henters⟩, (hget "one").2 hheld,
    (herror _ _).2 ⟨rfl, .inr ⟨⟨_, hheld, fun _ ↦ nofun⟩, rfl⟩⟩⟩

end TwoWaySchema.Record
