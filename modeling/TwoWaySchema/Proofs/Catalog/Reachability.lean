import TwoWaySchema.Proofs.Catalog.Denotation

/-!
# What a descriptor contains

A descriptor contains the descriptors inside it and, references followed, those of the names that
it refers to.
-/

namespace TwoWaySchema.Descriptor

variable {entries : List (String × Descriptor)} {p : Descriptor → Prop} {d e : Descriptor}
  {nodes : List Descriptor}

/-- A step from a descriptor to one directly inside it, or from a reference to what it names. -/
def LeadsTo (entries : List (String × Descriptor)) (d e : Descriptor) : Prop :=
  e ∈ d.children ∨ ∃ name, d = .reference name ∧ entries.lookup name = some e

/-- The first descriptor leads to the second one, references followed, in any number of steps. -/
def Reaches (entries : List (String × Descriptor)) : Descriptor → Descriptor → Prop :=
  Relation.ReflTransGen (LeadsTo entries)

/-- What is reached stays in a list of descriptors that no step leaves. -/
theorem mem_of_reaches (hd : d ∈ nodes)
    (hclosed : ∀ node ∈ nodes, ∀ next, LeadsTo entries node next → next ∈ nodes)
    (h : Reaches entries d e) : e ∈ nodes := by
  induction h with
  | refl => exact hd
  | tail _ hstep ih => exact hclosed _ ih _ hstep

/-- All that a descriptor contains, itself and references followed, has the property. -/
def Throughout (entries : List (String × Descriptor)) (p : Descriptor → Prop)
    (root : Descriptor) : Prop :=
  ∀ d, Reaches entries root d → p d

namespace Throughout

theorem self (h : Throughout entries p d) : p d :=
  h d .refl

theorem imp {q : Descriptor → Prop} (h : Throughout entries p d) (hpq : ∀ d, p d → q d) :
    Throughout entries q d :=
  fun node hreach ↦ hpq node (h node hreach)

theorem step (h : Throughout entries p d) (hstep : LeadsTo entries d e) : Throughout entries p e :=
  fun node hreach ↦ h node (.head hstep hreach)

theorem child (h : Throughout entries p d) (hchild : e ∈ d.children) : Throughout entries p e :=
  h.step (.inl hchild)

/-- A list of descriptors that no step leaves, and that have the property. -/
theorem of_closed (hd : d ∈ nodes)
    (hclosed : ∀ node ∈ nodes, ∀ next, LeadsTo entries node next → next ∈ nodes)
    (hp : ∀ node ∈ nodes, p node) : Throughout entries p d :=
  fun node hreach ↦ hp node (mem_of_reaches hd hclosed hreach)

end Throughout

end TwoWaySchema.Descriptor
