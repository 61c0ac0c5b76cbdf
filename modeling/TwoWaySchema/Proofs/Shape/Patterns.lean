import TwoWaySchema.Proofs.Outcome
import TwoWaySchema.Proofs.Regex
import TwoWaySchema.Proofs.Sorted
import TwoWaySchema.Schema

/-!
# Patterns in their wire form

A regular expression is written as a source and flags and read from them.  Which patterns there are
is the business of an engine, and it does not matter which: what is written of a pattern is read to
that pattern by every engine that takes no flag twice in a group.
-/

namespace TwoWaySchema

/-- The object that holds a source and flags. -/
def Regex.wireForm (source flags : String) : Json :=
  .ofMembers [("source", .string source), ("flags", .string flags)]

/-! ## Reading and writing -/

namespace Leaf

variable {ρ : Type} {engine : Regex.Engine ρ} {r : ρ}

theorem compile_of_readPattern {source flags : String}
    (h : readPattern engine source flags = .ok r) :
    engine.compile (engine.pattern r) = .ok r := by
  unfold readPattern at h
  split at h
  next => cases h
  next inlined _ =>
    split at h
    next r' hread =>
      obtain rfl := Except.ok.inj h
      rwa [engine.pattern_of_compile hread]
    next => cases h

/-- What is read comes from its pattern, whatever it was read from. -/
theorem compile_of_readRegex {input : Option Json} (h : readRegex engine input = .ok r) :
    engine.compile (engine.pattern r) = .ok r := by
  obtain ⟨x, -, -, hread⟩ := exists_of_requirePresent_bind h
  split at hread
  next members =>
    obtain ⟨source, -, hread⟩ := bind_eq_ok_iff.1 hread
    obtain ⟨flags, -, hread⟩ := bind_eq_ok_iff.1 hread
    exact compile_of_readPattern hread
  next => cases hread

theorem readRegex_wireForm {source flags : String} :
    readRegex engine (some (Regex.wireForm source flags)) = readPattern engine source flags := by
  have hnames : ["source", "flags"].Nodup := by decide
  have hlookup : ∀ key, (SortedMap.ofList [("source", Json.string source),
      ("flags", .string flags)]).entries.lookup key =
        [("source", Json.string source), ("flags", .string flags)].lookup key :=
    SortedMap.lookup_ofList hnames
  change (do
    let source ← readSource ((SortedMap.ofList _).entries.lookup "source")
    let flags ← readFlags ((SortedMap.ofList _).entries.lookup "flags")
    readPattern engine source flags) = _
  rw [hlookup, hlookup]
  rfl

theorem writeRegex_eq :
    writeRegex engine r = Regex.wireForm (Regex.splitFlags (engine.pattern r)).2
      (Regex.splitFlags (engine.pattern r)).1 :=
  rfl

/-- What is written of a pattern is the same pattern again when it is read. -/
theorem readRegex_writeRegex (hflags : engine.RejectsRepeatedFlags)
    (h : engine.compile (engine.pattern r) = .ok r) :
    readRegex engine (some (writeRegex engine r)) = .ok r := by
  rw [writeRegex_eq, readRegex_wireForm]
  simp only [readPattern, Regex.inlineFlags_splitFlags hflags h, Regex.joinFlags_splitFlags, h]

end Leaf

/-! ## The schema of regular expressions -/

/-- What an engine makes of patterns is read and written with the patterns intact. -/
structure Regex.Engine.IsKeptBy {ρ : Type} (engine : Engine ρ) (parse : Json → Outcome ρ)
    (serialize : ρ → Except SerializeError Json) : Prop where
  /-- Every pattern that can be compiled is read from what is written for it. -/
  restores : ∀ p r, engine.compile p = .ok r →
    engine.pattern r = p ∧ ∃ x, serialize r = .ok x ∧ parse x = .ok r
  /-- What is read is written as a source and flags, each at most once, that make up its pattern. -/
  splits : ∀ raw r, parse raw = .ok r → ∃ source flags,
    serialize r = .ok (wireForm source flags) ∧
      parse (wireForm source flags) = .ok r ∧
      engine.compile (joinFlags flags.toList source) = .ok r ∧
      (∀ c ∈ flags.toList, c ∈ ['i', 'm', 's']) ∧ flags.toList.Nodup

namespace Schema

/-- Whatever engine compiles patterns and takes no flag twice in a group, a regular expression keeps
its pattern when it is written and read, and its flags are each written once. -/
theorem regex_keeps_patterns {σ ρ : Type} [engine : Regex.Engine ρ]
    (hflags : engine.RejectsRepeatedFlags) :
    engine.IsKeptBy (regex : Schema σ ρ).parse (regex : Schema σ ρ).serialize where
  restores p r h := by
    have hpattern : engine.pattern r = p := engine.pattern_of_compile h
    rw [← hpattern] at h
    exact ⟨hpattern, _, rfl, Leaf.readRegex_writeRegex hflags h⟩
  splits raw r h := by
    have hcompile : engine.compile (engine.pattern r) = .ok r := Leaf.compile_of_readRegex h
    refine ⟨(Regex.splitFlags (engine.pattern r)).2, (Regex.splitFlags (engine.pattern r)).1, rfl,
      Leaf.readRegex_writeRegex hflags hcompile, ?_, Regex.mem_wireFlags_of_mem_splitFlags,
      Regex.nodup_splitFlags hflags hcompile⟩
    rwa [Regex.joinFlags_splitFlags]

/-- A source with a flag that is given twice and another one that has no effect. -/
def lineForm : Json :=
  Regex.wireForm "^x$" "mgm"

theorem lineForm_keeps_pattern :
    Regex.engine.RejectsRepeatedFlags ∧
      ∃ r source flags, (regex : Schema Empty Regex).parse lineForm = .ok r ∧
        Regex.engine.compile "(?m)^x$" = .ok r ∧
        (regex : Schema Empty Regex).serialize r = .ok (Regex.wireForm source flags) ∧
        (regex : Schema Empty Regex).parse (Regex.wireForm source flags) = .ok r ∧
        (∀ c ∈ flags.toList, c ∈ ['i', 'm', 's']) ∧ flags.toList.Nodup := by
  refine ⟨Regex.engine_rejectsRepeatedFlags, ?_⟩
  have hread : ((regex : Schema Empty Regex).parse lineForm).map Regex.pattern =
      .ok "(?m)^x$" := rfl
  obtain ⟨r, hr, hpattern⟩ := map_eq_ok_iff.1 hread
  have hkeeps := regex_keeps_patterns (σ := Empty) Regex.engine_rejectsRepeatedFlags
  obtain ⟨source, flags, hwritten, hagain, -, hflags, hnodup⟩ := hkeeps.splits lineForm r hr
  refine ⟨r, source, flags, hr, ?_, hwritten, hagain, hflags, hnodup⟩
  rw [← hpattern]
  exact Leaf.compile_of_readRegex hr

end Schema

end TwoWaySchema
