import Mathlib.Data.List.Nodup
import TwoWaySchema.Regex.Engine

/-!
# Flags apart from the source

The flags at the front of a pattern can be written apart from the source, and the two put together
are the pattern again.  An engine that takes no flag twice in a group has none repeated among the
flags that are split off a pattern that it accepts, and that much is all that is asked of engines.
-/

namespace TwoWaySchema.Regex

/-! ## Splitting and joining -/

/-- A pattern begins with a group of flags that a source can be given, or it is all source. -/
theorem splitFlags_cases (pattern : String) :
    splitFlags pattern = ("", pattern) ∨
      ∃ flags source, pattern.toList = '(' :: '?' :: (flags ++ ')' :: source) ∧ flags ≠ [] ∧
        (∀ c ∈ flags, c ∈ wireFlags) ∧
        splitFlags pattern = (String.ofList flags, String.ofList source) := by
  unfold splitFlags
  split
  next rest hpattern =>
    simp only
    split
    next c source hrest =>
      split
      next hflags =>
        obtain ⟨hne, hall⟩ := Bool.and_eq_true_iff.1 hflags
        have hclose : c = ')' := by
          have hhead := List.head?_dropWhile_not (fun c ↦ decide (c ≠ ')')) rest
          rw [hrest] at hhead
          simpa using hhead
        subst hclose
        refine .inr ⟨rest.takeWhile (· ≠ ')'), source, ?_, by simpa using hne, ?_, rfl⟩
        · rw [hpattern, ← hrest, List.takeWhile_append_dropWhile]
        · intro d hd
          exact List.contains_iff_mem.1 (List.all_eq_true.1 hall d hd)
      next => exact .inl rfl
    next => exact .inl rfl
  next => exact .inl rfl

theorem joinFlags_splitFlags (pattern : String) :
    joinFlags (splitFlags pattern).1.toList (splitFlags pattern).2 = pattern := by
  rcases splitFlags_cases pattern with h | ⟨flags, source, hpattern, hne, -, h⟩
  · rw [h]
    rfl
  · rw [h]
    apply String.toList_inj.1
    rw [hpattern]
    simp [joinFlags, hne]

example : splitFlags "(?mi)(?-s:a)" = ("mi", "(?-s:a)") ∧
    splitFlags "(?i-s)a" = ("", "(?i-s)a") := by decide

theorem mem_wireFlags_of_mem_splitFlags {pattern : String} :
    ∀ c ∈ (splitFlags pattern).1.toList, c ∈ wireFlags := by
  rcases splitFlags_cases pattern with h | ⟨flags, source, -, -, hflags, h⟩
  · simp [h]
  · simpa [h] using hflags

/-! ## Patterns that an engine accepts -/

/-- No pattern is accepted that begins with a group of flags in which one is repeated. -/
def Engine.RejectsRepeatedFlags {ρ : Type} (engine : Engine ρ) : Prop :=
  ∀ flags source r, (∀ c ∈ flags, c ∈ wireFlags) →
    engine.compile (joinFlags flags source) = .ok r → flags.Nodup

theorem inlineFlags_of_nodup {read flags : List Char} (hnodup : (read ++ flags).Nodup)
    (h : ∀ c ∈ flags, c ∈ wireFlags) : inlineFlags read flags = .ok (read ++ flags) := by
  induction flags generalizing read with
  | nil => simp [inlineFlags]
  | cons c rest ih =>
    obtain ⟨hc, hrest⟩ := List.forall_mem_cons.1 h
    have hnew : c ∉ read := fun hmem ↦
      (List.nodup_append.1 hnodup).2.2 c hmem c List.mem_cons_self rfl
    have happend : read ++ c :: rest = (read ++ [c]) ++ rest := by simp
    rw [happend] at hnodup ⊢
    rw [inlineFlags, if_pos (List.contains_iff_mem.2 hc), if_neg (by simpa using hnew)]
    exact ih hnodup hrest

section Compiled

variable {ρ : Type} {engine : Engine ρ} {pattern : String} {r : ρ}

theorem nodup_splitFlags (hflags : engine.RejectsRepeatedFlags)
    (h : engine.compile pattern = .ok r) : (splitFlags pattern).1.toList.Nodup := by
  rw [← joinFlags_splitFlags pattern] at h
  exact hflags _ _ r mem_wireFlags_of_mem_splitFlags h

/-- The flags that are split off a pattern that is compiled are each taken as they are. -/
theorem inlineFlags_splitFlags (hflags : engine.RejectsRepeatedFlags)
    (h : engine.compile pattern = .ok r) :
    inlineFlags [] (splitFlags pattern).1.toList = .ok (splitFlags pattern).1.toList :=
  inlineFlags_of_nodup (nodup_splitFlags hflags h) mem_wireFlags_of_mem_splitFlags

end Compiled

end TwoWaySchema.Regex
