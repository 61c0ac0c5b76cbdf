import TwoWaySchema.Proofs.Regex.Flags
import TwoWaySchema.Regex

/-!
# Flags of a pattern that can be read

A group of flags takes no letter twice, so the engine of this library accepts no pattern that begins
with a group in which a flag is repeated.
-/

namespace TwoWaySchema.Regex

/-- The flags that a source can be given are flags of a pattern, and none of them ends a group. -/
theorem mem_flagLetters_of_mem_wireFlags : ∀ c ∈ wireFlags, c ∈ flagLetters ∧ c ∈ offLetters ∧
    c ≠ ')' ∧ c ≠ ':' ∧ c ≠ '-' ∧ c ≠ '<' ∧ c ≠ 'P' := by
  simp [wireFlags, flagLetters, offLetters]

theorem readFlags_cons {flags : Flags} {seen rest : List Char} {c : Char} {on afterMinus : Bool}
    (h : c ∈ wireFlags) :
    readFlags flags seen on afterMinus (c :: rest) =
      if c ∈ seen then none else readFlags (flags.set c on) (c :: seen) on false rest := by
  obtain ⟨hon, hoff, hclose, hcolon, hminus, -, -⟩ := mem_flagLetters_of_mem_wireFlags c h
  rw [readFlags]
  · cases on <;> by_cases hseen : c ∈ seen <;> simp [hon, hoff, hseen]
  · exact hclose
  · exact hcolon
  · exact hminus

theorem readGroupHead_cons {flags : Flags} {rest : List Char} {c : Char}
    (hverbose : flags.verbose = false) (h : c ∈ wireFlags) :
    readGroupHead flags ('?' :: c :: rest) = readFlags flags [] true false (c :: rest) := by
  obtain ⟨-, -, -, -, -, hname, hnamed⟩ := mem_flagLetters_of_mem_wireFlags c h
  simp [readGroupHead, skipVerbose, hverbose, hname, hnamed]

/-- A group of flags that is read has no letter twice. -/
theorem nodup_of_readFlags {flags : Flags} {seen letters rest : List Char} {on afterMinus : Bool}
    (hletters : ∀ c ∈ letters, c ∈ wireFlags)
    (h : readFlags flags seen on afterMinus (letters ++ ')' :: rest) ≠ none) :
    letters.Nodup ∧ ∀ c ∈ letters, c ∉ seen := by
  induction letters generalizing flags seen afterMinus with
  | nil => simp
  | cons c letters ih =>
    obtain ⟨hc, hrest⟩ := List.forall_mem_cons.1 hletters
    rw [List.cons_append, readFlags_cons hc] at h
    split at h
    next => exact absurd rfl h
    next hseen =>
      obtain ⟨hnodup, hnew⟩ := ih hrest h
      have hc' : c ∉ letters := fun hmem ↦ hnew c hmem List.mem_cons_self
      refine ⟨List.nodup_cons.2 ⟨hc', hnodup⟩, List.forall_mem_cons.2 ⟨hseen, fun d hd ↦ ?_⟩⟩
      exact fun hmem ↦ hnew d hd (List.mem_cons_of_mem c hmem)

/-- A pattern that begins with a group of flags is read only if that group is. -/
theorem readFlags_ne_none {pattern : String} {node : Node} {letters rest : List Char}
    (hne : letters ≠ []) (hletters : ∀ c ∈ letters, c ∈ wireFlags)
    (hpattern : pattern.toList = '(' :: '?' :: (letters ++ ')' :: rest))
    (h : Node.ofPattern? pattern = some node) :
    readFlags ⟨false, false, false, false⟩ [] true false (letters ++ ')' :: rest) ≠ none := by
  intro hnone
  obtain ⟨c, others, rfl⟩ := List.exists_cons_of_ne_nil hne
  have hhead : readGroupHead ⟨false, false, false, false⟩ ('?' :: c :: (others ++ ')' :: rest)) =
      none := (readGroupHead_cons rfl (hletters c List.mem_cons_self)).trans hnone
  unfold Node.ofPattern? at h
  rw [hpattern] at h
  simp only [List.cons_append] at h
  rw [readBody] at h
  simp [skipVerbose, hhead] at h

theorem exists_ofPattern? (r : Regex) : ∃ node, Node.ofPattern? r.pattern = some node := by
  have hread := r.isRead
  unfold Node.ofPattern at hread
  split at hread
  next => cases hread
  next node hnode => exact ⟨node, hnode⟩

theorem engine_rejectsRepeatedFlags : engine.RejectsRepeatedFlags := by
  intro flags source r hflags hread
  by_cases hne : flags = []
  · rw [hne]
    exact .nil
  · have hpattern : (joinFlags flags source).toList =
        '(' :: '?' :: (flags ++ ')' :: source.toList) := by simp [joinFlags, hne]
    obtain ⟨node, hnode⟩ := exists_ofPattern? r
    have hjoin : r.pattern = joinFlags flags source := engine.pattern_of_compile hread
    rw [hjoin] at hnode
    exact (nodup_of_readFlags hflags (readFlags_ne_none hne hflags hpattern hnode)).1

end TwoWaySchema.Regex
