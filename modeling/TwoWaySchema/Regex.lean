import TwoWaySchema.Regex.Engine
import TwoWaySchema.Regex.Reader
import TwoWaySchema.Regex.Size

/-!
# Regular expressions

An engine for the patterns that can be read here, if they are not too large.  The pattern of a
regular expression is its identity: two are equal when their patterns are, even if others match the
same texts.
-/

namespace TwoWaySchema

namespace Regex

/-- Why a pattern is no regular expression. -/
inductive Fault where
  | unreadable
  | tooLarge
deriving DecidableEq, Repr

/-- What a message says about a pattern; the details of what cannot be read are left out. -/
def Fault.text : Fault → String
  | unreadable => "regex parse error"
  | tooLarge => s!"Compiled regex exceeds size limit of {Node.sizeLimit} bytes."

def Node.ofPattern (pattern : String) : Except Fault Node :=
  match Node.ofPattern? pattern with
  | none => .error .unreadable
  | some node => if node.isTooLarge then .error .tooLarge else .ok node

end Regex

structure Regex where
  pattern : String
  node : Regex.Node
  isRead : Regex.Node.ofPattern pattern = .ok node

namespace Regex

theorem ext_pattern {a b : Regex} (h : a.pattern = b.pattern) : a = b := by
  obtain ⟨p, n, hn⟩ := a
  obtain ⟨q, m, hm⟩ := b
  obtain rfl : p = q := h
  obtain rfl : n = m := Except.ok.inj (hn.symm.trans hm)
  rfl

instance : DecidableEq Regex := fun a b ↦
  if h : a.pattern = b.pattern then .isTrue (ext_pattern h)
  else .isFalse fun hab ↦ h (congrArg pattern hab)

def ofPattern (pattern : String) : Except Fault Regex :=
  match h : Node.ofPattern pattern with
  | .ok node => .ok ⟨pattern, node, h⟩
  | .error fault => .error fault

def isMatch (r : Regex) (text : String) : Bool :=
  r.node.isMatch text

theorem pattern_of_ofPattern {pattern : String} {r : Regex} (h : ofPattern pattern = .ok r) :
    r.pattern = pattern := by
  unfold ofPattern at h
  split at h
  next => rw [← Except.ok.inj h]
  next => cases h

/-- The engine of this library. -/
instance engine : Engine Regex where
  compile p := (ofPattern p).mapError Fault.text
  pattern := pattern
  isMatch := isMatch
  pattern_of_compile {p r} h := by
    cases hread : ofPattern p with
    | ok r' =>
      rw [hread] at h
      exact Except.ok.inj h ▸ pattern_of_ofPattern hread
    | error fault =>
      rw [hread] at h
      cases h

end Regex

end TwoWaySchema
