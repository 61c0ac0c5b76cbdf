import TwoWaySchema.Shape

/-!
# Coercing shapes

Coercion turns the strict scalars of a shape into converting ones.  It passes through every shape
that wraps another one and through unions; containers keep the shapes of their parts as they are.
-/

namespace TwoWaySchema.Shape

variable {σ : Type}

def coerce : {α : Type} → Shape σ α → Shape σ α
  | _, string _ => string true
  | _, number _ => number true
  | _, integer _ => integer true
  | _, boolean _ => boolean true
  | _, optional inner => optional inner.coerce
  | _, nullable inner => nullable inner.coerce
  | _, orDefault inner value => orDefault inner.coerce value
  | _, transform inner f => transform inner.coerce f
  | _, andThen inner f => andThen inner.coerce f
  | _, recover inner f => recover inner.coerce f
  | _, refine inner accepts message => refine inner.coerce accepts message
  | _, map inner forward backward => map inner.coerce forward backward
  | _, tryMap inner forward backward => tryMap inner.coerce forward backward
  | _, union first second => union first.coerce second.coerce
  | _, s => s

end TwoWaySchema.Shape
