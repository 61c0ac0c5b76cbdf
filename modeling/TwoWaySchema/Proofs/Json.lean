import TwoWaySchema.Json
import TwoWaySchema.Proofs.Sorted

/-!
# JSON values

Numbers are equal when they are equal numerically, so the equality of JSON values is not the
identity of values.  It is symmetric all the same.  Members in the order of their keys are those of
their object.
-/

namespace TwoWaySchema

theorem Double.beq_comm (x y : Double) : (x == y) = (y == x) := by
  change (!x.isNaN && !y.isNaN && x.position == y.position) =
    (!y.isNaN && !x.isNaN && y.position == x.position)
  rw [Bool.and_comm (!x.isNaN), BEq.comm (a := x.position)]

theorem Number.beq_comm : (a b : Number) → (a == b) = (b == a)
  | .whole a _, .whole _ _ => BEq.comm (a := a)
  | .real x _, .real y _ => Double.beq_comm x y
  | .whole _ _, .real _ _ | .real _ _, .whole _ _ => rfl

namespace Json

mutual

theorem equal_comm (x y : Json) : equal x y = equal y x := by
  cases x <;> cases y
  case bool.bool a b => exact BEq.comm
  case number.number a b => exact Number.beq_comm a b
  case string.string a b => exact BEq.comm
  case array.array xs ys => exact equalItems_comm xs ys
  case object.object xs ys => exact equalMembers_comm xs ys
  all_goals rfl

theorem equalItems_comm : (xs ys : List Json) → equalItems xs ys = equalItems ys xs
  | [], [] | [], _ :: _ | _ :: _, [] => rfl
  | x :: xs, y :: ys => by
    rw [equalItems, equalItems, equal_comm x y, equalItems_comm xs ys]

theorem equalMembers_comm :
    (xs ys : List (String × Json)) → equalMembers xs ys = equalMembers ys xs
  | [], [] | [], _ :: _ | _ :: _, [] => rfl
  | (a, x) :: xs, (b, y) :: ys => by
    rw [equalMembers, equalMembers, equal_comm x y, equalMembers_comm xs ys, BEq.comm (a := a)]

end

theorem beq_comm (x y : Json) : (x == y) = (y == x) :=
  equal_comm x y

theorem ofMembers_of_isAscending {members : List (String × Json)}
    (h : IsAscending (members.map Prod.fst)) : ofMembers members = .object members :=
  congrArg object (SortedMap.ofList_of_isAscending h)

end Json

end TwoWaySchema
