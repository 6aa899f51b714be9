import CollectionQuery.Truth
import Mathlib.Order.Lattice
import Mathlib.Order.MinMax

/-!
# The order of truth values

`no` lies below `unknown`, and `unknown` below `yes`.  The conjunction of two truth values is their
minimum and the disjunction their maximum, so each distributes over the other.
-/

namespace CollectionQuery.Truth

/-- The place of a truth value in the order. -/
def rank : Truth → Nat
  | no => 0
  | unknown => 1
  | yes => 2

theorem rank_injective : Function.Injective rank := by
  intro x y h
  cases x <;> cases y <;> simp_all [rank]

instance : LinearOrder Truth := LinearOrder.lift' rank rank_injective

theorem and_eq_min (x y : Truth) : x.and y = min x y := by
  cases x <;> cases y <;> rfl

theorem or_eq_max (x y : Truth) : x.or y = max x y := by
  cases x <;> cases y <;> rfl

theorem le_yes (x : Truth) : x ≤ yes := by
  cases x <;> decide

theorem no_le (x : Truth) : no ≤ x := by
  cases x <;> decide

@[simp] theorem min_yes (x : Truth) : min x yes = x := min_eq_left (le_yes x)

@[simp] theorem yes_min (x : Truth) : min yes x = x := min_eq_right (le_yes x)

@[simp] theorem min_no (x : Truth) : min x no = no := min_eq_right (no_le x)

@[simp] theorem max_no (x : Truth) : max x no = x := max_eq_left (no_le x)

@[simp] theorem no_max (x : Truth) : max no x = x := max_eq_right (no_le x)

@[simp] theorem holds_eq_true {x : Truth} : x.holds = true ↔ x = yes := by
  simp [holds]

@[simp] theorem ofBool_eq_yes {b : Bool} : ofBool b = yes ↔ b = true := by
  cases b <;> decide

theorem not_eq_yes {x : Truth} : x.not = yes ↔ x = no := by
  cases x <;> decide

theorem ofBool_and (a b : Bool) : (ofBool a).and (ofBool b) = ofBool (a && b) := by
  cases a <;> cases b <;> rfl

theorem min_eq_yes {x y : Truth} : min x y = yes ↔ x = yes ∧ y = yes := by
  cases x <;> cases y <;> decide

theorem max_eq_yes {x y : Truth} : max x y = yes ↔ x = yes ∨ y = yes := by
  cases x <;> cases y <;> decide

end CollectionQuery.Truth
