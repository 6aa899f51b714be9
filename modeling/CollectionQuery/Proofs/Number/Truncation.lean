import CollectionQuery.Proofs.Cell.Order
import Mathlib.Data.Rat.Floor
import Mathlib.Tactic.Linarith

/-!
# Integer parts

The integer part of a number is the next integer in the direction of zero.  An integer that is not
this one lies on the same side of the number and of its integer part, and the integer part itself
lies on the side of zero, unless the number is an integer.
-/

namespace CollectionQuery.Number

variable {q : ℚ} {n : Int} {r : Int × Nat}

/-- The number that a ratio is. -/
def quotient (r : Int × Nat) : ℚ := (r.1 : ℚ) / (r.2 : ℚ)

/-- The next integer in the direction of zero. -/
def towardZero (q : ℚ) : Int := if q < 0 then ⌈q⌉ else ⌊q⌋

theorem quotient_one (n : Int) : quotient (n, 1) = n := by
  simp [quotient]

@[simp] theorem towardZero_intCast (n : Int) : towardZero (n : ℚ) = n := by
  simp [towardZero]

/-- Only an integer is its own integer part. -/
theorem towardZero_eq_self : (towardZero q : ℚ) = q ↔ q.den = 1 := by
  constructor
  · intro h
    rw [← h]
    exact Rat.den_intCast _
  · intro h
    have hnum : (q.num : ℚ) = q := (Rat.den_eq_one_iff q).1 h
    rw [← hnum, towardZero_intCast]

/-- Division that drops the remainder gives the integer part. -/
theorem tdiv_eq_towardZero (h : 0 < r.2) : Int.tdiv r.1 r.2 = towardZero (quotient r) := by
  obtain ⟨num, den⟩ := r
  have hden : (0 : ℚ) < (den : ℚ) := by exact_mod_cast h
  -- The floor and the ceiling are quotients of integers once the sign is known.
  rcases le_or_gt 0 num with hnum | hnum
  · have hpos : ¬ quotient (num, den) < 0 :=
      not_lt.2 (div_nonneg (by exact_mod_cast hnum) hden.le)
    rw [towardZero, if_neg hpos, quotient, Rat.floor_intCast_div_natCast]
    exact Int.tdiv_eq_ediv_of_nonneg hnum
  · have hneg : quotient (num, den) < 0 := div_neg_of_neg_of_pos (by exact_mod_cast hnum) hden
    rw [towardZero, if_pos hneg, quotient, Rat.ceil_intCast_div_natCast,
      ← Int.tdiv_eq_ediv_of_nonneg (by omega), Int.neg_tdiv, neg_neg]

/-! ## Sides -/

/-- A number is less than one away from its integer part. -/
theorem near_towardZero (q : ℚ) : (towardZero q : ℚ) - 1 < q ∧ q < towardZero q + 1 := by
  rw [towardZero]
  split
  · have hle := Int.le_ceil q
    have hlt := Int.ceil_lt_add_one q
    constructor <;> linarith
  · have hle := Int.floor_le q
    have hlt := Int.lt_floor_add_one q
    constructor <;> linarith

theorem lt_iff_lt_towardZero (h : n ≠ towardZero q) : (n : ℚ) < q ↔ n < towardZero q := by
  obtain ⟨hbelow, habove⟩ := near_towardZero q
  constructor
  · intro hlt
    have hsucc : (n : ℚ) < ((towardZero q + 1 : Int) : ℚ) := by
      push_cast
      linarith
    have hle : n < towardZero q + 1 := by exact_mod_cast hsucc
    omega
  · intro hlt
    have hle : (n : ℚ) ≤ ((towardZero q - 1 : Int) : ℚ) := by
      exact_mod_cast Int.le_sub_one_of_lt hlt
    push_cast at hle
    linarith

theorem ne_of_ne_towardZero (h : n ≠ towardZero q) : (n : ℚ) ≠ q := by
  rintro rfl
  exact h (towardZero_intCast n).symm

theorem gt_iff_gt_towardZero (h : n ≠ towardZero q) : q < (n : ℚ) ↔ towardZero q < n := by
  have hside := lt_iff_lt_towardZero h
  have hne := ne_of_ne_towardZero h
  constructor
  · intro hgt
    have hnot : ¬ n < towardZero q := fun hlt => absurd (hside.2 hlt) (not_lt.2 hgt.le)
    omega
  · intro hgt
    have hnot : ¬ (n : ℚ) < q := fun hlt => absurd (hside.1 hlt) (not_lt.2 hgt.le)
    exact lt_of_le_of_ne (not_lt.1 hnot) hne.symm

end CollectionQuery.Number
