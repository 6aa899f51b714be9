import CollectionQuery.Proofs.Number.Digits
import CollectionQuery.Proofs.Number.Truncation
import Mathlib.Algebra.Order.Field.Power

/-!
# Rounding to floating point numbers

The mantissa of a ratio is the ratio divided by a power of two and rounded to the nearest integer.
The power is chosen such that the mantissa has 53 bits, so it is at least `2 ^ 52`.  Nothing is said
here about ratios below the least exponent.
-/

namespace CollectionQuery.Number

variable {num den k : Nat}

/-! ## Rounded quotients -/

theorem le_roundDiv (hden : 0 < den) (h : (k : ℚ) ≤ (num : ℚ) / den) : k ≤ roundDiv num den := by
  have hpos : (0 : ℚ) < den := by exact_mod_cast hden
  have hmul : k * den ≤ num := by exact_mod_cast (le_div_iff₀ hpos).1 h
  have hquotient : k ≤ num / den := (Nat.le_div_iff_mul_le hden).2 hmul
  rw [roundDiv]
  split_ifs <;> omega

theorem roundDiv_le (hden : 0 < den) (h : (num : ℚ) / den ≤ k) : roundDiv num den ≤ k := by
  have hpos : (0 : ℚ) < den := by exact_mod_cast hden
  have hmul : num ≤ k * den := by exact_mod_cast (div_le_iff₀ hpos).1 h
  have hquotient : num / den ≤ k := Nat.div_le_of_le_mul (by rwa [Nat.mul_comm] at hmul)
  have hdiv := Nat.div_add_mod num den
  rw [roundDiv]
  rcases hquotient.lt_or_eq with hlt | heq
  · split_ifs <;> omega
  · -- The quotient is exact, so nothing is left that could round it up.
    have hexact : num % den = 0 := by
      rw [heq, Nat.mul_comm] at hdiv
      omega
    rw [if_pos (by omega)]
    exact hquotient

theorem roundDiv_eq (hden : 0 < den) (h : (num : ℚ) / den = k) : roundDiv num den = k :=
  le_antisymm (roundDiv_le hden h.le) (le_roundDiv hden h.ge)

/-- What is more than half way to the next integer is not rounded down. -/
theorem lt_roundDiv (hden : 0 < den) (h : (k : ℚ) + 1 / 2 < (num : ℚ) / den) :
    k < roundDiv num den := by
  have hpos : (0 : ℚ) < den := by exact_mod_cast hden
  have hmul : (2 * k + 1) * den < 2 * num := by
    have hlt := (lt_div_iff₀ hpos).1 h
    have hdouble : (2 * (k : ℚ) + 1) * den < 2 * num := by linarith
    exact_mod_cast hdouble
  have hle : k ≤ num / den := by
    rw [Nat.le_div_iff_mul_le hden]
    by_contra hlt
    rw [Nat.add_mul, Nat.mul_assoc] at hmul
    omega
  have hdiv := Nat.div_add_mod num den
  rw [roundDiv]
  rcases hle.lt_or_eq with hlt | heq
  · split_ifs <;> omega
  · have hhalf : den < 2 * (num % den) := by
      rw [← heq] at hdiv
      rw [Nat.add_mul, Nat.mul_assoc, Nat.mul_comm k den] at hmul
      omega
    rw [if_neg (by omega), if_pos hhalf]
    omega

/-! ## Scaled ratios -/

theorem scaleRatio_pos (hden : 0 < den) (exponent : Int) :
    0 < (scaleRatio 2 num den exponent).2 := by
  rw [scaleRatio]
  split
  · exact Nat.mul_pos hden (Nat.pow_pos (Nat.succ_pos 1))
  · exact hden

/-- A scaled ratio is the ratio divided by the power. -/
theorem scaleRatio_eq_div (num den : Nat) (exponent : Int) :
    ((scaleRatio 2 num den exponent).1 : ℚ) / (scaleRatio 2 num den exponent).2 =
      (num : ℚ) / den / 2 ^ exponent := by
  have hcast (n : Nat) : ((Nat.pow 2 n : Nat) : ℚ) = 2 ^ (n : Int) := by
    rw [zpow_natCast]
    exact Nat.cast_pow 2 n
  rw [scaleRatio]
  split
  · next h =>
      rw [Nat.cast_mul, hcast, Int.toNat_of_nonneg h, div_mul_eq_div_div]
  · next h =>
      rw [Nat.cast_mul, hcast, Int.toNat_of_nonneg (by omega), zpow_neg, ← div_eq_mul_inv,
        div_right_comm]

/-- The mantissa of a ratio for an exponent. -/
def mantissaOf (num den : Nat) (exponent : Int) : Nat :=
  roundDiv (scaleRatio 2 num den exponent).1 (scaleRatio 2 num den exponent).2

/-! ## Magnitudes -/

theorem lt_two_pow_digitCount (k : Nat) : k < 2 ^ digitCount 2 k := by
  by_contra h
  exact absurd (lt_digitCount (not_lt.1 h)) (lt_irrefl _)

theorem two_pow_le_of_lt_digitCount {bits : Nat} (hk : 0 < k) (h : bits < digitCount 2 k) :
    2 ^ bits ≤ k := by
  rcases Nat.eq_zero_or_pos bits with rfl | hbits
  · exact hk
  · by_contra hlt
    exact absurd (digitCount_le hbits (not_le.1 hlt)) (not_le.2 h)

theorem digitCount_pos (hk : 0 < k) : 0 < digitCount 2 k :=
  lt_digitCount (show 2 ^ 0 ≤ k from hk)

/-- A positive ratio has at least as many digits as its magnitude says. -/
theorem two_zpow_magnitude_le (hnum : 0 < num) (hden : 0 < den) :
    (2 : ℚ) ^ (magnitude 2 num den - 1) ≤ (num : ℚ) / den := by
  have hpos : (0 : ℚ) < den := by exact_mod_cast hden
  have hratio := scaleRatio_eq_div num den ((digitCount 2 num : Int) - digitCount 2 den)
  have hscaled : (0 : ℚ) < ((scaleRatio 2 num den
      ((digitCount 2 num : Int) - digitCount 2 den)).2 : ℚ) := by
    exact_mod_cast scaleRatio_pos hden _
  have hpower (e : Int) : (0 : ℚ) < 2 ^ e := zpow_pos two_pos e
  rw [magnitude]
  split
  · next h =>
      have hone :
          (1 : ℚ) ≤ (num : ℚ) / den / 2 ^ ((digitCount 2 num : Int) - digitCount 2 den) := by
        rw [← hratio, one_le_div hscaled]
        exact_mod_cast h
      rw [add_sub_cancel_right]
      exact (one_le_div (hpower _)).1 hone
  · have hcount : 0 < digitCount 2 num := digitCount_pos hnum
    have hleast : (2 : ℚ) ^ ((digitCount 2 num : Int) - 1) ≤ num := by
      have hnat := two_pow_le_of_lt_digitCount hnum (Nat.sub_one_lt hcount.ne')
      rw [← Int.natCast_one, ← Int.ofNat_sub hcount, zpow_natCast]
      exact_mod_cast hnat
    have hmost : (den : ℚ) ≤ 2 ^ (digitCount 2 den : Int) := by
      rw [zpow_natCast]
      exact_mod_cast (lt_two_pow_digitCount den).le
    calc (2 : ℚ) ^ ((digitCount 2 num : Int) - digitCount 2 den - 1)
      _ = 2 ^ ((digitCount 2 num : Int) - 1) / 2 ^ (digitCount 2 den : Int) := by
        rw [← zpow_sub₀ two_ne_zero, sub_right_comm]
      _ ≤ (num : ℚ) / den := div_le_div₀ (Nat.cast_nonneg num) hleast hpos hmost

/-! ## Nearest numbers -/

namespace Binary64

/-- The exact value of a finite number. -/
theorem ratio?_finite (mantissa : Nat) (exponent : Int) : ∃ r,
    (finite false mantissa exponent).ratio? = some r ∧
      quotient r = (mantissa : ℚ) * 2 ^ exponent := by
  refine ⟨_, rfl, ?_⟩
  have hscaled := scaleRatio_eq_div mantissa 1 (-exponent)
  rw [Nat.cast_one, div_one, zpow_neg, div_inv_eq_mul] at hscaled
  rw [quotient, ← hscaled]
  rfl

/-- A ratio that rounds to a finite number rounds to its mantissa times a power of two, whether the
mantissa carries or not. -/
theorem ofRatio_value (hnum : 0 < num)
    (hexponent : minExponent ≤ magnitude 2 num den - 53)
    (hfinite : ∀ sign, ofRatio false num den ≠ infinity sign) :
    ∃ mantissa exponent, ofRatio false num den = finite false mantissa exponent ∧
      (mantissa : ℚ) * 2 ^ exponent =
        (mantissaOf num den (magnitude 2 num den - 53) : ℚ) * 2 ^ (magnitude 2 num den - 53) := by
  have hmax : max (magnitude 2 num den - 53) minExponent = magnitude 2 num den - 53 :=
    max_eq_left hexponent
  have hvalue := ofRatio.eq_1 false num den
  rw [if_neg hnum.ne', hmax] at hvalue
  dsimp only at hvalue
  split at hvalue
  · next hcarried =>
      split at hvalue
      · exact absurd hvalue (hfinite false)
      · refine ⟨_, _, hvalue, ?_⟩
        rw [mantissaOf, hcarried, zpow_add_one₀ two_ne_zero, Nat.cast_mul]
        ring
  · split at hvalue
    · exact absurd hvalue (hfinite false)
    · exact ⟨_, _, hvalue, rfl⟩

end Binary64

end CollectionQuery.Number
