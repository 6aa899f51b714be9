import CollectionQuery.Proofs.Number.Rounding

/-!
# The exact number of pages

The number of pages is a floating point quotient rounded up.  A quotient that is no integer lies at
least `1 / limit` above the integer below it.  For a total of at most `2 ^ 53` that is at least half
of the distance between two neighbouring floating point numbers, and not exactly half, for the total
would be `2 ^ 53` then and the quotient a floating point number.  So the quotient is never rounded
down to an integer, and the rounded one has the same ceiling.
-/

namespace CollectionQuery

open CollectionQuery.Number

variable {num den k : Nat} {exponent limit total : Int}

/-! ## Mantissas -/

/-- An integer is one in steps of a smaller power too. -/
theorem div_two_zpow (k : Nat) (hexponent : exponent ≤ 0) :
    (k : ℚ) / 2 ^ exponent = ((k * 2 ^ (-exponent).toNat : Nat) : ℚ) := by
  rw [Nat.cast_mul, Nat.cast_pow, Nat.cast_ofNat, ← zpow_natCast, Int.toNat_of_nonneg (by omega),
    zpow_neg, div_eq_mul_inv]

/-- A ratio that is rounded without loss. -/
theorem mantissaOf_of_exact (hden : 0 < den) (h : (num : ℚ) / den / 2 ^ exponent = k) :
    (mantissaOf num den exponent : ℚ) * 2 ^ exponent = (num : ℚ) / den := by
  have hpower : (2 : ℚ) ^ exponent ≠ 0 := zpow_ne_zero exponent two_ne_zero
  rw [← scaleRatio_eq_div] at h
  rw [mantissaOf, roundDiv_eq (scaleRatio_pos hden exponent) h, ← h, scaleRatio_eq_div,
    div_mul_cancel₀ _ hpower]

/-- An integer that is not below a ratio is not below the rounded one. -/
theorem mantissaOf_mul_le (hden : 0 < den) (hexponent : exponent ≤ 0)
    (h : (num : ℚ) / den ≤ k) : (mantissaOf num den exponent : ℚ) * 2 ^ exponent ≤ k := by
  have hpower : (0 : ℚ) < 2 ^ exponent := zpow_pos two_pos exponent
  rw [← le_div_iff₀ hpower, div_two_zpow k hexponent]
  have hscaled : (num : ℚ) / den / 2 ^ exponent ≤ ((k * 2 ^ (-exponent).toNat : Nat) : ℚ) := by
    rw [← div_two_zpow k hexponent]
    exact div_le_div_of_nonneg_right h hpower.le
  rw [← scaleRatio_eq_div] at hscaled
  exact_mod_cast roundDiv_le (scaleRatio_pos hden exponent) hscaled

/-- An integer below a ratio of small numbers is below the rounded one, unless that is exact. -/
theorem lt_mantissaOf_mul (hden : 0 < den) (hexponent : exponent ≤ 0) (hmost : num ≤ 2 ^ 53)
    (hbits : (2 : ℚ) ^ 52 ≤ (num : ℚ) / den / 2 ^ exponent)
    (hinexact : (num : ℚ) / den / 2 ^ exponent ≠ ((2 ^ 52 : Nat) : ℚ))
    (h : (k : ℚ) < (num : ℚ) / den) :
    (k : ℚ) < (mantissaOf num den exponent : ℚ) * 2 ^ exponent := by
  have hpower : (0 : ℚ) < 2 ^ exponent := zpow_pos two_pos exponent
  have hpos : (0 : ℚ) < den := by exact_mod_cast hden
  -- The ratio is at least one part of the denominator above the integer.
  have habove : (k : ℚ) / 2 ^ exponent + 1 / den / 2 ^ exponent ≤
      (num : ℚ) / den / 2 ^ exponent := by
    have hnat : k * den + 1 ≤ num := by
      have hlt := (lt_div_iff₀ hpos).1 h
      exact_mod_cast hlt
    have hstep : (k : ℚ) + 1 / den ≤ (num : ℚ) / den := by
      rw [le_div_iff₀ hpos, add_mul, one_div, inv_mul_cancel₀ hpos.ne']
      exact_mod_cast hnat
    rw [← add_div]
    exact div_le_div_of_nonneg_right hstep hpower.le
  -- One part of the denominator is at least half of the distance.
  have hpart : (num : ℚ) / den / 2 ^ exponent = num * (1 / den / 2 ^ exponent) := by
    rw [div_eq_mul_one_div (num : ℚ), mul_div_assoc]
  have hparts : (num : ℚ) * (1 / den / 2 ^ exponent) ≤ 2 ^ 53 * (1 / den / 2 ^ exponent) := by
    refine mul_le_mul_of_nonneg_right (by exact_mod_cast hmost) ?_
    exact (div_pos (one_div_pos.2 hpos) hpower).le
  have hhalf : (1 : ℚ) / 2 ≤ 1 / den / 2 ^ exponent := by linarith
  rw [← div_lt_iff₀ hpower, div_two_zpow k hexponent]
  have hround : ((k * 2 ^ (-exponent).toNat : Nat) : ℚ) + 1 / 2 <
      (num : ℚ) / den / 2 ^ exponent := by
    rw [← div_two_zpow k hexponent]
    by_contra hle
    have hexact : (num : ℚ) / den / 2 ^ exponent = (2 : ℚ) ^ 52 := by linarith
    exact hinexact (hexact.trans (by norm_num))
  rw [← scaleRatio_eq_div] at hround
  exact_mod_cast lt_roundDiv (scaleRatio_pos hden exponent) hround

/-- The ceiling of a ratio of small numbers is that of the rounded one. -/
theorem ceil_mantissaOf (hnum : 0 < num) (hden : 0 < den) (hmost : num ≤ 2 ^ 53)
    (hbits : (2 : ℚ) ^ 52 ≤ (num : ℚ) / den / 2 ^ exponent) :
    ⌈(mantissaOf num den exponent : ℚ) * 2 ^ exponent⌉ = ⌈(num : ℚ) / den⌉ := by
  have hpower : (0 : ℚ) < 2 ^ exponent := zpow_pos two_pos exponent
  have hpos : (0 : ℚ) < den := by exact_mod_cast hden
  by_cases hexact : (num : ℚ) / den / 2 ^ exponent = ((2 ^ 52 : Nat) : ℚ)
  · rw [mantissaOf_of_exact hden hexact]
  have hexponent : exponent ≤ 0 := by
    -- With two or more to a step the ratio would be beyond its numerator.
    by_contra hlarge
    have htwo : (2 : ℚ) ≤ 2 ^ exponent := by
      have hmono := zpow_le_zpow_right₀ (a := (2 : ℚ)) one_le_two (not_le.1 hlarge)
      simpa using hmono
    have hratio : (num : ℚ) / den ≤ 2 ^ 53 := by
      have hden1 : (1 : ℚ) ≤ den := by exact_mod_cast hden
      exact (div_le_self (Nat.cast_nonneg num) hden1).trans (by exact_mod_cast hmost)
    have hle : (num : ℚ) / den / 2 ^ exponent ≤ 2 ^ 52 := by
      rw [div_le_iff₀ hpower]
      linarith
    exact hexact ((le_antisymm hle hbits).trans (by norm_num))
  obtain ⟨k, hk⟩ : ∃ k : Nat, ⌈(num : ℚ) / den⌉₊ = k + 1 :=
    Nat.exists_eq_add_one.2 (Nat.ceil_pos.2 (div_pos (by exact_mod_cast hnum) hpos))
  obtain ⟨hlow, hhigh⟩ := (Nat.ceil_eq_iff (Nat.succ_ne_zero k)).1 hk
  have hround : ⌈(mantissaOf num den exponent : ℚ) * 2 ^ exponent⌉₊ = k + 1 :=
    (Nat.ceil_eq_iff (Nat.succ_ne_zero k)).2
      ⟨lt_mantissaOf_mul hden hexponent hmost hbits hexact hlow,
        mantissaOf_mul_le hden hexponent hhigh⟩
  rw [← Int.natCast_ceil_eq_ceil (mul_nonneg (Nat.cast_nonneg _) hpower.le), hround, ← hk,
    Int.natCast_ceil_eq_ceil (div_nonneg (Nat.cast_nonneg num) hpos.le)]

/-! ## Quotients -/

theorem ceiling_eq {x : Binary64} {r : Int × Nat} (h : x.ratio? = some r) :
    ceiling x = ⌈quotient r⌉ := by
  rw [ceiling, h, quotient, Rat.ceil_intCast_div_natCast]

/-- The quotient of small numbers, rounded to a floating point number and then up. -/
theorem ceiling_ofRatio (hnum : 0 < num) (hden : 0 < den) (hmost : num ≤ 2 ^ 53)
    (hlongest : den ≤ 2 ^ 53) :
    ceiling (Binary64.ofRatio false num den) = ⌈(num : ℚ) / den⌉ := by
  have hcount : digitCount 2 den ≤ 54 := digitCount_le (by decide) (by omega)
  have hdigits : 0 < digitCount 2 num := digitCount_pos hnum
  have hexponent : Binary64.minExponent ≤ magnitude 2 num den - 53 := by
    simp only [magnitude, Binary64.minExponent]
    split <;> omega
  have hbits : (2 : ℚ) ^ 52 ≤ (num : ℚ) / den / 2 ^ (magnitude 2 num den - 53) := by
    rw [le_div_iff₀ (zpow_pos two_pos _), ← zpow_natCast, ← zpow_add₀ two_ne_zero]
    have hmagnitude := two_zpow_magnitude_le hnum hden
    rwa [show magnitude 2 num den - 1 = ((52 : Nat) : Int) + (magnitude 2 num den - 53) by omega]
      at hmagnitude
  obtain ⟨mantissa, exponent, hround, hvalue⟩ := Binary64.ofRatio_value hnum hexponent
    fun sign => Binary64.ofRatio_ne_infinity (by omega) false den sign
  obtain ⟨r, hr, hquotient⟩ := Binary64.ratio?_finite mantissa exponent
  rw [hround, ceiling_eq hr, hquotient, hvalue]
  exact ceil_mantissaOf hnum hden hmost hbits

/-! ## Pages -/

theorem pageCount_eq (hlimit : 1 ≤ limit) (hlongest : limit ≤ 2 ^ 53) (htotal : 0 ≤ total)
    (hmost : total ≤ 2 ^ 53) : pageCount limit total = .ok ⌈(total : ℚ) / limit⌉ := by
  obtain ⟨den, rfl⟩ := Int.eq_ofNat_of_zero_le (Int.le_of_lt hlimit)
  obtain ⟨num, rfl⟩ := Int.eq_ofNat_of_zero_le htotal
  rw [pageCount]
  split
  · next hpos =>
      have hsign : (decide ((num : Int) < 0) != decide ((den : Int) < 0)) = false := by
        rw [decide_eq_false (by omega), decide_eq_false (by omega)]
        rfl
      have hbits : num < 2 ^ 256 := by omega
      have hfinite := Binary64.ofRatio_ne_infinity hbits false den
      have hceiling : ceiling (Binary64.ofRatio false num den) = ⌈(num : ℚ) / den⌉ :=
        ceiling_ofRatio (by omega) (by omega) (by omega) (by omega)
      rw [floatQuotient, if_neg (by omega), hsign, Int.natAbs_natCast, Int.natAbs_natCast]
      split
      · next sign hinfinite => exact absurd hinfinite (hfinite sign)
      · exact congrArg Except.ok (by simpa using hceiling)
  · next hpos =>
      obtain rfl : num = 0 := by omega
      simp

/-- The place of a page is exact for all lengths and totals that floating point numbers tell apart:
the number of pages is the quotient rounded up, there is a next page exactly if rows are left behind
this one, and a previous one exactly behind the first. -/
theorem PageMeta.place_exact (page : Int) (hlimit : 1 ≤ limit) (hlongest : limit ≤ 2 ^ 53)
    (htotal : 0 ≤ total) (hmost : total ≤ 2 ^ 53) :
    ∃ info, PageMeta.of page limit total = .ok info ∧
      info.currentPage = page ∧ info.items = limit ∧ info.totalItems = total ∧
      info.totalPages = ⌈(total : ℚ) / limit⌉ ∧
      (info.hasNextPage = true ↔ page * limit < total) ∧
      (info.hasPreviousPage = true ↔ 1 < page) := by
  rw [PageMeta.of, pageCount_eq hlimit hlongest htotal hmost]
  refine ⟨_, rfl, rfl, rfl, rfl, rfl, ?_, decide_eq_true_iff⟩
  have hpos : (0 : ℚ) < limit := by exact_mod_cast Int.lt_of_lt_of_le Int.one_pos hlimit
  rw [decide_eq_true_iff, Int.lt_ceil, lt_div_iff₀ hpos]
  exact_mod_cast Iff.rfl

/-- A third of the greatest total is no integer, and it is rounded up. -/
theorem PageMeta.place_exact_third : (1 : Int) ≤ 3 ∧ (3 : Int) ≤ 2 ^ 53 ∧ (0 : Int) ≤ 2 ^ 53 ∧
    (2 : Int) ^ 53 ≤ 2 ^ 53 ∧
    ∃ info, PageMeta.of 3002399751580330 3 (2 ^ 53) = .ok info ∧
      info.totalPages = 3002399751580331 ∧ info.hasNextPage = true := by
  have hlimit : (1 : Int) ≤ 3 := by norm_num
  have hlongest : (3 : Int) ≤ 2 ^ 53 := by norm_num
  have htotal : (0 : Int) ≤ 2 ^ 53 := by norm_num
  obtain ⟨info, hinfo, -, -, -, hpages, hnext, -⟩ :=
    PageMeta.place_exact 3002399751580330 hlimit hlongest htotal le_rfl
  refine ⟨hlimit, hlongest, htotal, le_rfl, info, hinfo, hpages.trans ?_, hnext.2 (by norm_num)⟩
  rw [Int.ceil_eq_iff]
  norm_num

end CollectionQuery
