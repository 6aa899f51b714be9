import CollectionQuery.Page
import CollectionQuery.Proofs.Outcome
import Mathlib.Algebra.Order.Ring.Int

/-!
# The number of pages

A total of at most 256 bits, divided by the length of a page, is far below the greatest floating
point number, so its place in the result can always be told.  No collection has more rows, for they
have different identifiers.
-/

namespace CollectionQuery

open CollectionQuery.Number

theorem Number.isWord_iff {n : Int} :
    isWord n = true ↔ -9223372036854775808 ≤ n ∧ n < 9223372036854775808 :=
  decide_eq_true_iff

/-- A word has less than 256 bits. -/
theorem Number.natAbs_lt_of_isWord {n : Int} (h : isWord n = true) : n.natAbs < 2 ^ 256 := by
  have hbounds := isWord_iff.1 h
  omega

theorem Number.digitCount_le {n bits : Nat} (hbits : 0 < bits) (h : n < 2 ^ bits) :
    digitCount 2 n ≤ bits := by
  rw [digitCount]
  split
  · omega
  · exact (Nat.length_toDigits_le_iff (by decide) hbits).2 h

/-- A ratio has at most one digit more than its numerator. -/
theorem Number.magnitude_le (num den : Nat) :
    magnitude 2 num den ≤ (digitCount 2 num : Int) + 1 := by
  simp only [magnitude]
  split <;> omega

/-- A ratio whose numerator has at most 256 bits rounds to a finite number. -/
theorem Number.Binary64.ofRatio_ne_infinity {num : Nat} (h : num < 2 ^ 256)
    (negative : Bool) (den : Nat) (sign : Bool) : ofRatio negative num den ≠ .infinity sign := by
  have hcount := digitCount_le (by decide) h
  have hmagnitude := magnitude_le num den
  rw [ofRatio]
  split
  · simp [zero]
  · dsimp only
    rw [if_neg]
    · simp
    · have hcarry : ∀ (carried : Prop) [Decidable carried] (exponent : Int),
          (if carried then exponent + 1 else exponent) ≤ exponent + 1 := by
        intro carried _ exponent
        split <;> omega
      refine not_lt.2 ((hcarry _ _).trans ?_)
      simp only [maxExponent, minExponent]
      omega

/-- The place of a page is known for every total of at most 256 bits. -/
theorem PageMeta.exists_of {limit total : Int} (page : Int) (hlimit : 1 ≤ limit)
    (htotal : total.natAbs < 2 ^ 256) :
    ∃ info, PageMeta.of page limit total = .ok info ∧ info.totalItems = total := by
  have hcount : ∃ pages, pageCount limit total = .ok pages := by
    rw [pageCount]
    split
    · rw [floatQuotient, if_neg (by omega)]
      have hfinite := Number.Binary64.ofRatio_ne_infinity htotal
        (decide (total < 0) != decide (limit < 0)) limit.natAbs
      split
      · next sign hinfinite => exact absurd hinfinite (hfinite sign)
      · exact ⟨_, rfl⟩
    · exact ⟨0, rfl⟩
  obtain ⟨pages, hpages⟩ := hcount
  rw [PageMeta.of, hpages]
  exact ⟨_, rfl, rfl⟩

end CollectionQuery
