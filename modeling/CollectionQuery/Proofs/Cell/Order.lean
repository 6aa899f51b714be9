import CollectionQuery.Cell
import Mathlib.Algebra.Order.Ring.Int
import Mathlib.Tactic.Ring

/-!
# The order of cells

Cells are ordered by the place of their kind first, and inside one kind by their numbers, texts,
times or identifiers.  So the order is transitive and of two cells one is at most the other.  Null
comes before everything else.
-/

namespace CollectionQuery

open CollectionQuery.Number CollectionQuery.Calendar Std

/-! ## Ratios -/

/-- A ratio with a positive denominator. -/
def Ratio : Type := { r : Int × Nat // 0 < r.2 }

instance : Ord Ratio := ⟨fun a b => compareRatios a.1 b.1⟩

theorem Ratio.isLE_compare {a b : Ratio} :
    (compare a b).isLE ↔ a.1.1 * (b.1.2 : Int) ≤ b.1.1 * (a.1.2 : Int) :=
  Int.isLE_compare

instance : TransOrd Ratio where
  eq_swap := OrientedOrd.eq_swap (α := Int)
  isLE_trans := by
    intro a b c hab hbc
    rw [Ratio.isLE_compare] at *
    have ha : (0 : Int) < a.1.2 := by exact_mod_cast a.2
    have hb : (0 : Int) < b.1.2 := by exact_mod_cast b.2
    have hc : (0 : Int) < c.1.2 := by exact_mod_cast c.2
    -- Both sides times the denominator in the middle.
    have h : a.1.1 * (c.1.2 : Int) * b.1.2 ≤ c.1.1 * (a.1.2 : Int) * b.1.2 := by
      calc a.1.1 * (c.1.2 : Int) * b.1.2 = a.1.1 * b.1.2 * c.1.2 := by ring
        _ ≤ b.1.1 * a.1.2 * c.1.2 := mul_le_mul_of_nonneg_right hab hc.le
        _ = b.1.1 * c.1.2 * a.1.2 := by ring
        _ ≤ c.1.1 * b.1.2 * a.1.2 := mul_le_mul_of_nonneg_right hbc ha.le
        _ = c.1.1 * a.1.2 * b.1.2 := by ring
    exact le_of_mul_le_mul_right h hb

/-! ## Times -/

theorem transCmp_date : TransCmp Date.compare :=
  inferInstanceAs (TransCmp (compareLex (compareOn Date.year)
    (compareLex (compareOn Date.month) (compareOn Date.day))))

instance : Ord Date := ⟨Date.compare⟩

instance : TransOrd Date := transCmp_date

theorem transCmp_dateTime : TransCmp DateTime.compare :=
  inferInstanceAs (TransCmp (compareLex (compareOn DateTime.date)
    (compareOn fun t => t.time.micros)))

instance : Ord DateTime := ⟨DateTime.compare⟩

instance : TransOrd DateTime := transCmp_dateTime

/-! ## Cells -/

theorem Binary64.ratio_pos {x : Binary64} {r : Int × Nat} (h : x.ratio? = some r) : 0 < r.2 := by
  cases x with
  | nan => cases h
  | infinity negative => cases h
  | finite negative mantissa exponent =>
      cases h
      simp only [scaleRatio]
      split
      · exact Nat.mul_pos Nat.one_pos (Nat.pow_pos (Nat.succ_pos 1))
      · exact Nat.one_pos

namespace Cell

theorem number_pos {c : Cell} {m : Int × Int × Nat} (h : c.number? = some m) : 0 < m.2.2 := by
  match c with
  | null | text _ | moment _ | uuid _ | hash _ => cases h
  | bool _ | int _ | real (.infinity _) | real .nan =>
      cases h
      exact Nat.one_pos
  | real (.finite negative mantissa exponent) =>
      rw [number?] at h
      · obtain ⟨r, hr, rfl⟩ := Option.map_eq_some_iff.1 h
        exact Binary64.ratio_pos hr
      all_goals simp

theorem number_isSome {c : Cell} (h : c.rank = 1) : c.number?.isSome = true := by
  match c with
  | null | text _ | moment _ | uuid _ | hash _ => cases h
  | bool _ | int _ | real (.infinity _) | real .nan => rfl
  | real (.finite _ _ _) => rfl

theorem number_eq_none {c : Cell} (h : c.rank ≠ 1) : c.number? = none := by
  match c with
  | null | text _ | moment _ | uuid _ | hash _ => rfl
  | bool _ | int _ | real _ => exact absurd rfl h

/-- The place of a number among the infinities; that of other cells does not count. -/
def place (c : Cell) : Int := (c.number?.map (·.1)).getD 0

/-- The ratio of a number; that of other cells does not count. -/
def ratio (c : Cell) : Ratio :=
  match h : c.number? with
  | some m => ⟨m.2, number_pos h⟩
  | none => ⟨(0, 1), Nat.one_pos⟩

/-- The text of a cell; that of cells without one does not count. -/
def textOf : Cell → String
  | text s => s
  | _ => ""

/-- The time of a cell; that of cells without one does not count. -/
def momentOf : Cell → DateTime
  | moment t => t
  | _ => default

/-- The number of an identifier; that of other cells does not count. -/
def uuidOf : Cell → Nat
  | uuid u => u.value
  | _ => 0

/-- The order by the place of the kind, and then by what cells of one kind are ordered by. -/
def keyOrder : Cell → Cell → Ordering :=
  compareLex (compareOn rank) <| compareLex (compareOn place) <| compareLex (compareOn ratio) <|
    compareLex (compareOn textOf) <| compareLex (compareOn momentOf) (compareOn uuidOf)

instance : TransCmp keyOrder :=
  inferInstanceAs (TransCmp (compareLex (compareOn rank) _))

theorem compare_of_numbers {a b : Cell} {m n : Int × Int × Nat} (ha : a.number? = some m)
    (hb : b.number? = some n) :
    a.compare b = (Ord.compare m.1 n.1).then (compareRatios m.2 n.2) := by
  unfold compare
  split
  · cases ha
  · cases ha
  · cases ha
  · rw [ha, hb]

theorem compare_of_rank_ne {a b : Cell} (h : a.rank ≠ b.rank) :
    a.compare b = Ord.compare a.rank b.rank := by
  unfold compare
  split
  · exact absurd rfl h
  · exact absurd rfl h
  · exact absurd rfl h
  · split
    next ha hb =>
      have hrank : a.rank = 1 ∧ b.rank = 1 := by
        constructor <;> by_contra hne
        · rw [number_eq_none hne] at ha
          cases ha
        · rw [number_eq_none hne] at hb
          cases hb
      exact absurd (hrank.1.trans hrank.2.symm) h
    next => rfl

theorem ratio_of_number {c : Cell} {m : Int × Int × Nat} (h : c.number? = some m) :
    c.ratio = ⟨m.2, number_pos h⟩ := by
  unfold ratio
  split
  next n hn =>
    rw [h] at hn
    cases hn
    rfl
  next hn =>
    rw [h] at hn
    cases hn

theorem keyOrder_eq (a b : Cell) :
    a.keyOrder b = (Ord.compare a.rank b.rank).then ((Ord.compare a.place b.place).then
      ((Ord.compare a.ratio b.ratio).then ((Ord.compare a.textOf b.textOf).then
        ((Ord.compare a.momentOf b.momentOf).then (Ord.compare a.uuidOf b.uuidOf))))) := rfl

/-- Two numbers are ordered as numbers by all their keys. -/
theorem keyOrder_of_numbers {a b : Cell} (ha : a.rank = 1) (hb : b.rank = 1) :
    a.keyOrder b = (Ord.compare a.place b.place).then (Ord.compare a.ratio b.ratio) := by
  have htext : a.textOf = b.textOf ∧ a.momentOf = b.momentOf ∧ a.uuidOf = b.uuidOf := by
    cases a <;> cases ha <;> cases b <;> cases hb <;> exact ⟨rfl, rfl, rfl⟩
  rw [keyOrder_eq, ha, hb, htext.1, htext.2.1, htext.2.2]
  simp only [ReflOrd.compare_self, Ordering.eq_then, Ordering.then_eq]

theorem compare_eq_keyOrder (a b : Cell) : a.compare b = a.keyOrder b := by
  by_cases hrank : a.rank = b.rank
  · by_cases hone : b.rank = 1
    · obtain ⟨m, hm⟩ := Option.isSome_iff_exists.1 (number_isSome (hrank.trans hone))
      obtain ⟨n, hn⟩ := Option.isSome_iff_exists.1 (number_isSome hone)
      rw [compare_of_numbers hm hn, keyOrder_of_numbers (hrank.trans hone) hone, place, place,
        ratio_of_number hm, ratio_of_number hn, hm, hn]
      rfl
    · rw [keyOrder_eq]
      cases a <;> cases b <;> simp [rank] at hrank hone <;>
        simp [compare, rank, place, ratio, number?, textOf, momentOf, uuidOf,
          ReflOrd.compare_self]
      -- What is left compares the ratio that does not count with itself.
      all_goals rfl
  · rw [compare_of_rank_ne hrank, keyOrder_eq]
    cases h : Ord.compare a.rank b.rank with
    | lt => rfl
    | gt => rfl
    | eq => exact absurd (LawfulEqOrd.eq_of_compare h) hrank

instance : TransCmp compare := by
  have h : compare = keyOrder := funext fun a => funext fun b => compare_eq_keyOrder a b
  rw [h]
  infer_instance

theorem compare_swap (a b : Cell) : a.compare b = (b.compare a).swap :=
  OrientedCmp.eq_swap

theorem compare_isLE_trans {a b c : Cell} (hab : (a.compare b).isLE = true)
    (hbc : (b.compare c).isLE = true) : (a.compare c).isLE = true :=
  TransCmp.isLE_trans hab hbc

theorem compare_null_left (c : Cell) : null.compare c = if c = null then .eq else .lt := by
  cases c <;> rfl

end Cell

end CollectionQuery
