import CollectionQuery.Proofs.Cell.Operand
import CollectionQuery.Proofs.Clause.Meaning
import CollectionQuery.Proofs.Comparison.Faults
import CollectionQuery.Proofs.Number.Truncation
import Mathlib.Order.Compare

/-!
# Integers compared with numbers

A column of integers takes a number with a fractional part for its integer part, and is then
compared with that.  This makes no difference to the integers on either side.  Of the integer part
itself it *errs*: it counts as equal to the number and as neither below nor above it.
-/

namespace CollectionQuery

open CollectionQuery.Number

variable {column : Column} {path name : String} {op : Operator} {v w : Value} {bits : Nat} {q : ℚ}
  {n k : Int}

/-- The numbers of a document. -/
inductive Value.IsNumber : Value → Prop
  | int (n : Int) : IsNumber (.int n)
  | float (x : Binary64) : IsNumber (.float x)

/-- The exact number that a value denotes. -/
def Value.quantity? (v : Value) : Option ℚ := v.ratio?.map quotient

theorem Value.quantity?_int (n : Int) : (int n).quantity? = some (n : ℚ) :=
  congrArg some (quotient_one n)

/-! ## Relations -/

namespace Operator

/-- The operators that compare with one value by order. -/
def comparing : List Operator := [eq, ne, gt, gte, lt, lte]

/-- The relation that an operator asks for. -/
def Relates {α : Type} [LT α] [LE α] (op : Operator) (a b : α) : Prop :=
  match op with
  | eq => a = b
  | ne => a ≠ b
  | gt => b < a
  | gte => b ≤ a
  | lt => a < b
  | lte => a ≤ b
  | _ => False

/-- The places in an order that an operator accepts. -/
def accepts (op : Operator) : Ordering → Bool :=
  match op with
  | eq => (· == .eq)
  | ne => (· != .eq)
  | gt => (· == .gt)
  | gte => (· != .lt)
  | lt => (· == .lt)
  | lte => (· != .gt)
  | _ => fun _ => false

theorem accepts_compare : op.accepts (compare n k) = true ↔ op.Relates n k := by
  cases op with
  | eq => simp [accepts, Relates]
  | ne => simp [accepts, Relates]
  | gt => simp [accepts, Relates, compare_gt_iff_gt]
  | gte => simp [accepts, Relates, compare_ge_iff_ge]
  | lt => simp [accepts, Relates, compare_lt_iff_lt]
  | lte => simp [accepts, Relates, compare_le_iff_le]
  | _ => simp [accepts, Relates]

/-- The comparisons with a number that come out otherwise for its integer part. -/
@[mk_iff]
inductive Errs (n : Int) (q : ℚ) : Operator → Prop
  | eq (whole : n = towardZero q) (part : (n : ℚ) ≠ q) : Errs n q .eq
  | ne (whole : n = towardZero q) (part : (n : ℚ) ≠ q) : Errs n q .ne
  | lt (whole : n = towardZero q) (below : (n : ℚ) < q) : Errs n q .lt
  | gte (whole : n = towardZero q) (below : (n : ℚ) < q) : Errs n q .gte
  | gt (whole : n = towardZero q) (above : q < (n : ℚ)) : Errs n q .gt
  | lte (whole : n = towardZero q) (above : q < (n : ℚ)) : Errs n q .lte

theorem relates_towardZero_of_ne (h : n ≠ towardZero q) :
    op.Relates n (towardZero q) ↔ op.Relates (n : ℚ) q := by
  have hne := ne_of_ne_towardZero h
  cases op with
  | eq => exact iff_of_false h hne
  | ne => exact iff_of_true h hne
  | gt => exact (gt_iff_gt_towardZero h).symm
  | gte =>
      show towardZero q ≤ n ↔ q ≤ n
      rw [← not_lt, ← not_lt, lt_iff_lt_towardZero h]
  | lt => exact (lt_iff_lt_towardZero h).symm
  | lte =>
      show n ≤ towardZero q ↔ n ≤ q
      rw [← not_lt, ← not_lt, gt_iff_gt_towardZero h]
  | _ => exact Iff.rfl

/-- The integer part stands in the relation that the number stands in unless the operator errs. -/
theorem relates_towardZero_iff (hop : op ∈ comparing) :
    (op.Relates n (towardZero q) ↔ op.Relates (n : ℚ) q) ↔ ¬ Errs n q op := by
  by_cases hne : n = towardZero q
  · rw [← hne]
    simp only [comparing, List.mem_cons, List.not_mem_nil, or_false] at hop
    rcases hop with rfl | rfl | rfl | rfl | rfl | rfl
    all_goals simp [Relates, errs_iff, ← hne]
  · refine iff_of_true (relates_towardZero_of_ne hne) ?_
    intro herrs
    cases herrs with
    | eq whole | ne whole | lt whole | gte whole | gt whole | lte whole => exact hne whole

end Operator

/-! ## Values of columns of integers -/

namespace Coercion

/-- A column of integers takes a number for its integer part, if that has the size of the column. -/
theorem integer_of_isNumber (h : v.IsNumber) : integer name bits v =
    match v.quantity? with
    | some q => checkInteger name bits (towardZero q)
    | none => refuse name .numberInRange := by
  cases h with
  | int n =>
      rw [Value.quantity?_int]
      dsimp only
      rw [towardZero_intCast]
      rfl
  | float x =>
      rw [integer, Binary64.truncate?, Value.quantity?, Value.ratio?]
      cases hratio : x.ratio? with
      | none => rfl
      | some r =>
          show checkInteger name bits (Int.tdiv r.1 r.2) = _
          rw [tdiv_eq_towardZero (Binary64.ratio_pos hratio)]
          rfl

end Coercion

/-! ## Comparisons -/

theorem Operand.bind_int (h : isWord k = true) :
    (Operand.single (.integer bits) (.int k)).bind = .ok (.int k) := if_pos h

theorem Cell.relate_int (accepts : Ordering → Bool) (n k : Int) :
    (Cell.int n).relate accepts (.int k) = .ofBool (accepts (Ord.compare n k)) := by
  simp [Cell.relate, Cell.isNull, Cell.compare, Cell.number?, compareRatios]

namespace Comparison

/-- The test of a comparison with one value that has a place in an order. -/
theorem columnTest_comparing (hop : op ∈ Operator.comparing) (path : String)
    (hasks : asksDay column op v = false) (hread : column.kind.coerce column.name v = .ok w)
    (hnull : w.isNull = false) (hbool : ∀ b, w ≠ .bool b) :
    columnTest column path op v = .ok (.relates op.accepts (.single column.kind w)) := by
  simp only [Operator.comparing, List.mem_cons, List.not_mem_nil, or_false] at hop
  rcases hop with rfl | rfl | rfl | rfl | rfl | rfl
  all_goals
    rw [columnTest_of_coerces rfl, hasks, coerced_unary rfl rfl, hread]
    cases w with
    | null => cases hnull
    | bool b => exact absurd rfl (hbool b)
    | _ => rfl

variable (hkind : column.kind = .integer bits)
include hkind

/-- A number is taken if it has an integer part of the size of the column. -/
theorem coerce_number (h : v.IsNumber) : column.kind.coerce column.name v = .ok w ↔
    ∃ q, v.quantity? = some q ∧ fits bits (towardZero q) = true ∧ w = .int (towardZero q) := by
  have hcoerce : column.kind.coerce column.name v =
      (Coercion.integer column.name bits v).map .int := by
    rw [hkind]
    cases h <;> rfl
  rw [hcoerce, Coercion.integer_of_isNumber h, map_eq_ok]
  cases v.quantity? with
  | none => simp [Coercion.refuse]
  | some q =>
      simp only [Coercion.checkInteger_eq_ok, Option.some.injEq, exists_eq_left']
      constructor
      · rintro ⟨k, ⟨rfl, hfits⟩, rfl⟩
        exact ⟨hfits, rfl⟩
      · rintro ⟨hfits, rfl⟩
        exact ⟨_, ⟨rfl, hfits⟩, rfl⟩

/-- An integer is compared with what a column of integers takes. -/
theorem passes_int_iff (hbits : bits ≤ 64) (hop : op ∈ Operator.comparing)
    (hread : column.kind.coerce column.name v = .ok (.int k)) (hfits : fits bits k = true) :
    Passes ⟨path, op, v⟩ column (.int n) ↔ op.Relates n k := by
  have hasks : asksDay column op v = false := by
    rw [asksDay, hkind]
    simp [ColumnKind.isMoment]
  have htest := columnTest_comparing hop path hasks hread rfl fun _ => Value.noConfusion
  have hbind : (Operand.single column.kind (.int k)).bind = .ok (.int k) := by
    rw [hkind, Operand.bind_int (fits_mono hbits hfits)]
  rw [passes_relates_iff htest hbind, Cell.relate_int, Truth.ofBool_eq_yes,
    Operator.accepts_compare]

omit hkind

/-! ## Numbers with fractional parts -/

/-- A column of integers takes a number for its integer part, which is the number only if that is an
integer.  An integer passes a comparison if it stands in the relation to the number, unless the
operator errs. -/
structure TakesIntegerPart (column : Column) (path : String) (v : Value) (q : ℚ) : Prop where
  read : column.kind.coerce column.name v = .ok (.int (towardZero q))
  same : (Value.int (towardZero q)).quantity? = some q ↔ q.den = 1
  compared : ∀ op ∈ Operator.comparing, ∀ n : Int,
    ((Passes ⟨path, op, v⟩ column (.int n) ↔ op.Relates (n : ℚ) q) ↔ ¬ Operator.Errs n q op)

/-- A column of integers takes the numbers whose integer parts it can hold, each for its integer
part. -/
theorem takes_integer_part (hkind : column.kind = .integer bits) (hbits : bits ≤ 64)
    (hnumber : v.IsNumber) (path : String) :
    ((column.kind.coerce column.name v).isOk = true ↔
      ∃ q, v.quantity? = some q ∧ fits bits (towardZero q) = true) ∧
    ∀ q, v.quantity? = some q → (column.kind.coerce column.name v).isOk = true →
      TakesIntegerPart column path v q := by
  have hreads (w : Value) := coerce_number (w := w) hkind hnumber
  have htaken : (column.kind.coerce column.name v).isOk = true ↔
      ∃ q, v.quantity? = some q ∧ fits bits (towardZero q) = true := by
    constructor
    · intro hok
      obtain ⟨w, hw⟩ := exists_eq_ok_of_isOk hok
      obtain ⟨q, hq, hfits, -⟩ := (hreads w).1 hw
      exact ⟨q, hq, hfits⟩
    · rintro ⟨q, hq, hfits⟩
      rw [(hreads _).2 ⟨q, hq, hfits, rfl⟩]
      rfl
  refine ⟨htaken, fun q hq hok => ?_⟩
  obtain ⟨q', hq', hfits⟩ := htaken.1 hok
  obtain rfl : q' = q := Option.some.inj (hq'.symm.trans hq)
  have hread := (hreads _).2 ⟨q', hq, hfits, rfl⟩
  refine ⟨hread, ?_, ?_⟩
  · rw [Value.quantity?_int, Option.some.injEq, towardZero_eq_self]
  · intro op hop n
    rw [passes_int_iff hkind hbits hop hread hfits]
    exact Operator.relates_towardZero_iff hop

/-- The integer part of -2.5 is -2, and the integers below and above are told from -2.5 as they
should. -/
theorem takes_integer_part_negative :
    let column : Column := { name := "download_count", kind := .integer 32 }
    let value := Value.float (.finite true 5629499534213120 (-51))
    column.kind = .integer 32 ∧ 32 ≤ 64 ∧ value.IsNumber ∧
      value.quantity? = some (-5 / 2) ∧
      column.kind.coerce column.name value = .ok (.int (-2)) ∧
      Passes ⟨"download_count", .lt, value⟩ column (.int (-3)) ∧
      ¬ Passes ⟨"download_count", .lte, value⟩ column (.int (-1)) := by
  intro column value
  have hnumber : value.IsNumber := .float _
  have hquantity : value.quantity? = some (-5 / 2) := by decide +kernel
  have hpart : towardZero (-5 / 2) = -2 := by decide +kernel
  have hcolumn : column.kind = .integer 32 := rfl
  obtain ⟨htaken, htakes⟩ := takes_integer_part hcolumn (by decide) hnumber "download_count"
  have hok := htaken.2 ⟨_, hquantity, by rw [hpart]; decide⟩
  obtain ⟨hread, -, hcompared⟩ := htakes _ hquantity hok
  have hright {op : Operator} (hop : op ∈ Operator.comparing) {n : Int} (hn : n ≠ -2) :
      Passes ⟨"download_count", op, value⟩ column (.int n) ↔ op.Relates (n : ℚ) (-5 / 2) := by
    refine (hcompared op hop n).2 fun herrs => hn ?_
    rw [← hpart]
    cases herrs <;> assumption
  refine ⟨hcolumn, by decide, hnumber, hquantity, ?_, ?_, ?_⟩
  · rw [hread, hpart]
  · exact (hright (by decide) (by decide)).2 (by norm_num [Operator.Relates])
  · rw [hright (by decide) (by decide)]
    norm_num [Operator.Relates]

/-- A number is taken that the column does not hold: 2.5 becomes 2.  Then 2 is not found below 2.5,
but as equal to it. -/
theorem half_is_lost :
    let column : Column := { name := "download_count", kind := .integer 32 }
    let value := Value.float (.finite false 5629499534213120 (-51))
    value.quantity? = some (5 / 2) ∧
      column.kind.coerce column.name value = .ok (.int 2) ∧
      (Value.int 2).quantity? ≠ value.quantity? ∧
      ¬ Passes ⟨"download_count", .lt, value⟩ column (.int 2) ∧
      Passes ⟨"download_count", .eq, value⟩ column (.int 2) := by
  intro column value
  have hquantity : value.quantity? = some (5 / 2) := by decide +kernel
  have hread : column.kind.coerce column.name value = .ok (.int 2) := by
    have hpart : towardZero (5 / 2) = 2 := by decide +kernel
    refine (coerce_number rfl (.float _)).2 ⟨5 / 2, hquantity, ?_, ?_⟩
    · rw [hpart]
      decide
    · rw [hpart]
  have hpasses {op : Operator} (hop : op ∈ Operator.comparing) :
      Passes ⟨"download_count", op, value⟩ column (.int 2) ↔ op.Relates (2 : Int) 2 :=
    passes_int_iff rfl (by decide) hop hread (by decide)
  refine ⟨hquantity, hread, by decide +kernel, ?_, ?_⟩
  · rw [hpasses (by decide)]
    exact lt_irrefl _
  · rw [hpasses (by decide)]
    rfl

end Comparison

end CollectionQuery
