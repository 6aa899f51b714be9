import CollectionQuery.Clause.OfPredicate
import CollectionQuery.Proofs.Calendar
import CollectionQuery.Proofs.Clause.Tests
import CollectionQuery.Proofs.Coercion
import CollectionQuery.Proofs.Operator

/-!
# Comparisons that meet a fault

A comparison of a column with a value that does not fit is rejected or misfits.  There are three
ways around this: a comparison that asks for the last day of the calendar, for a universal time
outside of it, or for the place of a truth value in an order is *faulty*.  It meets a fault while
its test is made, and no other comparison does.
-/

namespace CollectionQuery

open CollectionQuery.Calendar

/-- The values that an operator compares with: the items of a list or a pair, or the value
itself. -/
def Operator.operands (op : Operator) (v : Value) : List Value :=
  match op.arity with
  | .list => v.elements
  | .pair => v.elements
  | _ => [v]

theorem Operator.operands_eq_singleton {op : Operator} (h : op = .eq ∨ op = .ne) (v : Value) :
    op.operands v = [v] := by
  rcases h with rfl | rfl
  · rfl
  · rfl

namespace Comparison

variable {column : Column} {kind : ColumnKind} {path : String} {op : Operator} {v w : Value}

/-! ## Faults -/

/-- The comparisons with a column that meet a fault. -/
inductive Faulty (column : Column) (op : Operator) (v : Value) : Fault → Prop where
  /-- The whole of a day that has no next day is asked for. -/
  | lastDay {t : Timestamp} (asks : asksDay column op v = true)
      (read : column.kind.coerce column.name v = .ok (.moment t)) (last : t.wall.date = .last) :
      Faulty column op v .dateRange
  /-- The first operand that is not taken leaves the calendar. -/
  | offCalendar {before after : List Value} {w : Value} (coerces : op.coerces = true)
      (operands : op.operands v = before ++ w :: after)
      (read : ∀ u ∈ before, (column.kind.coerce column.name u).isOk = true)
      (leaves : column.kind.LeavesCalendar column.name w) : Faulty column op v .dateRange
  /-- A truth value is asked for its place in an order. -/
  | unordered {b : Bool} (ordering : op.isOrdering = true)
      (read : column.kind.coerce column.name v = .ok (.bool b)) : Faulty column op v .comparison

/-! ### Days -/

theorem asksDay_iff : asksDay column op v = true ↔
    (op = .eq ∨ op = .ne) ∧ column.kind.isMoment = true ∧ v.isDateOnly = true := by
  simp [asksDay, and_assoc]

theorem moment_of_coerce (hkind : kind.isMoment = true) (hv : v.isNull = false) {name : String}
    (h : kind.coerce name v = .ok w) : ∃ t, w = .moment t := by
  cases kind with
  | moment aware =>
      rw [ColumnKind.coerce_moment hv] at h
      obtain ⟨t, -, rfl⟩ := map_eq_ok.1 h
      exact ⟨t, rfl⟩
  | _ => cases hkind

theorem dayTest_of_error {f : Failure} (h : column.kind.coerce column.name v = .error f) :
    dayTest column op v = .error f := by
  rw [dayTest, h]
  rfl

/-- The test of a day that begins at a time and ends at another. -/
def dayFrom (column : Column) (op : Operator) (start : Timestamp) (next : DateTime) :
    CellTest Operand :=
  let begins := Operand.single column.kind (.moment start)
  let ends := Operand.single column.kind (.moment ⟨next, start.offset⟩)
  if op = .eq then .onDay begins ends else .offDay begins ends

theorem dayTest_of_moment {t : Timestamp}
    (h : column.kind.coerce column.name v = .ok (.moment t)) :
    dayTest column op v = match t.wall.shift? microsPerDay with
      | some next => .ok (dayFrom column op t next)
      | none => .error (.fault .dateRange) := by
  -- The end of the day becomes a variable, for the kernel would unfold it to the microseconds.
  obtain ⟨end?, hend⟩ :
      ∃ end? : DateTime → Option DateTime, ∀ time, time.shift? microsPerDay = end? time :=
    ⟨_, fun _ => rfl⟩
  rw [dayTest, h]
  simp only [hend]
  cases hnext : end? t.wall <;> simp [bind, Except.bind, hnext, dayFrom]

/-- The test of a day fails as its value does, or if the day is the last one. -/
theorem dayTest_cases (h : asksDay column op v = true) :
    (∃ f, column.kind.coerce column.name v = .error f ∧ dayTest column op v = .error f) ∨
      ∃ t, column.kind.coerce column.name v = .ok (.moment t) ∧
        ((∃ next, dayTest column op v = .ok (dayFrom column op t next)) ∨
          (t.wall.date = .last ∧ dayTest column op v = .error (.fault .dateRange))) := by
  obtain ⟨-, hkind, hdate⟩ := asksDay_iff.1 h
  cases hread : column.kind.coerce column.name v with
  | error f => exact Or.inl ⟨f, rfl, dayTest_of_error hread⟩
  | ok w =>
      have hnull : v.isNull = false := by
        cases v with
        | null => cases hdate
        | _ => rfl
      obtain ⟨t, rfl⟩ := moment_of_coerce hkind hnull hread
      refine Or.inr ⟨t, rfl, ?_⟩
      rw [dayTest_of_moment hread]
      cases hnext : t.wall.shift? microsPerDay with
      | some next => exact Or.inl ⟨next, rfl⟩
      | none => exact Or.inr ⟨DateTime.shift?_day_eq_none.1 hnext, rfl⟩

/-! ### Values in the type of the column -/

theorem coerced_of_text (h : op.coerces = false) : coerced column op v = .ok v := by
  rw [coerced, h]
  rfl

theorem coerced_unary (hcoerces : op.coerces = true) (h : op.arity = .unary) :
    coerced column op v = column.kind.coerce column.name v := by
  rw [coerced, hcoerces, h]
  rfl

theorem coerced_tuple (hcoerces : op.coerces = true) (h : op.arity = .list ∨ op.arity = .pair) :
    coerced column op v =
      (v.elements.mapM (column.kind.coerce column.name)).map .tuple := by
  rw [coerced, hcoerces]
  rcases h with h | h
  · rw [h]
    cases v.elements.mapM (column.kind.coerce column.name) <;> rfl
  · rw [h]
    cases v.elements.mapM (column.kind.coerce column.name) <;> rfl

theorem ending_coerced (h : op.coerces = true) :
    ending (coerced column op v) =
      ending ((op.operands v).mapM (column.kind.coerce column.name)) := by
  have hsingle : ending (column.kind.coerce column.name v) =
      ending ([v].mapM (column.kind.coerce column.name)) := by
    rw [List.mapM_cons, List.mapM_nil]
    cases column.kind.coerce column.name v <;> rfl
  cases harity : op.arity with
  | list => rw [coerced_tuple h (Or.inl harity), ending_map, Operator.operands, harity]
  | pair => rw [coerced_tuple h (Or.inr harity), ending_map, Operator.operands, harity]
  | unary =>
      rw [coerced_unary h harity, Operator.operands, harity]
      exact hsingle
  | none =>
      rw [coerced, h, Operator.operands, harity]
      exact hsingle

theorem coerced_eq_error (h : op.coerces = true) {f : Failure} :
    coerced column op v = .error f ↔ ∃ before w after, op.operands v = before ++ w :: after ∧
      (∀ u ∈ before, (column.kind.coerce column.name u).isOk = true) ∧
      column.kind.coerce column.name w = .error f := by
  rw [← ending_eq_error, ending_coerced h, ending_eq_error, mapM_eq_error]

/-! ### Places in an order -/

theorem orderTest_eq_error {accepts : Ordering → Bool} {f : Failure} :
    orderTest kind accepts v = .error f ↔
      f = .fault .comparison ∧ (v = .null ∨ ∃ b, v = .bool b) := by
  cases v <;> simp [orderTest, eq_comm]

/-- Only an order misses something. -/
theorem test_eq_error {f : Failure} :
    test kind op v = .error f ↔
      op.isOrdering = true ∧ f = .fault .comparison ∧ (v = .null ∨ ∃ b, v = .bool b) := by
  cases op with
  | gt => simp [test, Operator.isOrdering, orderTest_eq_error]
  | gte => simp [test, Operator.isOrdering, orderTest_eq_error]
  | lt => simp [test, Operator.isOrdering, orderTest_eq_error]
  | lte => simp [test, Operator.isOrdering, orderTest_eq_error]
  | eq => cases v <;> simp [test, Operator.isOrdering]
  | ne => cases v <;> simp [test, Operator.isOrdering]
  | _ => simp [test, Operator.isOrdering]

theorem coerces_of_isOrdering (h : op.isOrdering = true) : op.coerces = true := by
  rcases Operator.isOrdering_iff.1 h with rfl | rfl | rfl | rfl
  all_goals rfl

theorem Faulty.coerces {cause : Fault} (h : Faulty column op v cause) : op.coerces = true := by
  cases h with
  | lastDay asks _ _ =>
      obtain ⟨rfl | rfl, -⟩ := asksDay_iff.1 asks
      · rfl
      · rfl
  | offCalendar coerces _ _ _ => exact coerces
  | unordered ordering _ => exact coerces_of_isOrdering ordering

/-- The test of a column is there, or its value is rejected, or it is one for texts, or it meets a
fault. -/
theorem columnTest_fails (column : Column) (path : String) (op : Operator) (v : Value) :
    FailsOnly (fun f => f = .misfit (.textOperator op path) ∨ f.IsRejected ∨
      ∃ cause, f = .fault cause) (columnTest column path op v) := by
  have hcoerce (w : Value) {f : Failure} (hf : column.kind.coerce column.name w = .error f) :
      f.IsRejected ∨ ∃ cause, f = .fault cause :=
    (column.kind.coerce_fails column.name w f hf).imp_right fun ⟨hcause, _⟩ => ⟨_, hcause⟩
  rw [columnTest]
  refine .ite (fun _ => .of_error (Or.inl rfl)) fun htext => .ite (fun hday => ?_) fun _ => ?_
  · intro f hf
    rcases dayTest_cases hday with ⟨g, hg, htest⟩ | ⟨t, -, ⟨next, htest⟩ | ⟨-, htest⟩⟩
    · cases htest.symm.trans hf
      exact Or.inr (hcoerce v hg)
    · cases htest.symm.trans hf
    · cases htest.symm.trans hf
      exact Or.inr (Or.inr ⟨_, rfl⟩)
  · refine FailsOnly.bind (fun f hf => ?_) fun w _ f hf => ?_
    · cases hcoerces : op.coerces with
      | false =>
          rw [coerced_of_text hcoerces] at hf
          cases hf
      | true =>
          obtain ⟨_, w, _, -, -, hw⟩ := (coerced_eq_error hcoerces).1 hf
          exact Or.inr (hcoerce w hw)
    · exact Or.inr (Or.inr ⟨_, (test_eq_error.1 hf).2.1⟩)

theorem columnTest_of_coerces (h : op.coerces = true) :
    columnTest column path op v =
      if asksDay column op v then dayTest column op v
      else coerced column op v >>= test column.kind op := by
  rw [columnTest, h]
  rfl

theorem columnTest_of_text (h : op.coerces = false) :
    columnTest column path op v =
      if column.kind.isText then test column.kind op v
      else .error (.misfit (.textOperator op path)) := by
  have hday : asksDay column op v = false := by
    rw [← Bool.not_eq_true, asksDay_iff]
    rintro ⟨rfl | rfl, -⟩ <;> cases h
  rw [columnTest, h, hday, coerced_of_text h]
  cases column.kind.isText <;> rfl

end Comparison

end CollectionQuery
