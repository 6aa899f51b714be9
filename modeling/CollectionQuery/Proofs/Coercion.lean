import CollectionQuery.Coercion
import CollectionQuery.Proofs.Failure

/-!
# What a filter value in the type of a column is

A value that does not have the type of its column is rejected, and that is the only way in which
taking its type fails, with one exception.  A column without offsets keeps universal times, and the
universal time of a date-time near the ends of the calendar may lie outside of it.
-/

namespace CollectionQuery

open CollectionQuery.Calendar

namespace Coercion

variable {α : Type} {column : String} {kind : ValueKind} {v : Value}

theorem refuse_fails : FailsOnly Failure.IsRejected (refuse column kind : Except Failure α) :=
  .of_error ⟨_, rfl⟩

theorem orRefuse_fails (o : Option α) : FailsOnly Failure.IsRejected (orRefuse column kind o) := by
  cases o with
  | none => exact refuse_fails
  | some a => exact .of_ok a

/-- A check that gives back what it is given or refuses it. -/
theorem check_fails (p : Prop) [Decidable p] (a : α) :
    FailsOnly Failure.IsRejected (if p then .ok a else refuse column kind) :=
  .ite (fun _ => .of_ok a) fun _ => refuse_fails

theorem boolean_fails : FailsOnly Failure.IsRejected (boolean column v) := by
  unfold boolean
  split
  · exact .of_ok _
  · exact .ite (fun _ => .of_ok _) fun _ => check_fails _ _

theorem numeral_fails : FailsOnly Failure.IsRejected (numeral column v) := by
  unfold numeral
  exact .ite (fun _ => refuse_fails) fun _ => .of_ok _

theorem integer_fails (bits : Nat) : FailsOnly Failure.IsRejected (integer column bits v) := by
  unfold integer
  split
  · exact check_fails _ _
  · exact (orRefuse_fails _).bind fun n _ => check_fails _ _
  · exact numeral_fails.bind fun text _ => (orRefuse_fails _).bind fun n _ => check_fails _ _

theorem float_fails : FailsOnly Failure.IsRejected (float column v) := by
  unfold float
  split
  · exact (orRefuse_fails _).bind fun x _ => check_fails _ _
  · exact check_fails _ _
  · exact numeral_fails.bind fun text _ => (orRefuse_fails _).bind fun x _ => check_fails _ _

theorem decimal_fails : FailsOnly Failure.IsRejected (decimal column v) := by
  unfold decimal
  split
  · exact check_fails _ _
  · exact .of_ok _
  · exact (orRefuse_fails _).bind fun d _ => check_fails _ _
  · exact numeral_fails.bind fun text _ => (orRefuse_fails _).bind fun d _ => check_fails _ _

theorem date_fails : FailsOnly Failure.IsRejected (date column v) := by
  unfold date
  split
  · exact .of_ok _
  · exact .ite (fun _ => refuse_fails) fun _ =>
      .ite (fun _ => orRefuse_fails _) fun _ => orRefuse_fails _

theorem timestamp_fails : FailsOnly Failure.IsRejected (timestamp column v) := by
  unfold timestamp
  split
  · exact .of_ok _
  · exact .ite (fun _ => refuse_fails) fun _ =>
      .ite (fun _ => orRefuse_fails _) fun _ => orRefuse_fails _

theorem uuid_fails : FailsOnly Failure.IsRejected (uuid column v) := by
  unfold uuid
  split
  · exact .of_ok _
  · split
    · exact .of_ok _
    · exact .of_error ⟨_, rfl⟩

/-- Only a column without offsets misses a date-time, for its universal time. -/
theorem settle_eq_error {aware : Bool} {t : Timestamp} {f : Failure} :
    settle aware t = .error f ↔
      aware = false ∧ t.toUniversal? = none ∧ f = .fault .dateRange := by
  rw [settle]
  cases aware with
  | true => simp
  | false => cases t.toUniversal? <;> simp [eq_comm]

end Coercion

namespace ColumnKind

variable {kind : ColumnKind} {column : String} {v w : Value}

/-- Whether a value is a date-time with a universal time that is not in the calendar, for a column
that keeps universal times. -/
def LeavesCalendar (kind : ColumnKind) (column : String) (v : Value) : Prop :=
  kind = .moment false ∧ ∃ t, Coercion.timestamp column v = .ok t ∧ t.toUniversal? = none

theorem coerce_of_isNull (h : v.isNull = true) : kind.coerce column v = .ok .null := by
  rw [coerce.eq_def, if_pos h]

/-- A date-time takes the type of a column by its reading. -/
theorem coerce_moment {aware : Bool} (h : v.isNull = false) :
    (ColumnKind.moment aware).coerce column v = (Coercion.moment column aware v).map .moment := by
  rw [coerce.eq_def, h]
  rfl

/-- A value is rejected unless it leaves the calendar. -/
theorem coerce_fails (kind : ColumnKind) (column : String) (v : Value) :
    FailsOnly (fun f => f.IsRejected ∨ f = .fault .dateRange ∧ kind.LeavesCalendar column v)
      (kind.coerce column v) := by
  have hrejected {α : Type} {r : Except Failure α} (h : FailsOnly Failure.IsRejected r)
      (g : α → Value) : FailsOnly
        (fun f => f.IsRejected ∨ f = .fault .dateRange ∧ kind.LeavesCalendar column v) (r.map g) :=
    (h.mono fun f hf => Or.inl hf).map g
  by_cases hnull : v.isNull = true
  · rw [coerce_of_isNull hnull]
    exact .of_ok _
  rw [coerce.eq_def, if_neg hnull]
  cases kind with
  | text length => exact .of_ok _
  | json => exact .of_ok _
  | boolean => exact hrejected Coercion.boolean_fails _
  | integer bits => exact hrejected (Coercion.integer_fails bits) _
  | float => exact hrejected Coercion.float_fails _
  | numeric => exact hrejected Coercion.decimal_fails _
  | date => exact hrejected Coercion.date_fails _
  | uuid => exact hrejected Coercion.uuid_fails _
  | moment aware =>
      refine .map (.bind (Coercion.timestamp_fails.mono fun f hf => Or.inl hf) fun t ht => ?_) _
      intro f hf
      obtain ⟨rfl, hnone, rfl⟩ := Coercion.settle_eq_error.1 hf
      exact Or.inr ⟨rfl, rfl, t, ht, hnone⟩

end ColumnKind

end CollectionQuery
