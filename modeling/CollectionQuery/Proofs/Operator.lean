import CollectionQuery.Operator

/-!
# The canonical form of a value

What an operator takes, said by the arity alone: an operator without a value takes anything, a
single value is neither a list nor an object, a list may be a single value, and a pair has two
items.  Null is a value for the operators that are aware of it only.  `normalize` gives exactly this
form, and a fault where there is none.  `Takes` lists the canonical forms operator by operator.
-/

namespace CollectionQuery

/-- The items of a list of either kind. -/
def Value.items? : Value → Option (List Value)
  | list items => some items
  | tuple items => some items
  | _ => none

/-- Whether a value is an object. -/
def Value.isObject : Value → Bool
  | object _ => true
  | mixed _ => true
  | _ => false

namespace Operator

/-- The canonical form of a value for an operator, if the value has the shape that it takes. -/
def canonical? (op : Operator) (v : Value) : Option Value :=
  match op.arity with
  | .none => some .null
  | .unary =>
    if v.items?.isSome || v.isObject || (v.isNull && !op.isNullAware) then none else some v
  | .list => if v.isNull || v.isObject then none else some (.tuple (v.items?.getD [v]))
  | .pair => match v.items? with
    | some [low, high] => some (.tuple [low, high])
    | _ => none

variable {op : Operator}

theorem normalize_unary (h : op.arity = .unary) (v : Value) :
    (op.normalize v).toOption = op.canonical? v := by
  cases v with
  | null =>
      cases haware : op.isNullAware <;>
        simp [normalize, canonical?, h, haware, Value.items?, Value.isObject, Value.isNull,
          Except.toOption]
  | _ =>
      simp [normalize, canonical?, h, Value.items?, Value.isObject, Value.isNull, Except.toOption]

theorem normalize_list (h : op.arity = .list) (v : Value) :
    (op.normalize v).toOption = op.canonical? v := by
  cases v <;>
    simp [normalize, canonical?, h, Value.items?, Value.isObject, Value.isNull, Except.toOption]

theorem normalize_pair (h : op.arity = .pair) (v : Value) :
    (op.normalize v).toOption = op.canonical? v := by
  have hitems (items : List Value) (w : Value) (hw : w.items? = some items)
      (hshape : w = .list items ∨ w = .tuple items) :
      (op.normalize w).toOption = op.canonical? w := by
    rw [canonical?, h, hw]
    match items with
    | [low, high] => rcases hshape with rfl | rfl <;> simp [normalize, h, Except.toOption]
    | [] => rcases hshape with rfl | rfl <;> simp [normalize, h, Except.toOption]
    | [_] => rcases hshape with rfl | rfl <;> simp [normalize, h, Except.toOption]
    | _ :: _ :: _ :: _ => rcases hshape with rfl | rfl <;> simp [normalize, h, Except.toOption]
  cases v with
  | list items => exact hitems items _ rfl (Or.inl rfl)
  | tuple items => exact hitems items _ rfl (Or.inr rfl)
  | _ => simp [normalize, canonical?, h, Value.items?, Except.toOption]

/-- Checking the shape of a value gives its canonical form, if there is one. -/
theorem normalize_toOption (op : Operator) (v : Value) :
    (op.normalize v).toOption = op.canonical? v := by
  cases h : op.arity with
  | none => simp [normalize, canonical?, h, Except.toOption]
  | unary => exact normalize_unary h v
  | list => exact normalize_list h v
  | pair => exact normalize_pair h v

/-- The values that an operator takes, in canonical form. -/
def Takes : Operator → Value → Prop
  | isNull, v => v = .null
  | notNull, v => v = .null
  | oneOf, v => ∃ items, v = .tuple items
  | noneOf, v => ∃ items, v = .tuple items
  | between, v => ∃ low high, v = .tuple [low, high]
  | op, v => v.items? = none ∧ v.isObject = false ∧ (v = .null → op = eq ∨ op = ne)

theorem isNullAware_iff : op.isNullAware = true ↔ op = eq ∨ op = ne := by
  cases op <;> simp [isNullAware]

theorem isOrdering_iff : op.isOrdering = true ↔ op = gt ∨ op = gte ∨ op = lt ∨ op = lte := by
  cases op <;> simp [isOrdering]

theorem takes_unary (h : op.arity = .unary) (v : Value) :
    op.Takes v ↔ v.items? = none ∧ v.isObject = false ∧ (v = .null → op = eq ∨ op = ne) := by
  cases op with
  | oneOf => cases h
  | noneOf => cases h
  | between => cases h
  | isNull => cases h
  | notNull => cases h
  | _ => exact Iff.rfl

/-- A canonical form is one that the operator takes. -/
theorem takes_of_canonical? {v w : Value} (h : op.canonical? v = some w) : op.Takes w := by
  cases harity : op.arity with
  | none =>
      simp only [canonical?, harity] at h
      cases h
      cases op <;> first | rfl | cases harity
  | unary =>
      simp only [canonical?, harity] at h
      split at h
      · cases h
      · next hshape =>
          cases h
          simp only [Bool.or_eq_true, not_or, Bool.and_eq_true, Bool.not_eq_true',
            not_and] at hshape
          obtain ⟨⟨hitems, hobject⟩, hnull⟩ := hshape
          refine (takes_unary harity v).2 ⟨by simpa using hitems, by simpa using hobject, ?_⟩
          rintro rfl
          exact isNullAware_iff.1 (by simpa using hnull rfl)
  | list =>
      simp only [canonical?, harity] at h
      split at h
      · cases h
      · cases h
        cases op <;> first | exact ⟨_, rfl⟩ | cases harity
  | pair =>
      simp only [canonical?, harity] at h
      split at h
      · cases h
        cases op <;> first | exact ⟨_, _, rfl⟩ | cases harity
      · cases h

end Operator

end CollectionQuery
