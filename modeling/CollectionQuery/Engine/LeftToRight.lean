import CollectionQuery.Clause.Truth

/-!
# Evaluation from left to right

The engine that evaluates a condition on every row from left to right, and only as far as it has to,
and that hands out related rows in the order of their identifiers.
-/

namespace CollectionQuery

namespace Clause

mutual

/-- Whether the evaluation of a clause on a row comes to a pattern that is too long.  It ends at the
first item that decides a conjunction or disjunction, and at the first related row that is
sought. -/
def overruns (s : Store) (a : Audience) (row : Row) : Clause Cell → Bool
  | test _ t => t.isOverlong
  | related r inner => (s.related r row).foldr (fun other later =>
      overruns s a other inner ||
        !((truth s a other inner).holds && a.inScope r.target other) && later) false
  | all items => overrunsAll s a row items
  | any items => overrunsAny s a row items

/-- Whether the evaluation of a conjunction comes to a pattern that is too long. -/
def overrunsAll (s : Store) (a : Audience) (row : Row) : List (Clause Cell) → Bool
  | [] => false
  | item :: rest => overruns s a row item ||
      (truth s a row item).holds && overrunsAll s a row rest

/-- Whether the evaluation of a disjunction comes to a pattern that is too long. -/
def overrunsAny (s : Store) (a : Audience) (row : Row) : List (Clause Cell) → Bool
  | [] => false
  | item :: rest => overruns s a row item ||
      !(truth s a row item).holds && overrunsAny s a row rest

end

/-! ## Patterns that are come to -/

section

variable {s : Store} {a : Audience} {row : Row}

-- The recursion goes through the list of items, so the statements are proved together.
mutual

/-- A pattern that is come to is in the clause. -/
theorem isOverlong_of_overruns {row : Row} : ∀ {cl : Clause Cell},
    cl.overruns s a row = true → cl.isOverlong = true
  | test _ t, h => by simpa [overruns] using h
  | related r inner, h => by
      rw [overruns] at h
      rw [isOverlong_related]
      generalize s.related r row = others at h
      induction others with
      | nil => cases h
      | cons other rest ih =>
          rw [List.foldr_cons, Bool.or_eq_true, Bool.and_eq_true] at h
          exact h.elim isOverlong_of_overruns fun h => ih h.2
  | all items, h => by
      rw [overruns] at h
      rw [isOverlong_all]
      exact any_isOverlong_of_overrunsAll h
  | any items, h => by
      rw [overruns] at h
      rw [isOverlong_any]
      exact any_isOverlong_of_overrunsAny h

theorem any_isOverlong_of_overrunsAll {row : Row} : ∀ {items : List (Clause Cell)},
    overrunsAll s a row items = true → items.any isOverlong = true
  | [], h => by
      rw [overrunsAll] at h
      cases h
  | item :: rest, h => by
      rw [overrunsAll, Bool.or_eq_true, Bool.and_eq_true] at h
      rw [List.any_cons, Bool.or_eq_true]
      exact h.imp isOverlong_of_overruns fun h => any_isOverlong_of_overrunsAll h.2

theorem any_isOverlong_of_overrunsAny {row : Row} : ∀ {items : List (Clause Cell)},
    overrunsAny s a row items = true → items.any isOverlong = true
  | [], h => by
      rw [overrunsAny] at h
      cases h
  | item :: rest, h => by
      rw [overrunsAny, Bool.or_eq_true, Bool.and_eq_true] at h
      rw [List.any_cons, Bool.or_eq_true]
      exact h.imp isOverlong_of_overruns fun h => any_isOverlong_of_overrunsAny h.2

end

end

end Clause

/-- The engine that evaluates from left to right. -/
def Engine.leftToRight : Engine where
  refuses tables statement := (tables statement.collection).any fun row =>
    statement.condition.overruns { rows := tables, engine := .lenient } statement.audience row
  overlong_of_refuses h :=
    let ⟨_, _, hover⟩ := List.any_eq_true.1 h
    Clause.isOverlong_of_overruns hover
  precedes := byNumber

end CollectionQuery
