import CollectionQuery.Proofs.Clause.Known
import CollectionQuery.Proofs.Comparison.Operands
import CollectionQuery.Proofs.Predicate.Leaves
import CollectionQuery.Proofs.Predicate.Shape

/-!
# The tests of a predicate

The path of a comparison leads the reader to a column, or the comparison misfits.  The clause of a
predicate has one test for each of its comparisons, in their order, so what goes wrong with a clause
goes wrong with one of the comparisons.
-/

namespace CollectionQuery

/-- The column that a path leads a reader to from a collection. -/
def Audience.column? (a : Audience) : Collection → List String → Option Column
  | _, [] => none
  | c, [name] => c.visibleColumn? name
  | c, name :: next :: rest =>
    (a.relation? c name).bind fun r => column? a r.target (next :: rest)

variable {a : Audience} {c : Collection}

namespace Comparison

variable {cmp : Comparison} {column : Column}

/-- The column that a comparison asks about. -/
def column? (a : Audience) (c : Collection) (cmp : Comparison) : Option Column :=
  a.column? c (FieldPath.names cmp.field)

/-- The test that a comparison asks for. -/
def Asks (a : Audience) (c : Collection) (cmp : Comparison) (t : CellTest Operand) : Prop :=
  ∃ column, cmp.column? a c = some column ∧
    columnTest column cmp.field cmp.operator cmp.value = .ok t

/-- A comparison misfits unless its path leads to a column, and then it is a test of the column, at
the end of the relations on the way. -/
theorem clauseAt_cases (cmp : Comparison) (c : Collection) (names : List String) :
    (a.column? c names = none ∧
      ∃ cause, cause ≠ .nestedAlways ∧ cmp.clauseAt a c names = .error (.misfit cause)) ∨
    ∃ column, ∃ place : CellTest Operand → Clause Operand, a.column? c names = some column ∧
      (∀ t, (place t).tests = [t]) ∧ cmp.clauseAt a c names =
        (columnTest column cmp.field cmp.operator cmp.value).map place := by
  induction names generalizing c with
  | nil => exact Or.inl ⟨rfl, .field cmp.field, by simp, rfl⟩
  | cons name rest ih =>
      cases rest with
      | nil =>
          rw [clauseAt, Audience.column?]
          cases c.visibleColumn? name with
          | none => exact Or.inl ⟨rfl, .field cmp.field, by simp, rfl⟩
          | some column =>
              exact Or.inr ⟨column, .test name, rfl, fun t => Clause.tests_test name t, rfl⟩
      | cons next rest =>
          rw [clauseAt, Audience.column?]
          · cases a.relation? c name with
            | none => exact Or.inl ⟨rfl, .relation name cmp.field, by simp, rfl⟩
            | some r =>
                rcases ih r.target with
                  ⟨hnone, cause, hcause, h⟩ | ⟨column, place, hcolumn, htests, h⟩
                · exact Or.inl ⟨hnone, cause, hcause, by simp only [h]; rfl⟩
                · refine Or.inr ⟨column, fun t => .related r (place t), hcolumn, ?_, ?_⟩
                  · intro t
                    rw [Clause.tests_related, htests]
                  · simp only [h]
                    cases columnTest column cmp.field cmp.operator cmp.value <;> rfl
          · simp

theorem tests_clause {cl : Clause Operand} (h : cmp.clause a c = .ok cl) :
    ∃ t, cl.tests = [t] ∧ cmp.Asks a c t := by
  rw [clause] at h
  rcases clauseAt_cases cmp c (FieldPath.names cmp.field) with
    ⟨-, cause, -, herror⟩ | ⟨column, place, hcolumn, htests, hclause⟩
  · cases herror.symm.trans h
  · obtain ⟨t, ht, rfl⟩ := map_eq_ok.1 (hclause.symm.trans h)
    exact ⟨t, htests t, column, hcolumn, ht⟩

end Comparison

/-! ## Predicates -/

namespace Predicate

/-- The tests of a clause that may not be there. -/
def testsOf (o : Option (Clause Operand)) : List (CellTest Operand) := (o.map Clause.tests).getD []

theorem testsOf_joinClauses {join : List (Clause Operand) → Clause Operand}
    (hjoin : ∀ items, (join items).tests = items.flatMap Clause.tests)
    (items : List (Clause Operand)) :
    testsOf (joinClauses join items) = items.flatMap Clause.tests := by
  cases items with
  | nil => rfl
  | cons first rest => exact hjoin _

-- The recursion goes through the list of parts, so both statements are proved together.
mutual

/-- The clause of a predicate has the tests of its comparisons. -/
theorem tests_innerClause : ∀ (p : Predicate) {o : Option (Clause Operand)},
    p.innerClause a c = .ok o →
      List.Forall₂ (fun cmp t => cmp.Asks a c t) p.leaves (testsOf o)
  | always, _, h => by
      rw [innerClause] at h
      cases h
  | leaf cmp, _, h => by
      rw [innerClause] at h
      obtain ⟨cl, hcl, rfl⟩ := map_eq_ok.1 h
      obtain ⟨t, htests, hasks⟩ := Comparison.tests_clause hcl
      rw [leaves_leaf, testsOf]
      simpa [htests] using hasks
  | and items, _, h => by
      obtain ⟨cls, hcls, rfl⟩ := innerClause_and_eq_ok.1 h
      rw [leaves_and, testsOf_joinClauses Clause.tests_all]
      exact tests_innerClauses items hcls
  | or items, _, h => by
      obtain ⟨cls, hcls, rfl⟩ := innerClause_or_eq_ok.1 h
      rw [leaves_or, testsOf_joinClauses Clause.tests_any]
      exact tests_innerClauses items hcls

theorem tests_innerClauses : ∀ (items : List Predicate) {cls : List (Clause Operand)},
    innerClauses a c items = .ok cls →
      List.Forall₂ (fun cmp t => cmp.Asks a c t) (items.flatMap leaves)
        (cls.flatMap Clause.tests)
  | [], _, h => by
      rw [innerClauses] at h
      cases h
      exact .nil
  | p :: rest, _, h => by
      obtain ⟨first, more, hfirst, hmore, rfl⟩ := innerClauses_cons_eq_ok.1 h
      have htests : first.toList.flatMap Clause.tests = testsOf first := by
        cases first <;> simp [testsOf]
      rw [List.flatMap_cons, List.flatMap_append, htests]
      exact List.rel_append (tests_innerClause p hfirst) (tests_innerClauses rest hmore)

end

theorem tests_clause {p : Predicate} {o : Option (Clause Operand)} (h : p.clause a c = .ok o) :
    List.Forall₂ (fun cmp t => cmp.Asks a c t) p.leaves (testsOf o) := by
  rw [clause] at h
  split at h
  · next halways =>
      cases h
      rw [isAlways_iff.1 halways, leaves_always]
      exact .nil
  · exact tests_innerClause p h

mutual

/-- A predicate fails as one of its comparisons does, or as one that is not trimmed. -/
theorem innerClause_fails {P : Failure → Prop} (halways : P (.misfit .nestedAlways)) :
    ∀ p : Predicate, (∀ cmp ∈ p.leaves, FailsOnly P (cmp.clause a c)) →
      FailsOnly P (p.innerClause a c)
  | always, _ => by
      rw [innerClause]
      exact .of_error halways
  | leaf cmp, h => by
      rw [innerClause]
      exact (h cmp (by simp)).map some
  | and items, h => by
      rw [innerClause]
      rw [leaves_and] at h
      exact (innerClauses_fails halways items h).bind fun _ _ => .of_ok _
  | or items, h => by
      rw [innerClause]
      rw [leaves_or] at h
      exact (innerClauses_fails halways items h).bind fun _ _ => .of_ok _

theorem innerClauses_fails {P : Failure → Prop} (halways : P (.misfit .nestedAlways)) :
    ∀ items : List Predicate, (∀ cmp ∈ items.flatMap leaves, FailsOnly P (cmp.clause a c)) →
      FailsOnly P (innerClauses a c items)
  | [], _ => by
      rw [innerClauses]
      exact .of_ok _
  | p :: rest, h => by
      rw [List.flatMap_cons, List.forall_mem_append] at h
      rw [innerClauses]
      exact (innerClause_fails halways p h.1).bind fun _ _ =>
        (innerClauses_fails halways rest h.2).bind fun _ _ => .of_ok _

end

end Predicate

end CollectionQuery

/-!
## Why a predicate has no clause

A filter value that does not have the type of its column is rejected; it is no misfit of the plan.
A comparison misfits only by a name that the reader does not know or by an operator for texts on
another column.  So a proper predicate has a clause unless one of its comparisons has none, and it
is never refused as one that the reader of predicates does not support.
-/

namespace CollectionQuery

variable {α β : Type}

/-- A result that is no misfit for the reason that `always` stands inside another predicate. -/
def Supported (r : Except Failure α) : Prop := r ≠ .error (.misfit .nestedAlways)

section

variable {r : Except Failure α} {f : α → Except Failure β}

theorem Supported.map (hr : Supported r) (g : α → β) : Supported (r.map g) := by
  cases r with
  | ok a => exact nofun
  | error e => exact fun h => hr (congrArg Except.error (Except.error.inj h))

theorem Supported.bind (hr : Supported r) (hf : ∀ a, Supported (f a)) : Supported (r >>= f) := by
  cases r with
  | ok a => exact hf a
  | error e => exact fun h => hr (congrArg Except.error (Except.error.inj h))

end

/-! ### Comparisons -/

namespace Comparison

variable {a : Audience}

theorem supported_columnTest (column : Column) (path : String) (op : Operator) (v : Value) :
    Supported (columnTest column path op v) := by
  intro h
  rcases columnTest_fails column path op v _ h with hcause | ⟨cause, hcause⟩ | ⟨cause, hcause⟩
  · cases hcause
  · cases hcause
  · cases hcause

theorem supported_clauseAt (cmp : Comparison) (c : Collection) (names : List String) :
    Supported (cmp.clauseAt a c names) := by
  rcases clauseAt_cases cmp c names with ⟨-, cause, hcause, h⟩ | ⟨column, place, -, -, h⟩
  · rw [h]
    intro hnested
    cases hnested
    exact hcause rfl
  · rw [h]
    exact (supported_columnTest column _ _ _).map place

end Comparison

/-! ### Predicates -/

namespace Predicate

variable {a : Audience} {c : Collection}

theorem supported_innerClauses {items : List Predicate}
    (h : ∀ p ∈ items, Supported (innerClause a c p)) : Supported (innerClauses a c items) := by
  induction items with
  | nil =>
      rw [innerClauses]
      exact nofun
  | cons p rest ih =>
      obtain ⟨hp, hrest⟩ := List.forall_mem_cons.1 h
      rw [innerClauses]
      exact hp.bind fun first => (ih hrest).bind fun more => nofun

theorem Proper.supported_innerClause {p : Predicate} (hp : p.Proper) :
    Supported (innerClause a c p) := by
  induction hp with
  | leaf cmp =>
      rw [innerClause]
      exact (cmp.supported_clauseAt c _).map _
  | and _ _ ih =>
      rw [innerClause]
      exact (supported_innerClauses ih).bind fun cls => nofun
  | or _ _ ih =>
      rw [innerClause]
      exact (supported_innerClauses ih).bind fun cls => nofun

/-- The parts of a trimmed predicate are all of a kind that a clause is made of. -/
theorem Trimmed.supported_clause {p : Predicate} (hp : p.Trimmed) : Supported (p.clause a c) := by
  rcases hp with rfl | hproper
  · exact nofun
  · rw [clause, hproper.isAlways]
    exact hproper.supported_innerClause

end Predicate

end CollectionQuery
