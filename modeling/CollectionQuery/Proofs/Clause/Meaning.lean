import CollectionQuery.Proofs.Clause.Alike
import CollectionQuery.Proofs.Predicate.Meaning

/-!
# The meaning of clauses

A comparison with a column of a row has the truth value of its test on the cell.  Behind relations
it is true of a row if a related row in scope is there of which it is true, and false otherwise; so
a row counts once, however many related rows there are.

The clause of a proper predicate has on every row the truth value that the predicate has in
three-valued logic.
-/

namespace CollectionQuery

namespace Comparison

/-- The test of a comparison with a column, with cells in place of its operands. -/
def cellTest? (cmp : Comparison) (column : Column) : Option (CellTest Cell) :=
  match columnTest column cmp.field cmp.operator cmp.value with
  | .ok t => (t.bind Operand.bind).toOption
  | .error _ => none

/-- The truth value of a comparison on a row of a collection, for the names of a path from there;
unknown if the reader does not see what the path names. -/
def truthAt (s : Store) (a : Audience) (cmp : Comparison) : Collection → List String → Row → Truth
  | _, [], _ => .unknown
  | c, [name], row =>
    match (c.visibleColumn? name).bind cmp.cellTest? with
    | some t => t.truth (row.cell name)
    | none => .unknown
  | c, name :: rest, row =>
    match a.relation? c name with
    | some r => .ofBool (decide (∃ other ∈ s.related r row,
        truthAt s a cmp r.target rest other = .yes ∧ a.inScope r.target other = true))
    | none => .unknown

/-- The truth value of a comparison on a row of a collection. -/
def truthOn (s : Store) (a : Audience) (c : Collection) (row : Row) (cmp : Comparison) : Truth :=
  cmp.truthAt s a c (FieldPath.names cmp.field) row

/-- A cell passes a comparison with its column: the comparison can be made, and it holds. -/
def Passes (cmp : Comparison) (column : Column) (cell : Cell) : Prop :=
  ∃ u, cmp.cellTest? column = some u ∧ u.isOverlong = false ∧ (u.truth cell).holds = true

theorem cellTest?_eq_some {cmp : Comparison} {column : Column} {u : CellTest Cell} :
    cmp.cellTest? column = some u ↔ ∃ t,
      columnTest column cmp.field cmp.operator cmp.value = .ok t ∧
        t.bind Operand.bind = .ok u := by
  rw [cellTest?]
  cases columnTest column cmp.field cmp.operator cmp.value with
  | error f => simp
  | ok t =>
      simp only [Except.ok.injEq, exists_eq_left']
      cases CellTest.bind Operand.bind t <;> simp [Except.toOption]

theorem not_passes_of_error {cmp : Comparison} {column : Column} {f : Failure}
    (h : columnTest column cmp.field cmp.operator cmp.value = .error f) (cell : Cell) :
    ¬ cmp.Passes column cell := by
  rintro ⟨u, hu, -⟩
  rw [cellTest?, h] at hu
  cases hu

theorem passes_iff {cmp : Comparison} {column : Column} {t : CellTest Operand} {u : CellTest Cell}
    (ht : columnTest column cmp.field cmp.operator cmp.value = .ok t)
    (hu : t.bind Operand.bind = .ok u) (cell : Cell) :
    cmp.Passes column cell ↔ u.isOverlong = false ∧ (u.truth cell).holds = true := by
  have htest : cmp.cellTest? column = some u := cellTest?_eq_some.2 ⟨t, ht, hu⟩
  simp [Passes, htest]

/-- A cell passes a comparison by order if its place beside the operand is accepted. -/
theorem passes_relates_iff {cmp : Comparison} {column : Column} {accepts : Ordering → Bool}
    {o : Operand} {other : Cell}
    (ht : columnTest column cmp.field cmp.operator cmp.value = .ok (.relates accepts o))
    (ho : o.bind = .ok other) (cell : Cell) :
    cmp.Passes column cell ↔ cell.relate accepts other = .yes := by
  have hbind : (CellTest.relates accepts o).bind Operand.bind = .ok (.relates accepts other) := by
    rw [CellTest.bind, ho]
    rfl
  rw [passes_iff ht hbind, CellTest.truth, Truth.holds_eq_true]
  exact and_iff_right rfl

end Comparison

variable {s : Store} {a : Audience} {c : Collection}

/-! ## Comparisons -/

theorem Comparison.truth_clauseAt {cmp : Comparison} {names : List String} {cl : Clause Operand}
    {bound : Clause Cell} (h : cmp.clauseAt a c names = .ok cl)
    (hbound : cl.bind Operand.bind = .ok bound) (row : Row) :
    bound.truth s a row = cmp.truthAt s a c names row := by
  induction names generalizing c cl bound row with
  | nil =>
      rw [clauseAt] at h
      cases h
  | cons name rest ih =>
      cases rest with
      | nil =>
          rw [clauseAt] at h
          cases hcolumn : c.visibleColumn? name with
          | none => simp [hcolumn] at h
          | some column =>
              rw [hcolumn] at h
              obtain ⟨t, ht, rfl⟩ := map_eq_ok.1 h
              obtain ⟨u, hu, rfl⟩ := Clause.bind_test_eq_ok.1 hbound
              have htest : cmp.cellTest? column = some u := cellTest?_eq_some.2 ⟨t, ht, hu⟩
              rw [Clause.truth, truthAt, hcolumn, Option.bind_some, htest]
      | cons next rest =>
          rw [clauseAt] at h
          · cases hrelation : a.relation? c name with
            | none => simp [hrelation] at h
            | some r =>
                rw [hrelation] at h
                obtain ⟨inner, hinner, rfl⟩ := map_eq_ok.1 h
                obtain ⟨u, hu, rfl⟩ := Clause.bind_related_eq_ok.1 hbound
                rw [Clause.truth_related, truthAt]
                · simp only [hrelation, ih hinner hu]
                · simp
          · simp

/-! ## Predicates -/

namespace Predicate

/-- The clauses of parts that all ask something stand in the places of the parts. -/
theorem innerClauses_eq_ok {items : List Predicate} {cls : List (Clause Operand)}
    (hsome : ∀ p ∈ items, ∀ o, innerClause a c p = .ok o → ∃ cl, o = some cl)
    (h : innerClauses a c items = .ok cls) :
    List.Forall₂ (fun p cl => innerClause a c p = .ok (some cl)) items cls := by
  induction items generalizing cls with
  | nil =>
      rw [innerClauses] at h
      cases h
      exact .nil
  | cons p rest ih =>
      obtain ⟨first, more, hfirst, hmore, rfl⟩ := innerClauses_cons_eq_ok.1 h
      obtain ⟨hp, hrest⟩ := List.forall_mem_cons.1 hsome
      obtain ⟨cl, rfl⟩ := hp first hfirst
      exact .cons hfirst (ih hrest hmore)

/-- A proper predicate asks something. -/
theorem Proper.innerClause_isSome {p : Predicate} (hp : p.Proper) :
    ∀ o, innerClause a c p = .ok o → ∃ cl, o = some cl := by
  induction hp with
  | leaf cmp =>
      intro o h
      rw [innerClause] at h
      obtain ⟨cl, -, rfl⟩ := map_eq_ok.1 h
      exact ⟨cl, rfl⟩
  | and nonempty _ ih =>
      intro o h
      obtain ⟨cls, hcls, rfl⟩ := innerClause_and_eq_ok.1 h
      cases innerClauses_eq_ok ih hcls with
      | nil => exact absurd rfl nonempty
      | cons _ _ => exact ⟨_, rfl⟩
  | or nonempty _ ih =>
      intro o h
      obtain ⟨cls, hcls, rfl⟩ := innerClause_or_eq_ok.1 h
      cases innerClauses_eq_ok ih hcls with
      | nil => exact absurd rfl nonempty
      | cons _ _ => exact ⟨_, rfl⟩

variable {row : Row}

/-- Parts that have the truth values of their clauses have the least of these together. -/
theorem truthAll_eq_evalAll {truth : Comparison → Truth} {items : List Predicate}
    {cls : List (Clause Operand)} {bounds : List (Clause Cell)}
    (hcls : List.Forall₂ (fun p cl => innerClause a c p = .ok (some cl)) items cls)
    (hbounds : List.Forall₂ (fun cl bound => cl.bind Operand.bind = .ok bound) cls bounds)
    (h : ∀ p ∈ items, ∀ cl bound, innerClause a c p = .ok (some cl) →
      cl.bind Operand.bind = .ok bound → bound.truth s a row = p.eval truth) :
    Clause.truthAll s a row bounds = evalAll truth items := by
  induction hcls generalizing bounds with
  | nil =>
      cases hbounds
      rw [Clause.truthAll, evalAll]
  | cons hcl _ ih =>
      cases hbounds with
      | cons hbound hrest =>
          obtain ⟨hp, hparts⟩ := List.forall_mem_cons.1 h
          rw [Clause.truthAll, evalAll, hp _ _ hcl hbound, ih hrest hparts]

/-- Parts that have the truth values of their clauses have the greatest of these together. -/
theorem truthAny_eq_evalAny {truth : Comparison → Truth} {items : List Predicate}
    {cls : List (Clause Operand)} {bounds : List (Clause Cell)}
    (hcls : List.Forall₂ (fun p cl => innerClause a c p = .ok (some cl)) items cls)
    (hbounds : List.Forall₂ (fun cl bound => cl.bind Operand.bind = .ok bound) cls bounds)
    (h : ∀ p ∈ items, ∀ cl bound, innerClause a c p = .ok (some cl) →
      cl.bind Operand.bind = .ok bound → bound.truth s a row = p.eval truth) :
    Clause.truthAny s a row bounds = evalAny truth items := by
  induction hcls generalizing bounds with
  | nil =>
      cases hbounds
      rw [Clause.truthAny, evalAny]
  | cons hcl _ ih =>
      cases hbounds with
      | cons hbound hrest =>
          obtain ⟨hp, hparts⟩ := List.forall_mem_cons.1 h
          rw [Clause.truthAny, evalAny, hp _ _ hcl hbound, ih hrest hparts]

theorem Proper.truth_innerClause {p : Predicate} (hp : p.Proper) :
    ∀ cl bound, innerClause a c p = .ok (some cl) → cl.bind Operand.bind = .ok bound →
      bound.truth s a row = p.eval (Comparison.truthOn s a c row) := by
  induction hp with
  | leaf cmp =>
      intro cl bound h hbound
      rw [innerClause] at h
      obtain ⟨cl', hcl, heq⟩ := map_eq_ok.1 h
      cases heq
      rw [eval_leaf]
      exact Comparison.truth_clauseAt hcl hbound row
  | and _ proper ih =>
      intro cl bound h hbound
      obtain ⟨cls, hcls, heq⟩ := innerClause_and_eq_ok.1 h
      cases joinClauses_eq_some heq.symm
      obtain ⟨bounds, hbounds, rfl⟩ := Clause.bind_all_eq_ok.1 hbound
      rw [Clause.truth, eval_and]
      exact truthAll_eq_evalAll
        (innerClauses_eq_ok (fun p hp => (proper p hp).innerClause_isSome) hcls) hbounds ih
  | or _ proper ih =>
      intro cl bound h hbound
      obtain ⟨cls, hcls, heq⟩ := innerClause_or_eq_ok.1 h
      cases joinClauses_eq_some heq.symm
      obtain ⟨bounds, hbounds, rfl⟩ := Clause.bind_any_eq_ok.1 hbound
      rw [Clause.truth, eval_or]
      exact truthAny_eq_evalAny
        (innerClauses_eq_ok (fun p hp => (proper p hp).innerClause_isSome) hcls) hbounds ih

/-- A trimmed predicate asks nothing if everything meets it. -/
theorem Trimmed.eval_of_clause_none {p : Predicate} (hp : p.Trimmed)
    (h : p.clause a c = .ok none) (truth : Comparison → Truth) : p.eval truth = .yes := by
  rcases hp with rfl | hproper
  · exact eval_always
  · rw [clause, hproper.isAlways] at h
    obtain ⟨cl, hcl⟩ := hproper.innerClause_isSome none h
    cases hcl

/-- The clause of a trimmed predicate has the truth value of the predicate. -/
theorem Trimmed.truth_clause {p : Predicate} (hp : p.Trimmed) {cl : Clause Operand}
    {bound : Clause Cell} (h : p.clause a c = .ok (some cl))
    (hbound : cl.bind Operand.bind = .ok bound) :
    bound.truth s a row = p.eval (Comparison.truthOn s a c row) := by
  rcases hp with rfl | hproper
  · cases h
  · rw [clause, hproper.isAlways] at h
    exact hproper.truth_innerClause cl bound h hbound

end Predicate

end CollectionQuery
