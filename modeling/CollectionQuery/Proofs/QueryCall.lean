import CollectionQuery.Proofs.Clause.Known
import CollectionQuery.Proofs.Clause.Tests
import CollectionQuery.Proofs.RelationPath
import CollectionQuery.Proofs.RowOrder
import CollectionQuery.QueryCall

/-!
# Calls without cancellation

A plan that was read against its collection *fits*: its condition, its order, its columns and its
paths name only what the collection has and the reader sees.  A call that nobody cancels ends with
what the plan gives, the count first and then the rows.
-/

namespace CollectionQuery

variable {a : Audience} {c : Collection} {s : Store} {plan : Plan} {p : CollectionPlan}

/-! ## Plans that fit -/

namespace CollectionPlan

/-- Everything that a plan names is there for the reader. -/
structure Fits (a : Audience) (p : CollectionPlan) : Prop where
  /-- The condition is a known clause. -/
  condition_known : ∀ clause, p.condition = some clause → clause.Known a p.collection
  /-- The columns to sort by are known. -/
  order_known : ∀ k ∈ p.order, k.Known a p.collection
  /-- The columns to load are columns of the collection. -/
  columns_known : ∀ name ∈ p.columns, name ∈ p.collection.columns.map (·.name)
  /-- The identifier is loaded. -/
  id_loaded : "id" ∈ p.columns
  /-- The reader may follow the paths to load. -/
  paths_lead : ∀ path ∈ p.paths, ∃ d, a.Leads p.collection path d

theorem pathRelations_leads {path : String} {names : List String} {rs : List Relation}
    (h : pathRelations a path c names = .ok rs) : ∃ d, a.Leads c rs d := by
  induction names generalizing c rs with
  | nil =>
      rw [pathRelations] at h
      cases h
      exact ⟨c, .here c⟩
  | cons name rest ih =>
      rw [pathRelations] at h
      cases hrelation : a.relation? c name with
      | none => simp [hrelation] at h
      | some r =>
          rw [hrelation] at h
          obtain ⟨more, hmore, heq⟩ := bind_eq_ok.1 h
          cases heq
          obtain ⟨d, hd⟩ := ih hmore
          obtain ⟨-, rfl, -⟩ := Audience.relation?_eq_some hrelation
          exact ⟨d, .step hrelation hd⟩

/-- What a relation starts from is a column of the collection. -/
theorem localColumn_mem {r : Relation} (h : r ∈ c.relations) :
    r.localColumn ∈ c.columns.map (·.name) := by
  have hkey := Collection.key_mem_columns h
  rw [Relation.localColumn]
  split
  · exact Collection.id_mem_columns
  · next hmany => simpa [hmany] using hkey

theorem projectedColumns_eq_ok {projection : Option (List String)} {paths : List (List Relation)}
    {columns : List String} (hpaths : ∀ path ∈ paths, ∃ d, a.Leads c path d)
    (h : projectedColumns c projection paths = .ok columns) :
    (∀ name ∈ columns, name ∈ c.columns.map (·.name)) ∧ "id" ∈ columns := by
  cases projection with
  | none =>
      cases h
      exact ⟨fun _ hname => hname, Collection.id_mem_columns⟩
  | some names =>
      rw [projectedColumns] at h
      split at h
      · next hunknown =>
          cases h
          simp only [mem_firstOccurrences, List.mem_append, List.mem_cons, List.mem_flatMap]
          refine ⟨?_, by simp⟩
          rintro name (hname | rfl | ⟨path, hpath, hname⟩)
          · have hvisible : c.visibleColumn? name ≠ none := by
              simpa using List.filter_eq_nil_iff.1 hunknown name hname
            obtain ⟨column, hcolumn⟩ := Option.ne_none_iff_exists'.1 hvisible
            obtain ⟨hmem, rfl, -⟩ := Collection.visibleColumn?_eq_some hcolumn
            exact List.mem_map_of_mem hmem
          · exact Collection.id_mem_columns
          · obtain ⟨d, hleads⟩ := hpaths path hpath
            cases hleads with
            | here => simp at hname
            | @step _ _ r _ follows _ =>
                obtain ⟨hr, -, -⟩ := Audience.relation?_eq_some follows
                have heq : name = r.localColumn := by simpa using hname
                exact heq ▸ localColumn_mem hr
      · cases h

theorem ofPlan_eq_ok :
    ofPlan a c plan = .ok p ↔ ∃ condition order paths columns,
      plan.predicate.clause a c = .ok condition ∧
      (if plan.order.isEmpty then Collection.defaultOrder c.columns else plan.order).mapM
        (SortColumn.ofKey a c) = .ok order ∧
      (plan.relations.mapM fun path => pathRelations a path c (FieldPath.names path)) =
        .ok paths ∧
      projectedColumns c plan.projection paths = .ok columns ∧
      p = { collection := c, condition, order, columns, paths, skip := plan.skip,
            take := plan.take } := by
  rw [ofPlan]
  constructor
  · intro h
    obtain ⟨condition, hcondition, h⟩ := bind_eq_ok.1 h
    obtain ⟨order, horder, h⟩ := bind_eq_ok.1 h
    obtain ⟨paths, hpaths, h⟩ := bind_eq_ok.1 h
    obtain ⟨columns, hcolumns, h⟩ := bind_eq_ok.1 h
    exact ⟨condition, order, paths, columns, hcondition, horder, hpaths, hcolumns,
      (pure_eq_ok.1 h).symm⟩
  · rintro ⟨condition, order, paths, columns, hcondition, horder, hpaths, hcolumns, rfl⟩
    exact bind_eq_ok.2 ⟨condition, hcondition, bind_eq_ok.2 ⟨order, horder,
      bind_eq_ok.2 ⟨paths, hpaths, bind_eq_ok.2 ⟨columns, hcolumns, rfl⟩⟩⟩⟩

/-- Reading a plan against its collection leaves nothing in it that the reader does not see. -/
theorem fits_ofPlan (h : ofPlan a c plan = .ok p) : p.collection = c ∧ p.Fits a := by
  obtain ⟨condition, order, paths, columns, hcondition, horder, hpaths, hcolumns, rfl⟩ :=
    ofPlan_eq_ok.1 h
  have hlead : ∀ path ∈ paths, ∃ d, a.Leads c path d :=
    (mapM_eq_ok.1 hpaths).forall_right fun _ _ => pathRelations_leads
  obtain ⟨hknown, hid⟩ := projectedColumns_eq_ok hlead hcolumns
  refine ⟨rfl, ?_, ?_, hknown, hid, hlead⟩
  · rintro clause rfl
    exact Predicate.known_clause hcondition
  · exact (mapM_eq_ok.1 horder).forall_right fun _ _ => SortColumn.known_ofKey

/-! ## Running -/

theorem cells_eq_ok {clause : Clause Operand} {bound : Clause Cell} :
    cells a clause = .ok bound ↔
      (clause.phrase a).isReadable = true ∧ clause.cells = .ok bound := by
  rw [cells]
  split
  · next hreadable =>
      cases clause.cells <;> simp [Except.mapError, hreadable]
  · next hreadable => simp [hreadable]

/-- Finding the cells of its operands keeps a clause known. -/
theorem known_cells {clause : Clause Operand} {bound : Clause Cell} (h : clause.Known a c)
    (hcells : cells a clause = .ok bound) : bound.Known a c :=
  h.bind (Clause.bind_of_cells (cells_eq_ok.1 hcells).2)

variable {task : Engine.Task}

theorem selected_absent (h : s.present = false) : p.selected s a task = .error .refused := by
  rw [selected, h]
  rfl

theorem selected_of_none (h : s.present = true) (hcondition : p.condition = none) :
    p.selected s a task = .ok (s.rows p.collection) := by
  rw [selected, h, hcondition]
  rfl

theorem selected_of_some (h : s.present = true) {clause : Clause Operand}
    (hcondition : p.condition = some clause) :
    p.selected s a task = cells a clause >>= matching s a p.collection task := by
  rw [selected, h, hcondition]
  rfl

/-- Rows are selected by a clause if the storage engine runs the statement. -/
theorem matching_eq_ok {bound : Clause Cell} {found : List Row} :
    matching s a c task bound = .ok found ↔
      s.engine.refuses s.shownTables ⟨a, c, bound, task⟩ = false ∧
        found = (s.rows c).filter fun row => (bound.truth s a row).holds := by
  rw [matching]
  split
  · next hrefused => simp [hrefused]
  · next hrun => simp [hrun, eq_comm]

/-- The selected rows stand in the order of the collection. -/
theorem selected_sublist {found : List Row} (h : p.selected s a task = .ok found) :
    found.Sublist (s.rows p.collection) := by
  cases hpresent : s.present with
  | false =>
      rw [selected_absent hpresent] at h
      cases h
  | true =>
      cases hcondition : p.condition with
      | none =>
          rw [selected_of_none hpresent hcondition] at h
          cases h
          exact List.Sublist.refl _
      | some clause =>
          rw [selected_of_some hpresent hcondition] at h
          obtain ⟨bound, -, h⟩ := bind_eq_ok.1 h
          rw [(matching_eq_ok.1 h).2]
          exact List.filter_sublist

/-- All statements that run select the same rows. -/
theorem selected_unique {task' : Engine.Task} {found found' : List Row}
    (h : p.selected s a task = .ok found) (h' : p.selected s a task' = .ok found') :
    found = found' := by
  cases hpresent : s.present with
  | false =>
      rw [selected_absent hpresent] at h
      cases h
  | true =>
      cases hcondition : p.condition with
      | none =>
          rw [selected_of_none hpresent hcondition] at h h'
          exact (Except.ok.inj h).symm.trans (Except.ok.inj h')
      | some clause =>
          rw [selected_of_some hpresent hcondition] at h h'
          obtain ⟨bound, hcells, h⟩ := bind_eq_ok.1 h
          obtain ⟨bound', hcells', h'⟩ := bind_eq_ok.1 h'
          cases hcells.symm.trans hcells'
          rw [(matching_eq_ok.1 h).2, (matching_eq_ok.1 h').2]

theorem mem_of_mem_window {α : Type} {skip take : Int} {xs : List α} {x : α}
    (h : x ∈ window skip take xs) : x ∈ xs := by
  rw [window] at h
  split at h
  · exact List.mem_of_mem_drop h
  · exact List.mem_of_mem_drop (List.mem_of_mem_take h)

theorem mem_of_mem_onPage {found : List Row} {row : Row} (h : row ∈ p.onPage s a found) :
    row ∈ found :=
  mem_sortRows.1 (mem_of_mem_window h)

/-- The rows of the page with all that was loaded with them, given all rows that are selected. -/
def pageRows (s : Store) (a : Audience) (p : CollectionPlan) (found : List Row) : List PageRow :=
  let rows := p.onPage s a found
  let graph := RowGraph.load s a p.collection rows p.columns p.paths
  rows.map fun row => ⟨graph, ⟨p.collection, row.id⟩⟩

/-- What becomes of the page, given all rows that are selected. -/
def readPage (s : Store) (a : Audience) (p : CollectionPlan) (found : List Row) :
    Except StatementFault (List PageRow) :=
  match p.misread? (p.onPage s a found) with
  | some cause => .error (.fault cause)
  | none => .ok (p.pageRows s a found)

theorem page_eq_bind (s : Store) (a : Audience) (p : CollectionPlan) :
    p.page s a = if p.isNumbered then p.selected s a p.task >>= p.readPage s a
      else .error .outOfRange := by
  rw [page]
  cases p.isNumbered with
  | false => rfl
  | true =>
      cases p.selected s a p.task with
      | error cause => rfl
      | ok found =>
          simp only [bind, Except.bind, readPage, pageRows]
          cases p.misread? (p.onPage s a found) <;> rfl

/-- What a plan that was read ends with: the rows of the page and the number of all rows. -/
def run (s : Store) (a : Audience) (p : CollectionPlan) : Outcome (List PageRow × Int) :=
  match p.count s a with
  | .error cause => cause.outcome p.collection.name
  | .ok total =>
    match p.page s a with
    | .error cause => cause.outcome p.collection.name
    | .ok rows => .ok (rows, total)

/-- Both statements of a plan select some rows, and those of the page can be read back. -/
structure Runs (s : Store) (a : Audience) (p : CollectionPlan) (found : List Row) : Prop where
  counted : p.selected s a .count = .ok found
  numbered : p.isNumbered = true
  selected : p.selected s a p.task = .ok found
  read : p.misread? (p.onPage s a found) = none

/-- The rows of a page are there if the storage engine can number them and hands them out, and all
of them can be read back. -/
theorem page_eq_ok {rows : List PageRow} :
    p.page s a = .ok rows ↔ p.isNumbered = true ∧ ∃ found, p.selected s a p.task = .ok found ∧
      p.misread? (p.onPage s a found) = none ∧ rows = p.pageRows s a found := by
  rw [page_eq_bind]
  cases p.isNumbered with
  | false => simp
  | true =>
      rw [if_pos rfl, bind_eq_ok, eq_self, true_and]
      refine exists_congr fun found => and_congr_right fun _ => ?_
      rw [readPage]
      cases p.misread? (p.onPage s a found) with
      | some cause => simp
      | none => simp [eq_comm]

theorem run_of_counted {found : List Row} (h : p.selected s a .count = .ok found) :
    p.run s a = match p.page s a with
      | .error cause => cause.outcome p.collection.name
      | .ok rows => .ok (rows, (found.length : Int)) := by
  rw [run, count, h]
  rfl

/-- A run comes to an end if both statements do. -/
theorem run_eq_ok {rows : List PageRow} {total : Int} :
    (p.run s a).result = .ok (rows, total) ↔ ∃ found, p.Runs s a found ∧
      rows = p.pageRows s a found ∧ total = found.length := by
  constructor
  · intro h
    cases hcounted : p.selected s a .count with
    | error cause =>
        rw [run, count, hcounted] at h
        cases cause <;> cases h
    | ok found =>
        rw [run_of_counted hcounted] at h
        cases hpage : p.page s a with
        | error cause =>
            rw [hpage] at h
            cases cause <;> cases h
        | ok shown =>
            rw [hpage] at h
            cases h
            obtain ⟨hnumbered, found', hselected, hread, rfl⟩ := page_eq_ok.1 hpage
            obtain rfl := selected_unique hcounted hselected
            exact ⟨found, ⟨hcounted, hnumbered, hselected, hread⟩, rfl, rfl⟩
  · rintro ⟨found, hruns, rfl, rfl⟩
    have hpage : p.page s a = .ok (p.pageRows s a found) :=
      page_eq_ok.2 ⟨hruns.numbered, found, hruns.selected, hruns.read, rfl⟩
    rw [run_of_counted hruns.counted, hpage]
    rfl

end CollectionPlan

/-- A call that nobody cancels runs the plan that was read. -/
theorem execute_of_ofPlan (h : CollectionPlan.ofPlan a c plan = .ok p) :
    execute s a c plan false false = p.run s a := by
  obtain ⟨rfl, -⟩ := CollectionPlan.fits_ofPlan h
  simp only [execute, QueryCall.step, h, CollectionPlan.run]
  cases hcount : p.count s a with
  | error cause => simp [hcount, QueryCall.outcome]
  | ok total =>
      cases hpage : p.page s a with
      | error cause => simp [hcount, hpage, QueryCall.outcome]
      | ok rows => simp [hcount, hpage, QueryCall.outcome]

/-- A plan that does not fit never reaches the store. -/
theorem execute_of_misfit {f : Failure} (h : CollectionPlan.ofPlan a c plan = .error f) :
    execute s a c plan false false = .fail f := by
  simp [execute, QueryCall.step, h, QueryCall.outcome]

theorem execute_eq_ok {r : List PageRow × Int}
    (h : (execute s a c plan false false).result = .ok r) :
    ∃ p, CollectionPlan.ofPlan a c plan = .ok p ∧ (p.run s a).result = .ok r := by
  cases hread : CollectionPlan.ofPlan a c plan with
  | error f =>
      rw [execute_of_misfit hread] at h
      cases h
  | ok p => exact ⟨p, rfl, execute_of_ofPlan hread ▸ h⟩

end CollectionQuery

/-! ## Conditions on one column

The storage engine reads every condition on one column.  If its operands have cells and it matches
no pattern that is too long, it selects the rows whose cells pass it.
-/

namespace CollectionQuery

variable {s : Store} {a : Audience} {c : Collection} {p : CollectionPlan} {name : String}

/-- A comparison with a column of the collection is a condition on this column. -/
theorem Predicate.clause_leaf {cmp : Comparison} {column : Column}
    (hname : FieldPath.names cmp.field = [name]) (hcolumn : c.visibleColumn? name = some column) :
    (Predicate.leaf cmp).clause a c =
      (Comparison.columnTest column cmp.field cmp.operator cmp.value).map fun t =>
        some (.test name t) := by
  have halways : (Predicate.leaf cmp).isAlways = false := rfl
  rw [Predicate.clause, halways, if_neg Bool.false_ne_true, Predicate.innerClause,
    Comparison.clause, hname, Comparison.clauseAt, hcolumn]
  dsimp only
  cases Comparison.columnTest column cmp.field cmp.operator cmp.value <;> rfl

/-- Operands that all have a cell have the right type. -/
theorem Clause.cells_of_bind {clause : Clause Operand} {bound : Clause Cell}
    (h : clause.bind Operand.bind = .ok bound) : clause.cells = .ok bound := by
  rw [Clause.cells]
  cases hcheck : clause.bind Operand.checkType with
  | ok _ => exact h
  | error fault =>
      obtain ⟨before, o, after, hoperands, -, ho⟩ :=
        mapM_eq_error.1 (Clause.bind_eq_error.1 hcheck)
      obtain ⟨cell, hcell⟩ := Clause.exists_of_bind_eq_ok h (x := o) (by simp [hoperands])
      rw [Operand.checkType, hcell] at ho
      cases ho

theorem Clause.isReadable_test {α : Type} (a : Audience) (name : String) (t : CellTest α) :
    ((Clause.test name t).phrase a).isReadable = true := by
  rw [Clause.phrase]
  cases t with
  | oneOf xs => rcases xs with _ | ⟨_, _ | _⟩ <;> rfl
  | noneOf xs => rcases xs with _ | ⟨_, _ | _⟩ <;> rfl
  | matching fold escape _ | matchingHalf fold escape _ =>
      cases fold <;> cases escape <;> rfl
  | _ => rfl

namespace CollectionPlan

/-- The rows whose cells pass the test of a column. -/
theorem selected_of_test (hpresent : s.present = true) {t : CellTest Operand} {u : CellTest Cell}
    (hcondition : p.condition = some (.test name t)) (hbind : t.bind Operand.bind = .ok u)
    (hshort : u.isOverlong = false) (task : Engine.Task) :
    p.selected s a task =
      .ok ((s.rows p.collection).filter fun row => (u.truth (row.cell name)).holds) := by
  have hcells : cells a (.test name t) = .ok (.test name u) := by
    refine cells_eq_ok.2 ⟨Clause.isReadable_test a name t, Clause.cells_of_bind ?_⟩
    rw [Clause.bind, hbind]
    rfl
  have hrun : s.engine.refuses s.shownTables ⟨a, p.collection, .test name u, task⟩ = false := by
    by_contra hrefused
    have hover := s.engine.overlong_of_refuses (Bool.not_eq_false _ ▸ hrefused)
    rw [Clause.isOverlong_test, hshort] at hover
    cases hover
  rw [selected_of_some hpresent hcondition, hcells]
  simp only [bind, Except.bind, matching, hrun, Bool.false_eq_true, if_false, Clause.truth]

end CollectionPlan

end CollectionQuery
