import CollectionQuery.Proofs.Comparison.Operands
import CollectionQuery.Proofs.QueryParams.Condition
import CollectionQuery.Proofs.Service.Pages

/-!
# Listings by one condition

A listing by one comparison with a column that is no text finds a row exactly if the cell of the row
passes the comparison: then all its pages are there and one of them has the row, and otherwise no
page has it.  All rows have to be such that they can be read back.
-/

namespace CollectionQuery

variable {settings : Settings} {s : Store} {c : Collection} {column : Column} {name : String}
  {cond : FilterCondition} {cmp : Comparison} {row : Row} {p : CollectionPlan}

/-- Settings that let a query with one condition run. -/
structure Settings.Usable (settings : Settings) : Prop where
  one_le_limit : 1 ≤ settings.defaultLimit
  limit_le : settings.defaultLimit ≤ settings.maxLimit
  limit_word : Number.isWord settings.defaultLimit = true
  one_le_depth : 1 ≤ settings.filterMaxDepth
  leaves_time : leavesTime settings.timeoutSeconds = true

theorem Settings.usable_default : ({} : Settings).Usable :=
  ⟨by decide, by decide, by decide, by decide, by rfl⟩

/-! ## Rows that are selected -/

namespace CollectionPlan

/-- The plan of one comparison with a column. -/
structure Selects (p : CollectionPlan) (c : Collection) (cmp : Comparison) (column : Column) :
    Prop where
  collection_eq : p.collection = c
  condition_eq : ∃ t, Comparison.columnTest column cmp.field cmp.operator cmp.value = .ok t ∧
    p.condition = some (.test column.name t)

/-- A comparison with a column that is no text has no pattern. -/
theorem Selects.condition_short (hp : p.Selects c cmp column) (htext : column.kind.isText = false) :
    ∀ clause, p.condition = some clause → clause.isOverlong = false := by
  obtain ⟨t, ht, hcondition⟩ := hp.condition_eq
  intro clause hclause
  cases hcondition.symm.trans hclause
  rw [Clause.isOverlong_test, ← Bool.not_eq_true, Comparison.isOverlong_iff ht]
  rintro ⟨htext', -⟩
  rw [htext] at htext'
  cases htext'

variable (hs : s.present = true) (hp : p.Selects c cmp column)
include hs hp

/-- If a cell passes the comparison, then the rows can be selected. -/
theorem Selects.exists_selected {cell : Cell} (h : cmp.Passes column cell) (task : Engine.Task) :
    ∃ found, p.selected s .staff task = .ok found := by
  obtain ⟨t, ht, hcondition⟩ := hp.condition_eq
  obtain ⟨u, hu, hshort, -⟩ := h
  obtain ⟨_, ht', hbind⟩ := Comparison.cellTest?_eq_some.1 hu
  cases ht.symm.trans ht'
  exact ⟨_, selected_of_test hs hcondition hbind hshort task⟩

/-- A row is selected if its cell passes. -/
theorem Selects.mem_selected_iff (htext : column.kind.isText = false) {task : Engine.Task}
    {found : List Row} (hfound : p.selected s .staff task = .ok found) (hrow : row ∈ s.rows c) :
    row ∈ found ↔ cmp.Passes column (row.cell column.name) := by
  obtain ⟨t, ht, hcondition⟩ := hp.condition_eq
  obtain ⟨bound, hcells, hmatching⟩ := bind_eq_ok.1 (selected_of_some hs hcondition ▸ hfound)
  have hbound := Clause.bind_of_cells (cells_eq_ok.1 hcells).2
  obtain ⟨u, hbind, rfl⟩ := Clause.bind_test_eq_ok.1 hbound
  have hshort : u.isOverlong = false := by
    rw [← Clause.isOverlong_test column.name u, Clause.isOverlong_bind hbound]
    exact hp.condition_short htext _ hcondition
  rw [Comparison.passes_iff ht hbind]
  rw [matching] at hmatching
  split at hmatching
  · cases hmatching
  · cases hmatching
    simp [Clause.truth, hshort, hp.collection_eq, hrow]

end CollectionPlan

namespace Service

open CollectionPlan

variable {op : Operator} {v w : Value}

/-- The condition that compares a column with a value. -/
def comparing (column : Column) (op : Operator) (v : Value) : FilterCondition :=
  ⟨column.name, op.name, v⟩

/-- A page of the rows that meet the condition. -/
def listComparing (settings : Settings) (s : Store) (name : String) (column : Column)
    (op : Operator) (v : Value) (page : Nat) : Except Failure (Page Value) :=
  listRaw settings s .staff name (.selecting (comparing column op v) page)

/-- The pages of the rows that meet a condition are there, and one of them has the row with an
identifier. -/
structure Finds (settings : Settings) (s : Store) (name : String) (column : Column)
    (op : Operator) (v : Value) (id : Option Value) : Prop where
  /-- Every page that the storage engine can number is there. -/
  accepted : ∀ k : Nat, Number.isWord (k * settings.defaultLimit) = true →
    ∃ page, listComparing settings s name column op v (k + 1) = .ok page
  /-- One page has the row. -/
  shown : ∃ (k : Nat) (page : Page Value),
    listComparing settings s name column op v (k + 1) = .ok page ∧
      id ∈ page.data.map RowGraph.shownId?

/-! ### The plan of a comparison -/

theorem comparison_comparing (h : op.normalize v = .ok w) :
    (comparing column op v).comparison = .ok ⟨column.name, op, w⟩ := by
  have hop : Operator.ofText? (.whole op.name) = some op := by
    cases op <;> rfl
  rw [FilterCondition.comparison, comparing]
  dsimp only
  rw [hop]
  dsimp only
  rw [h]

/-- The names of columns are identifiers. -/
theorem path_of_column (h : column ∈ c.columns) :
    FieldPath.isPath column.name = true ∧ FieldPath.names column.name = [column.name] := by
  have hall : (c.columns.all fun column => FieldPath.isPath column.name &&
      FieldPath.names column.name == [column.name]) = true := by
    cases c <;> decide
  simpa using List.all_eq_true.1 hall column h

/-- A comparison that a listing may ask for: with a column that the reader sees, and with a value
that the operator takes as `w`. -/
structure Admits (settings : Settings) (name : String) (c : Collection) (column : Column)
    (op : Operator) (v w : Value) : Prop where
  usable : settings.Usable
  resolve_eq : Collection.resolve name = .ok c
  column_mem : column ∈ c.columns
  column_shown : column.name ∉ c.hiddenFields
  normalize_eq : op.normalize v = .ok w

variable (h : Admits settings name c column op v w)
include h

theorem Admits.collectionFor_eq : collectionFor .staff name = .ok c := by
  rw [collectionFor, h.resolve_eq]
  rfl

/-- The query is read with the default length of a page. -/
theorem Admits.listComparing_eq (k : Nat) : listComparing settings s name column op v (k + 1) =
    (list settings s .staff name
      (.selecting (comparing column op v) settings.defaultLimit (k + 1))).result := by
  have hstrip : Text.AnyText.strip op.name = op.name := by
    cases op <;> rfl
  have hraw : QueryParams.ofRaw settings (.selecting (comparing column op v) (k + 1)) =
      .ok (.selecting (comparing column op v) settings.defaultLimit (k + 1 : Nat)) :=
    QueryParams.ofRaw_selecting (path_of_column h.column_mem).1 hstrip (Nat.le_add_left 1 k)
      h.usable.limit_le h.usable.one_le_depth
  simp only [listComparing, listRaw, hraw, bind, Except.bind, Nat.cast_succ]

theorem Admits.plan_eq (limit page : Int) : (Plan.of settings (listContext .staff c)
    (.selecting (comparing column op v) limit page)).result = .ok {
      collection := c.name
      predicate := .leaf ⟨column.name, op, w⟩
      order := []
      projection := none
      relations := []
      skip := (page - 1) * limit
      take := limit } := by
  rw [Plan.of_selecting (comparison_comparing h.normalize_eq) h.usable.one_le_depth rfl]
  rfl

/-- The condition of the plan is the test of the column, if the comparison can be made. -/
theorem Admits.clause_eq : (Predicate.leaf ⟨column.name, op, w⟩).clause .staff c =
    (Comparison.columnTest column column.name op w).map fun t => some (.test column.name t) :=
  Predicate.clause_leaf (path_of_column h.column_mem).2
    (Collection.visibleColumn?_name h.column_mem h.column_shown)

theorem Admits.selects {limit page : Int}
    (hplan : listPlan settings .staff name (.selecting (comparing column op v) limit page) =
      .ok p) : p.Selects c ⟨column.name, op, w⟩ column := by
  obtain ⟨_, plan, hc, hplan, hread⟩ := listPlan_eq_ok.1 hplan
  cases h.collectionFor_eq.symm.trans hc
  cases (h.plan_eq limit page).symm.trans hplan
  obtain ⟨_, _, _, _, hclause, -, -, -, rfl⟩ := ofPlan_eq_ok.1 hread
  obtain ⟨t, ht, rfl⟩ := map_eq_ok.1 (h.clause_eq ▸ hclause)
  exact ⟨rfl, t, ht, rfl⟩

theorem Admits.exists_plan {t : CellTest Operand}
    (ht : Comparison.columnTest column column.name op w = .ok t) (limit page : Int) :
    ∃ plan p, (Plan.of settings (listContext .staff c)
      (.selecting (comparing column op v) limit page)).result = .ok plan ∧
      ofPlan .staff c plan = .ok p := by
  have hclause := h.clause_eq
  rw [ht] at hclause
  have horder : (Collection.defaultOrder c.columns).mapM (SortColumn.ofKey .staff c) =
      .ok [⟨[], "created_at", .descending⟩] := by
    cases c <;> rfl
  exact ⟨_, _, h.plan_eq limit page,
    ofPlan_eq_ok.2 ⟨_, _, [], _, hclause, horder, rfl, rfl, rfl⟩⟩

/-! ### Rows on the pages -/

variable (htext : column.kind.isText = false) (hs : s.WellFormed) (hpresent : s.present = true)
  (hrow : row ∈ s.rows c)
include htext hs hpresent hrow

/-- A page has a row only if its cell passes. -/
theorem Admits.passes_of_shown {k : Nat} {page : Page Value}
    (hpage : listComparing settings s name column op v (k + 1) = .ok page)
    (hid : some (.text row.id.text) ∈ page.data.map RowGraph.shownId?) :
    Comparison.Passes ⟨column.name, op, w⟩ column (row.cell column.name) := by
  rw [h.listComparing_eq] at hpage
  obtain ⟨p, rows, total, hplan, hrun, hdata, -⟩ := list_eq_ok hpage
  have hselects := h.selects hplan
  obtain ⟨found, hruns, rfl, -⟩ := run_eq_ok.1 hrun
  have hsub : ∀ other ∈ found, other ∈ s.rows p.collection :=
    fun other hother => (selected_sublist hruns.selected).subset hother
  have hids : page.data.map RowGraph.shownId? =
      (p.onPage s .staff found).map fun other => some (.text other.id.text) := by
    rw [← hdata, List.map_map]
    exact shownIds_pageRows hs (fits_listPlan hplan) hsub
  obtain ⟨other, hother, heq⟩ := List.mem_map.1 (hids ▸ hid)
  have hmem := mem_of_mem_onPage hother
  obtain rfl : other = row := by
    refine hs.eq_of_id_eq (hselects.collection_eq ▸ hsub other hmem) hrow (Uuid.text_injective ?_)
    simpa using heq
  exact (hselects.mem_selected_iff hpresent htext hruns.selected hrow).1 hmem

/-- A comparison that the cell of a row passes finds the row, if all rows can be read back. -/
theorem Admits.finds_of_passes (hlegible : ∀ other ∈ s.rows c, other.Legible c)
    (hsize : Number.isWord (s.rows c).length = true)
    (hpasses : Comparison.Passes ⟨column.name, op, w⟩ column (row.cell column.name)) :
    Finds settings s name column op v (some (.text row.id.text)) := by
  obtain ⟨u, hu, -⟩ := id hpasses
  obtain ⟨t, ht, -⟩ := Comparison.cellTest?_eq_some.1 hu
  obtain ⟨plan, p, hplan, hread⟩ := h.exists_plan ht settings.defaultLimit 1
  have hselects : p.Selects c ⟨column.name, op, w⟩ column :=
    h.selects (listPlan_eq_ok.2 ⟨c, plan, h.collectionFor_eq, hplan, hread⟩)
  obtain ⟨found, hfound⟩ := hselects.exists_selected hpresent hpasses .count
  have hmem := (hselects.mem_selected_iff hpresent htext hfound hrow).2 hpasses
  have hcount : Number.isWord found.length = true :=
    isWord_of_le (hselects.collection_eq ▸ (selected_sublist hfound).length_le) hsize
  have hread' : p.misread? (sortRows s .staff p.order found) = none :=
    misread?_of_legible fun other hother => hselects.collection_eq ▸ hlegible other
      (hselects.collection_eq ▸ (selected_sublist hfound).subset (mem_sortRows.1 hother))
  have hpage (k : Nat) (hskip : Number.isWord (k * settings.defaultLimit) = true) :=
    list_page h.collectionFor_eq hplan hread h.usable.leaves_time hfound h.usable.one_le_limit
      h.usable.limit_word hskip hs hcount
      (refuses_of_short (hselects.condition_short htext) s .staff _) (misread?_inPlace hread' _ k)
  refine ⟨fun k hk => ?_, ?_⟩
  · obtain ⟨page, hlist, -⟩ := hpage k hk
    exact ⟨page, (h.listComparing_eq k).trans hlist⟩
  · have hlimit : 0 < settings.defaultLimit.toNat := by
      have hone := h.usable.one_le_limit
      omega
    have hsorted : row ∈ sortRows s .staff p.order found := mem_sortRows.2 hmem
    rw [← List.flatMap_pages (sortRows s .staff p.order found) hlimit] at hsorted
    obtain ⟨k, hk, hrow⟩ := List.mem_flatMap.1 hsorted
    have hlength : (sortRows s .staff p.order found).length = found.length :=
      (sortRows_perm p.order found).length_eq
    rw [List.mem_range, hlength] at hk
    obtain ⟨page, hlist, -, hids⟩ := hpage k (isWord_filledPage h.usable.one_le_limit hk hcount)
    refine ⟨k, page, (h.listComparing_eq k).trans hlist, ?_⟩
    rw [hids, inPlace]
    exact List.mem_map.2 ⟨row, hrow, rfl⟩

/-- A comparison finds a row exactly if its cell passes, and otherwise no page has the row, if all
rows can be read back. -/
theorem Admits.finds_iff (hlegible : ∀ other ∈ s.rows c, other.Legible c)
    (hsize : Number.isWord (s.rows c).length = true) :
    (Finds settings s name column op v (some (.text row.id.text)) ↔
      Comparison.Passes ⟨column.name, op, w⟩ column (row.cell column.name)) ∧
    (¬ Comparison.Passes ⟨column.name, op, w⟩ column (row.cell column.name) →
      ∀ k page, listComparing settings s name column op v (k + 1) = .ok page →
        some (.text row.id.text) ∉ page.data.map RowGraph.shownId?) := by
  refine ⟨⟨fun hfinds => ?_, h.finds_of_passes htext hs hpresent hrow hlegible hsize⟩,
    fun hno k page hpage hid => ?_⟩
  · obtain ⟨k, page, hpage, hid⟩ := hfinds.shown
    exact h.passes_of_shown htext hs hpresent hrow hpage hid
  · exact hno (h.passes_of_shown htext hs hpresent hrow hpage hid)

end Service

end CollectionQuery
