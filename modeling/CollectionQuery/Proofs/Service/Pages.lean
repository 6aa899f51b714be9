import CollectionQuery.Proofs.Clause.Meaning
import CollectionQuery.Proofs.Page
import CollectionQuery.Proofs.Plan
import CollectionQuery.Proofs.QueryCall.Refusals
import CollectionQuery.Proofs.RowGraph.Lookup
import CollectionQuery.Proofs.RowOrder
import CollectionQuery.Proofs.Service.Frame
import CollectionQuery.Proofs.Service.Listing

/-!
# The pages of a result

The rows of which the predicate of a plan is true make up the result, each once, in the order of the
sort keys and then of the identifiers.  The pages of the result, one after the other, are the
result, and every page tells how many rows there are.

A page with a row that cannot be read back is not there, also if other pages are.  Nor is one whose
statement the storage engine refuses.
-/

namespace CollectionQuery

open CollectionPlan

variable {s : Store} {a : Audience} {c : Collection} {plan : Plan} {p : CollectionPlan}

/-- Whether the predicate of a plan is true of a row. -/
def Plan.selects (s : Store) (a : Audience) (c : Collection) (plan : Plan) (row : Row) : Bool :=
  (plan.predicate.eval (Comparison.truthOn s a c row)).holds

/-- The sort keys of a plan; without any, the rows that were created last come first. -/
def Plan.sortKeys (plan : Plan) : List SortKey :=
  if plan.order.isEmpty then [⟨[], "created_at", .descending⟩] else plan.order

theorem defaultOrder_eq (c : Collection) :
    Collection.defaultOrder c.columns = [⟨[], "created_at", .descending⟩] := by
  cases c <;> rfl

/-! ## The selected rows -/

/-- A plan selects the rows of which its predicate is true. -/
theorem selected_eq (hpredicate : plan.predicate.Trimmed) (hread : ofPlan a c plan = .ok p)
    {task : Engine.Task} {found : List Row} (h : p.selected s a task = .ok found) :
    found = (s.rows c).filter (plan.selects s a c) := by
  obtain ⟨condition, order, paths, columns, hcondition, -, -, -, rfl⟩ := ofPlan_eq_ok.1 hread
  cases hpresent : s.present with
  | false =>
      rw [selected_absent hpresent] at h
      cases h
  | true =>
      cases condition with
      | none =>
          rw [selected_of_none hpresent rfl] at h
          cases h
          refine (List.filter_eq_self.2 fun row _ => ?_).symm
          rw [Plan.selects, hpredicate.eval_of_clause_none hcondition]
          rfl
      | some clause =>
          rw [selected_of_some hpresent rfl] at h
          obtain ⟨bound, hcells, h⟩ := bind_eq_ok.1 h
          rw [matching] at h
          split at h
          · cases h
          · cases h
            refine List.filter_congr fun row _ => ?_
            rw [Plan.selects, hpredicate.truth_clause hcondition
              (Clause.bind_of_cells (cells_eq_ok.1 hcells).2)]

/-- The rows of a page are shown with their identifiers. -/
theorem shownIds_pageRows (hs : s.WellFormed) (hp : p.Fits a) {found : List Row}
    (hfound : ∀ row ∈ found, row ∈ s.rows p.collection) :
    (p.pageRows s a found).map (fun row => RowGraph.shownId? row.display) =
      (p.onPage s a found).map fun row => some (.text row.id.text) := by
  have honpage : ∀ row ∈ p.onPage s a found, row ∈ s.rows p.collection :=
    fun row hrow => hfound row (mem_of_mem_onPage hrow)
  rw [pageRows, List.map_map]
  refine List.map_congr_left fun row hrow => ?_
  obtain ⟨loaded, hloaded, hid⟩ := RowGraph.exists_hasId_load (s := s) (a := a)
    (c := p.collection) hrow hp.id_loaded p.paths
  exact RowGraph.shownId?_display hloaded (RowGraph.identified_load hs honpage _ _ loaded
    (List.mem_of_find?_eq_some hloaded)) hid

/-! ## One page -/

/-- The rows of a result that belong on a page. -/
def inPlace (length k : Nat) (rows : List Row) : List Row := (rows.drop (k * length)).take length

/-- The rows of a page stand behind those of the pages before it. -/
theorem window_page (rows : List Row) (k : Nat) {limit : Int} (hlimit : 0 ≤ limit) :
    window (k * limit) limit rows = inPlace limit.toNat k rows := by
  obtain ⟨length, rfl⟩ := Int.eq_ofNat_of_zero_le hlimit
  rw [window, inPlace, if_neg (by omega), ← Nat.cast_mul, Int.toNat_natCast, Int.toNat_natCast]

/-- A page takes as many rows as the query allows. -/
theorem take_ofPlan {settings : Settings} {context : PlanContext} {q : QueryParams}
    (hplan : (Plan.of settings context q).result = .ok plan) (hread : ofPlan a c plan = .ok p) :
    p.take = q.limit := by
  obtain ⟨_, _, -, -, -, -, -, htake⟩ := Plan.of_eq_ok hplan
  obtain ⟨_, _, _, _, -, -, -, -, rfl⟩ := ofPlan_eq_ok.1 hread
  exact htake

theorem sortKeys_ofPlan (hread : ofPlan a c plan = .ok p) :
    plan.sortKeys.mapM (SortColumn.ofKey a c) = .ok p.order := by
  obtain ⟨_, _, _, _, -, horder, -, -, rfl⟩ := ofPlan_eq_ok.1 hread
  rw [Plan.sortKeys, ← defaultOrder_eq c]
  exact horder

/-- A plan for the rows from another place on. -/
def CollectionPlan.startingAt (p : CollectionPlan) (skip : Int) :
    CollectionPlan :=
  { p with skip }

theorem ofPlan_startingAt (hread : ofPlan a c plan = .ok p) (skip : Int) :
    ofPlan a c { plan with skip } = .ok (p.startingAt skip) := by
  obtain ⟨condition, order, paths, columns, hcondition, horder, hpaths, hcolumns, rfl⟩ :=
    ofPlan_eq_ok.1 hread
  exact ofPlan_eq_ok.2 ⟨condition, order, paths, columns, hcondition, horder, hpaths, hcolumns, rfl⟩

theorem onPage_startingAt {settings : Settings} {context : PlanContext} {q : QueryParams}
    (hplan : (Plan.of settings context q).result = .ok plan) (hread : ofPlan a c plan = .ok p)
    (hlimit : 1 ≤ q.limit) (k : Nat) (found : List Row) :
    (p.startingAt (k * q.limit)).onPage s a found =
      inPlace q.limit.toNat k (sortRows s a p.order found) := by
  rw [← window_page _ k (by omega), onPage]
  simp only [startingAt, take_ofPlan hplan hread]

/-- Whether the storage engine refuses the statement for the rows of a plan from a place on. -/
def CollectionPlan.refusesFrom (s : Store) (a : Audience) (p : CollectionPlan) (skip : Int) :
    Bool :=
  p.refuses s a (p.startingAt skip).task

namespace Service

variable {settings : Settings} {name : String} {q : QueryParams}

/-- The identifiers that a page of a listing shows, row by row; none if there is no such page. -/
def pageIds (settings : Settings) (s : Store) (a : Audience) (name : String) (q : QueryParams)
    (page : Int) : List (Option Value) :=
  match (list settings s a name { q with page }).result with
  | .ok found => found.data.map RowGraph.shownId?
  | .error _ => []

section

variable (hc : collectionFor a name = .ok c)
  (hplan : (Plan.of settings (listContext a c) q).result = .ok plan)
  (hread : ofPlan a c plan = .ok p) (htime : leavesTime settings.timeoutSeconds = true)
include hc hplan hread htime

/-- A page runs the plan of the first one from another place on. -/
theorem list_from (k : Nat) : ∃ log, list settings s a name { q with page := k + 1 } =
    pageOf log { q with page := k + 1 } (shown ((p.startingAt (k * q.limit)).run s a)) := by
  obtain ⟨rfl, -⟩ := fits_ofPlan hread
  have hplan' := Plan.of_page hplan (k + 1)
  rw [add_sub_cancel_right] at hplan'
  have hpage : listPlan settings a name { q with page := k + 1 } =
      .ok (p.startingAt (k * q.limit)) :=
    listPlan_eq_ok.2 ⟨p.collection, _, hc, hplan', ofPlan_startingAt hread (k * q.limit)⟩
  obtain ⟨log, hlist⟩ := list_of_listPlan hpage htime
  exact ⟨log, hlist s⟩

variable {found : List Row} (hcounted : p.selected s a .count = .ok found)
  (hlimit : 1 ≤ q.limit) (hword : Number.isWord q.limit = true) {k : Nat}
  (hskip : Number.isWord (k * q.limit) = true)
include hcounted hlimit hword hskip

omit hc htime in
/-- The rows of the page are those in its place. -/
theorem page_startingAt : (p.startingAt (k * q.limit)).page s a =
    if p.refusesFrom s a (k * q.limit) then .error .refused
    else match p.misread? (inPlace q.limit.toNat k (sortRows s a p.order found)) with
      | some cause => .error (.fault cause)
      | none => .ok ((p.startingAt (k * q.limit)).pageRows s a found) := by
  have htake := take_ofPlan hplan hread
  have hnumbered : (p.startingAt (k * q.limit)).isNumbered = true := by
    simp only [isNumbered, startingAt, htake, hword, hskip, Bool.and_self]
  have hselected : (p.startingAt (k * q.limit)).selected s a (p.startingAt (k * q.limit)).task =
      if p.refusesFrom s a (k * q.limit) then .error .refused else .ok found :=
    selected_of_selected hcounted _
  have honpage := onPage_startingAt (s := s) hplan hread hlimit k found
  rw [page_eq_bind, if_pos hnumbered, hselected]
  cases p.refusesFrom s a (k * q.limit) with
  | true => rfl
  | false =>
      simp only [bind, Except.bind, readPage, honpage, Bool.false_eq_true, if_false]
      rfl

theorem list_page_refused (h : p.refusesFrom s a (k * q.limit) = true) :
    (list settings s a name { q with page := k + 1 }).result =
      .error (.engine Failure.engineDetail) := by
  have hpage := page_startingAt hplan hread hcounted hlimit hword hskip
  rw [if_pos h] at hpage
  obtain ⟨log, hlist⟩ := list_from (s := s) hc hplan hread htime k
  have hrun := run_of_counted (p := p.startingAt (k * q.limit)) hcounted
  rw [hlist, hrun, hpage]
  rfl

theorem list_page_misread (h : p.refusesFrom s a (k * q.limit) = false) {cause : Fault}
    (hmisread : p.misread? (inPlace q.limit.toNat k (sortRows s a p.order found)) = some cause) :
    (list settings s a name { q with page := k + 1 }).result = .error (.fault cause) := by
  have hpage := page_startingAt hplan hread hcounted hlimit hword hskip
  rw [h, hmisread] at hpage
  obtain ⟨log, hlist⟩ := list_from (s := s) hc hplan hread htime k
  have hrun := run_of_counted (p := p.startingAt (k * q.limit)) hcounted
  rw [hlist, hrun, hpage]
  rfl

/-- A page that the storage engine can number shows the rows in its place. -/
theorem list_page (hs : s.WellFormed) (hsize : Number.isWord found.length = true)
    (h : p.refusesFrom s a (k * q.limit) = false)
    (hmisread : p.misread? (inPlace q.limit.toNat k (sortRows s a p.order found)) = none) :
    ∃ page, (list settings s a name { q with page := k + 1 }).result = .ok page ∧
      page.info.totalItems = found.length ∧
      page.data.map RowGraph.shownId? =
        (inPlace q.limit.toNat k (sortRows s a p.order found)).map fun row =>
          some (.text row.id.text) := by
  have hpage := page_startingAt hplan hread hcounted hlimit hword hskip
  rw [h, hmisread] at hpage
  obtain ⟨log, hlist⟩ := list_from (s := s) hc hplan hread htime k
  have hrun := run_of_counted (p := p.startingAt (k * q.limit)) hcounted
  rw [hpage] at hrun
  obtain ⟨info, hinfo, htotal⟩ := PageMeta.exists_of (k + 1 : Int) hlimit
    (Number.natAbs_lt_of_isWord hsize)
  refine ⟨⟨((p.startingAt (k * q.limit)).pageRows s a found).map PageRow.display, info⟩, ?_,
    htotal, ?_⟩
  · rw [hlist, hrun]
    exact pageOf_eq_ok.2 ⟨found.length, shown_eq_ok.2 ⟨_, rfl, rfl⟩, hinfo⟩
  · have hids := shownIds_pageRows (p := p.startingAt (k * q.limit)) hs
      (fits_ofPlan (ofPlan_startingAt hread _)).2 fun row hrow =>
        (selected_sublist hcounted).subset hrow
    rw [onPage_startingAt hplan hread hlimit] at hids
    rw [List.map_map]
    exact hids

end

/-! ## All pages -/

/-- How many pages of a length a number of rows fills. -/
def filledPages (total length : Nat) : Nat := (total + length - 1) / length

theorem mul_lt_of_lt_filledPages {total length k : Nat} (hlength : 0 < length)
    (h : k < filledPages total length) : k * length < total := by
  have hmul := (Nat.le_div_iff_mul_le hlength).1 (Nat.succ_le_of_lt h)
  rw [Nat.succ_mul] at hmul
  omega

theorem le_mul_of_filledPages_le {total length k : Nat} (hlength : 0 < length)
    (h : filledPages total length ≤ k) : total ≤ k * length := by
  have hlt := (Nat.div_lt_iff_lt_mul hlength).1 (Nat.lt_succ_of_le h)
  rw [Nat.succ_mul] at hlt
  omega

theorem isWord_of_le {m n : Nat} (h : m ≤ n) (hn : Number.isWord n = true) :
    Number.isWord m = true := by
  obtain ⟨-, hupper⟩ := Number.isWord_iff.1 hn
  exact Number.isWord_iff.2 (by omega)

/-- The storage engine can number the filled pages if it can count the rows. -/
theorem isWord_filledPage {total k : Nat} {limit : Int} (hlimit : 1 ≤ limit)
    (hk : k < filledPages total limit.toNat) (htotal : Number.isWord total = true) :
    Number.isWord (k * limit) = true := by
  have hcast : (k : Int) * limit = ((k * limit.toNat : Nat) : Int) := by
    rw [Nat.cast_mul, Int.toNat_of_nonneg (by omega)]
  rw [hcast]
  exact isWord_of_le (mul_lt_of_lt_filledPages (by omega) hk).le htotal

/-- The filled pages in a row show all rows, if each of them shows the rows in its place. -/
theorem flatMap_pageIds {rows : List Row} (hlimit : 0 < q.limit.toNat)
    (hpage : ∀ k : Nat, k < filledPages rows.length q.limit.toNat →
      pageIds settings s a name q (k + 1) =
        (inPlace q.limit.toNat k rows).map fun row => some (.text row.id.text)) :
    ((List.range (filledPages rows.length q.limit.toNat)).flatMap fun k : Nat =>
      pageIds settings s a name q (k + 1)) = rows.map fun row => some (.text row.id.text) := by
  simp only [inPlace] at hpage
  rw [List.flatMap_congr fun k hk => hpage k (List.mem_range.1 hk), ← List.map_flatMap, filledPages,
    List.flatMap_pages _ hlimit]

/-- The pages of a listing make up a result: `p` is the plan of the first page, `ordered` are the
rows, and `total` is what is said of their number. -/
structure Partitioned (settings : Settings) (s : Store) (a : Audience) (name : String)
    (q : QueryParams) (c : Collection) (plan : Plan) (p : CollectionPlan) (total : Int)
    (ordered : List Row) : Prop where
  /-- The rows are those of which the predicate is true, each once. -/
  rows_selected : ordered.Perm ((s.rows c).filter (plan.selects s a c))
  /-- They are in the order of the sort keys and then of the identifiers. -/
  rows_sorted : ordered.Pairwise (Precedes s a c plan.sortKeys)
  /-- In this order null comes before everything else. -/
  null_least : ∀ cell : Cell, cell ≠ .null → Cell.null.compare cell = .lt
  /-- The total is the number of the rows. -/
  total_eq : total = ordered.length
  /-- The filled pages show the identifiers of the rows, one page after the other, if all rows can
  be read back and no page is refused. -/
  pages_eq : p.misread? ordered = none →
    (∀ k : Nat, k < filledPages ordered.length q.limit.toNat →
      p.refusesFrom s a (k * q.limit) = false) →
    ((List.range (filledPages ordered.length q.limit.toNat)).flatMap fun k : Nat =>
      pageIds settings s a name q (k + 1)) = ordered.map fun row => some (.text row.id.text)
  /-- Every page that the storage engine can number and does not refuse is there and tells the
  total, if its rows can be read back; behind the filled pages it is empty. -/
  page_exists : ∀ k : Nat, Number.isWord (k * q.limit) = true →
    p.refusesFrom s a (k * q.limit) = false →
    p.misread? (inPlace q.limit.toNat k ordered) = none →
    ∃ page, (list settings s a name { q with page := k + 1 }).result = .ok page ∧
      page.info.totalItems = total ∧
      page.data.map RowGraph.shownId? =
        (inPlace q.limit.toNat k ordered).map (fun row => some (.text row.id.text)) ∧
      (filledPages ordered.length q.limit.toNat ≤ k → page.data = [])
  /-- A page with a row that cannot be read back is not there. -/
  page_misread : ∀ k : Nat, Number.isWord (k * q.limit) = true →
    p.refusesFrom s a (k * q.limit) = false →
    ∀ cause, p.misread? (inPlace q.limit.toNat k ordered) = some cause →
      (list settings s a name { q with page := k + 1 }).result = .error (.fault cause)
  page_refused : ∀ k : Nat, Number.isWord (k * q.limit) = true →
    p.refusesFrom s a (k * q.limit) = true →
    (list settings s a name { q with page := k + 1 }).result =
      .error (.engine Failure.engineDetail)

theorem misread?_of_legible {rows : List Row} (h : ∀ row ∈ rows, row.Legible p.collection) :
    p.misread? rows = none := by
  rw [misread?, List.findSome?_eq_none_iff]
  exact fun row hrow => (h row hrow).misread? p.columns

/-- What can be read back can be read back in its place. -/
theorem misread?_inPlace {rows : List Row} (h : p.misread? rows = none) (length k : Nat) :
    p.misread? (inPlace length k rows) = none := by
  rw [misread?, List.findSome?_eq_none_iff] at h ⊢
  exact fun row hrow => h row (List.mem_of_mem_drop (List.mem_of_mem_take hrow))

/-- The pages of a listing that the executor accepts make up the rows of which the predicate of its
plan is true.  No table has more rows than the storage engine can count. -/
theorem pages_partition_result (hs : s.WellFormed) (hc : collectionFor a name = .ok c)
    (hplan : (Plan.of settings (listContext a c) q).result = .ok plan) {rows : List PageRow}
    {total : Int} (haccept : (execute s a c plan false false).result = .ok (rows, total))
    (htime : leavesTime settings.timeoutSeconds = true) (hlimit : 1 ≤ q.limit)
    (hsize : Number.isWord (s.rows c).length = true) :
    ∃ p ordered, ofPlan a c plan = .ok p ∧
      Partitioned settings s a name q c plan p total ordered := by
  obtain ⟨p, hread, hrun⟩ := execute_eq_ok haccept
  obtain ⟨found, hruns, -, rfl⟩ := run_eq_ok.1 hrun
  have hcounted := hruns.counted
  have hcollection : p.collection = c := (fits_ofPlan hread).1
  have hpredicate : plan.predicate.Trimmed := by
    refine Plan.trimmed_predicate ?_ hplan
    cases a <;> trivial
  have hfound := selected_eq hpredicate hread hcounted
  have hnodup : (found.map Row.id).Nodup :=
    (hs.ids_nodup _).sublist ((selected_sublist hcounted).map Row.id)
  have hword : Number.isWord q.limit = true :=
    take_ofPlan hplan hread ▸ (Bool.and_eq_true_iff.1 hruns.numbered).2
  have hperm := sortRows_perm (s := s) (a := a) p.order found
  have hlength : (sortRows s a p.order found).length = found.length := hperm.length_eq
  have hlimit' : 0 < q.limit.toNat := by omega
  have hsize' : Number.isWord found.length = true :=
    isWord_of_le (hcollection ▸ (selected_sublist hcounted).length_le) hsize
  have hpage {k : Nat} (hskip : Number.isWord (k * q.limit) = true) :=
    list_page hc hplan hread htime hcounted hlimit hword hskip hs hsize'
  refine ⟨p, sortRows s a p.order found, hread, {
    rows_selected := hfound ▸ hperm
    rows_sorted := ?_
    null_least := fun cell hcell => by rw [Cell.compare_null_left, if_neg hcell]
    total_eq := by rw [hlength]
    pages_eq := fun hlegible hrefuses => ?_
    page_exists := fun k hskip hrefuses hlegible => ?_
    page_misread := fun k hskip hrefuses cause hmisread =>
      list_page_misread hc hplan hread htime hcounted hlimit hword hskip hrefuses hmisread
    page_refused := fun k hskip hrefuses =>
      list_page_refused hc hplan hread htime hcounted hlimit hword hskip hrefuses }⟩
  · refine (sortRows_pairwise p.order hnodup).imp fun h => ?_
    exact (compareRows_eq_lt (sortKeys_ofPlan hread)).1 h
  · refine flatMap_pageIds hlimit' fun k hk => ?_
    have hskip := isWord_filledPage hlimit hk (hlength ▸ hsize')
    obtain ⟨page, hlist, -, hdata⟩ := hpage hskip (hrefuses k hk) (misread?_inPlace hlegible _ k)
    rw [pageIds, hlist]
    exact hdata
  · obtain ⟨page, hlist, htotal, hdata⟩ := hpage hskip hrefuses hlegible
    refine ⟨page, hlist, htotal, hdata, fun hbehind => ?_⟩
    have hlast := le_mul_of_filledPages_le hlimit' hbehind
    rw [inPlace, List.drop_eq_nil_of_le hlast, List.take_nil, List.map_nil] at hdata
    exact List.map_eq_nil_iff.1 hdata

/-- The plan for pages of one row in the order of one column. -/
theorem plan_ascending (c : Collection) {column : String}
    (horder : SortKey.ofTexts column "ASC" = .ok [⟨[], column, .ascending⟩]) :
    (Plan.of {} (listContext .staff c)
      ⟨1, 1, some column, some "ASC", none, [], none, [], [], [], false⟩).result = .ok {
        collection := c.name
        predicate := .always
        order := [⟨[], column, .ascending⟩]
        projection := none
        relations := []
        skip := 0
        take := 1 } := by
  have hfilter : filterPredicate 5 false none = .ok .always := by rfl
  have hsearch (fields : List String) :
      Outcome.ofExcept (searchPredicate "" [] fields) = .ok .always := by rfl
  rw [Plan.of]
  dsimp only [listContext, Option.getD_none, Option.getD_some]
  rw [hfilter, Outcome.ok_bind, hsearch, Outcome.ok_bind, RelationPath.requested_nil,
    Outcome.ok_bind, horder]
  rfl

/-- Two categories of one name on pages of one row. -/
theorem pages_partition_result_tie :
    let category (id : Uuid) : Row := ⟨id, fun column =>
      if column = "id" then .uuid id
      else if column = "name" then .text "Guides"
      else .null⟩
    let s := (Store.empty.insert .categories (category (.drawn 1))).insert .categories
      (category (.drawn 2))
    let q : QueryParams :=
      ⟨1, 1, some "name", some "ASC", none, [], none, [], [], [], false⟩
    let plan : Plan := {
      collection := "categories"
      predicate := .always
      order := [⟨[], "name", .ascending⟩]
      projection := none
      relations := []
      skip := 0
      take := 1 }
    s.WellFormed ∧ collectionFor .staff "categories" = .ok .categories ∧
      (Plan.of {} (listContext .staff .categories) q).result = .ok plan ∧
      (∃ rows, (execute s .staff .categories plan false false).result = .ok (rows, 2)) ∧
      leavesTime ({} : Settings).timeoutSeconds = true ∧ 1 ≤ q.limit ∧
      Number.isWord (s.rows .categories).length = true ∧
      ∃ p ordered, ofPlan .staff .categories plan = .ok p ∧
        Partitioned {} s .staff "categories" q .categories plan p 2 ordered := by
  intro category s q plan
  have hs : s.WellFormed := by
    refine (Store.wellFormed_empty.insert (fun other h => by cases h) rfl ?_).insert ?_ rfl ?_
    · simp [Row.Typed, Collection.columns, Collection.ownColumns, Collection.shortText,
        systemColumns, category, ColumnKind.admits, Uuid.isLegible_drawn]
    · intro other hother
      rcases Store.mem_rows_insert.1 hother with hother | ⟨-, rfl⟩
      · cases hother
      · decide
    · simp [Row.Typed, Collection.columns, Collection.ownColumns, Collection.shortText,
        systemColumns, category, ColumnKind.admits, Uuid.isLegible_drawn]
  have hc : collectionFor .staff "categories" = .ok .categories := by rfl
  have hplan : (Plan.of {} (listContext .staff .categories) q).result = .ok plan :=
    plan_ascending .categories (by rfl)
  have haccept : ∃ rows,
      (execute s .staff .categories plan false false).result = .ok (rows, 2) := by
    have hread : ofPlan .staff .categories plan = .ok
        ⟨.categories, none, [⟨[], "name", .ascending⟩],
          Collection.categories.columns.map (·.name), [], 0, 1⟩ :=
      ofPlan_eq_ok.2 ⟨none, _, [], _, rfl, rfl, rfl, rfl, rfl⟩
    have hlegible : ∀ row ∈ s.rows .categories, row.Legible .categories := fun row hrow =>
      hs.legible_row hrow fun _ hcolumn hkind =>
        Collection.name_of_uuid (by decide) (by decide) hcolumn hkind
    rw [execute_of_ofPlan hread]
    refine ⟨_, run_eq_ok.2 ⟨s.rows .categories, ⟨rfl, by decide, rfl, ?_⟩, rfl, rfl⟩⟩
    exact misread?_of_legible fun row hrow => hlegible row (mem_of_mem_onPage hrow)
  have htime : leavesTime ({} : Settings).timeoutSeconds = true := by rfl
  obtain ⟨rows, hrows⟩ := haccept
  exact ⟨hs, hc, hplan, ⟨rows, hrows⟩, htime, le_refl 1, by decide,
    pages_partition_result hs hc hplan hrows htime (le_refl 1) (by decide)⟩

/-! ## A page that is not there -/

/-- Two blogs; the identifier of the author of the second one has no letter. -/
def twoBlogs : Store := runAll .empty [
  (.nth 1, .create "blogs" (.object [("title", .text "T"), ("content", .text "C"),
    ("author_id", .text (Uuid.drawn 9).text)])),
  (.nth 2, .create "blogs" blogByDigits)]

/-- A page of one blog, the oldest first. -/
def oldestFirst (page : Int) : QueryParams :=
  ⟨page, 1, some "created_at", some "ASC", none, [], none, [], [], [], false⟩

/-- The first page tells of two blogs, and the second page is not there. -/
theorem second_page_unread :
    Reachable twoBlogs ∧
      (∃ first, (list {} twoBlogs .staff "blogs" (oldestFirst 1)).result = .ok first ∧
        first.info.totalItems = 2) ∧
      (list {} twoBlogs .staff "blogs" (oldestFirst 2)).result =
        .error (.fault (.misread false)) := by
  have hs : Reachable twoBlogs := (Reachable.empty _).runAll _
  let plan : Plan := {
    collection := "blogs"
    predicate := .always
    order := [⟨[], "created_at", .ascending⟩]
    projection := none
    relations := []
    skip := 0
    take := 1 }
  let p : CollectionPlan := {
    collection := .blogs
    condition := none
    order := [⟨[], "created_at", .ascending⟩]
    columns := Collection.blogs.columns.map (·.name)
    paths := []
    skip := 0
    take := 1 }
  have hc : collectionFor .staff "blogs" = .ok .blogs := by rfl
  have hplan : (Plan.of {} (listContext .staff .blogs) (oldestFirst 1)).result = .ok plan :=
    plan_ascending .blogs (by rfl)
  have hread : ofPlan .staff .blogs plan = .ok p :=
    ofPlan_eq_ok.2 ⟨none, _, [], _, rfl, rfl, rfl, rfl, rfl⟩
  have htime : leavesTime ({} : Settings).timeoutSeconds = true := by rfl
  have hcounted : p.selected twoBlogs .staff .count = .ok (twoBlogs.rows .blogs) :=
    selected_of_none hs.present rfl
  have hsorted :
      sortRows twoBlogs .staff p.order (twoBlogs.rows .blogs) = twoBlogs.rows .blogs := by
    rw [sortRows]
    exact List.mergeSort_of_pairwise (by decide +kernel)
  have hlength : (twoBlogs.rows .blogs).length = 2 := by decide +kernel
  refine ⟨hs, ?_, ?_⟩
  · obtain ⟨first, hfirst, htotal, -⟩ := list_page hc hplan hread htime hcounted (le_refl 1)
      (by decide) (k := 0) (by decide) hs.wellFormed (by rw [hlength]; decide) rfl
      (by rw [hsorted]; decide +kernel)
    exact ⟨first, hfirst, by rw [htotal, hlength]; rfl⟩
  · exact list_page_misread hc hplan hread htime hcounted (le_refl 1) (by decide) (k := 1)
      (by decide) rfl (by rw [hsorted]; decide +kernel)

end Service

end CollectionQuery
