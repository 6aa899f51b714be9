import CollectionQuery.Engine.LeftToRight
import CollectionQuery.Proofs.Clause.Guarded
import CollectionQuery.Proofs.Plan
import CollectionQuery.Proofs.QueryCall.Rearranged
import CollectionQuery.Proofs.QueryCall.Refusals
import CollectionQuery.Proofs.Service.Listing
import Mathlib.Data.String.Basic

/-!
# What everyone may see

A listing for everyone selects only rows in scope: every alternative of its predicate begins with
what the scope demands.  Related rows, the order of the rows and the relations that are shown stay
in scope too, so on stores with the same rows in scope a listing ends in the same way, as far as it
is not left to the storage engine.

Two things are left to it.  One is the order in which it hands out related rows.  The other is how
far it evaluates a condition on a row before it looks at the scope: if it comes to a pattern that is
too long there, it refuses the statement, and so the listing tells of rows out of scope.
-/

namespace CollectionQuery

open CollectionPlan Text

variable {s t : Store} {c : Collection}

/-! ## The guard of a public collection -/

/-- The comparison that a scope of published rows demands. -/
def publishedComparison : Comparison := ⟨"published", .eq, .bool true⟩

/-- The clause of the comparison that a scope of published rows demands. -/
def publishedClause : Clause Operand :=
  .test "published" (.relates (· == .eq) (.single .boolean (.bool true)))

/-- The same clause with its cell. -/
def publishedTest : Clause Cell := .test "published" (.relates (· == .eq) (.bool true))

theorem clause_published (hscope : c.publicScope = some [("published", true)]) :
    publishedComparison.clause .everyone c = .ok publishedClause := by
  cases c with
  | users => cases hscope
  | categories => cases hscope
  | blogs => rfl
  | events => rfl
  | resources => rfl

theorem bind_publishedClause : publishedClause.bind Operand.bind = .ok publishedTest := rfl

theorem inScope_of_publishedTest (hs : s.WellFormed)
    (hscope : c.publicScope = some [("published", true)]) {row : Row} (hrow : row ∈ s.rows c)
    (h : publishedTest.truth s .everyone row = .yes) : Audience.everyone.inScope c row = true := by
  have hcell : row.cell "published" = .bool true := by
    rw [publishedTest, Clause.truth, CellTest.truth] at h
    rcases hs.published_cell hrow hscope with hnull | ⟨b, hb⟩
    · rw [hnull] at h
      cases h
    · rw [hb] at h ⊢
      cases b with
      | true => rfl
      | false => exact absurd h (by decide)
  simp [Audience.inScope, Audience.scope, hscope, hcell]

/-- The scope of a collection that everyone sees is empty or demands published rows. -/
theorem scope_cases (hsees : Audience.everyone.sees c = true) :
    (∀ row, Audience.everyone.inScope c row = true) ∨
      c.publicScope = some [("published", true)] := by
  obtain ⟨scope, hscope⟩ := Option.isSome_iff_exists.1 hsees
  rcases Collection.publicScope_eq hscope with rfl | rfl
  · exact Or.inl fun row => by simp [Audience.inScope, Audience.scope, hscope]
  · exact Or.inr hscope

/-! ## Related rows in another order -/

/-- Two pages that differ at most in the order of lists in their values. -/
structure Page.Rearranged (x y : Page Value) : Prop where
  data_rearranged : List.Forall₂ Value.Rearranged x.data y.data
  info_eq : x.info = y.info

namespace Page.Rearranged

variable {x y z : Page Value}

theorem symm (h : x.Rearranged y) : y.Rearranged x where
  data_rearranged := h.data_rearranged.flip.imp fun _ _ => Value.Rearranged.symm
  info_eq := h.info_eq.symm

theorem trans (h : x.Rearranged y) (h' : y.Rearranged z) : x.Rearranged z where
  data_rearranged := h.data_rearranged.trans h'.data_rearranged fun _ _ _ => .trans
  info_eq := h.info_eq.trans h'.info_eq

end Page.Rearranged

/-- The store with the same rows that hands out related rows in the order of their identifiers. -/
def Store.ordered (s : Store) : Store :=
  { s with engine := { s.engine with precedes := Engine.byNumber } }

/-- The order of related rows does not matter to what is refused. -/
theorem CollectionPlan.refuses_ordered {a : Audience} {p : CollectionPlan} {task : Engine.Task} :
    p.refuses s a task = p.refuses s.ordered a task := rfl

namespace Service

variable {settings : Settings} {name : String} {q : QueryParams} {p : CollectionPlan}

/-- Runs that show the same up to the order of lists give such pages. -/
theorem pageOf_rearranged {log : List LogEntry} {o o' : Outcome (List Value × Int)}
    (h : Outcome.Alike ShownRearranged o o') :
    Outcome.Alike Page.Rearranged (pageOf log q o) (pageOf log q o') := by
  cases h with
  | error _ f => exact .error _ f
  | @ok _ r r' hr =>
      obtain ⟨hdata, htotal⟩ := hr
      simp only [pageOf, htotal]
      cases PageMeta.of q.page q.limit r'.2 with
      | error f => exact .error _ f
      | ok info => exact .ok _ ⟨hdata, rfl⟩

/-! ## Plans for everyone -/

theorem sees_listPlan {a : Audience} (h : listPlan settings a name q = .ok p) :
    a.sees p.collection = true := by
  obtain ⟨c, plan, hc, -, hread⟩ := listPlan_eq_ok.1 h
  rw [(fits_ofPlan hread).1]
  exact collectionFor_eq_ok hc

/-- Every alternative of the condition of a listing for everyone begins with what the scope
demands. -/
theorem guarded_listPlan (h : listPlan settings .everyone name q = .ok p)
    (hscope : p.collection.publicScope = some [("published", true)]) :
    ∃ clause, p.condition = some clause ∧ Clause.Guarded publishedClause clause := by
  obtain ⟨c, plan, hc, hplan, hread⟩ := listPlan_eq_ok.1 h
  obtain ⟨rfl, -⟩ := fits_ofPlan hread
  obtain ⟨condition, order, paths, columns, hcondition, -, -, -, hp⟩ := ofPlan_eq_ok.1 hread
  obtain ⟨filter, search, hfilter, hsearch, hpredicate, -⟩ := Plan.of_eq_ok hplan
  have hmandatory : mandatory .everyone p.collection = .equals [("published", .bool true)] := by
    simp [mandatory, Audience.scope, hscope]
  have hguarded : plan.predicate.Guarded publishedComparison := by
    rw [hpredicate, listContext, hmandatory]
    exact Predicate.guarded_merge hfilter hsearch "published" (.bool true)
  have hproper : plan.predicate.Proper := by
    have htrimmed : plan.predicate.Trimmed := by
      rw [hpredicate, listContext, hmandatory]
      exact Predicate.trimmed_merge hfilter hsearch trivial
    rcases htrimmed with halways | hproper
    · rw [halways] at hguarded
      cases hguarded
    · exact hproper
  have hinner : plan.predicate.innerClause .everyone p.collection = .ok condition := by
    rw [← hcondition, Predicate.clause, hproper.isAlways]
    rfl
  obtain ⟨clause, rfl⟩ := hproper.innerClause_isSome condition hinner
  exact ⟨clause, by rw [hp], hguarded.clause (clause_published hscope) hproper hcondition⟩

/-- A row out of scope does not meet the condition of a listing for everyone. -/
theorem not_met_out_of_scope (h : listPlan settings .everyone name q = .ok p) (hs : s.WellFormed)
    {clause : Clause Operand} {bound : Clause Cell} (hcondition : p.condition = some clause)
    (hcells : cells .everyone clause = .ok bound) {row : Row} (hrow : row ∈ s.rows p.collection)
    (hout : Audience.everyone.inScope p.collection row ≠ true) :
    bound.truth s .everyone row ≠ .yes := by
  rcases scope_cases (sees_listPlan h) with hall | hscope
  · exact absurd (hall row) hout
  · obtain ⟨clause', hcondition', hguarded⟩ := guarded_listPlan h hscope
    cases hcondition.symm.trans hcondition'
    have hbound := hguarded.bind bind_publishedClause
      (Clause.bind_of_cells (cells_eq_ok.1 hcells).2)
    exact hbound.truth_ne_yes fun hyes => hout (inScope_of_publishedTest hs hscope hrow hyes)

/-- A listing for everyone selects only rows in scope. -/
theorem scoped_listPlan (h : listPlan settings .everyone name q = .ok p) (hs : s.WellFormed) :
    p.Scoped s .everyone where
  all_in_scope hcondition row _ := by
    rcases scope_cases (sees_listPlan h) with hall | hscope
    · exact hall row
    · obtain ⟨clause, hsome, -⟩ := guarded_listPlan h hscope
      cases hcondition.symm.trans hsome
  meeting_in_scope clause bound hcondition hcells row hrow htruth := by
    by_contra hout
    exact not_met_out_of_scope h hs hcondition hcells hrow hout htruth

/-! ## Statements that the storage engine refuses -/

/-- Whether the storage engine refuses a statement of a listing. -/
def refusesListing (settings : Settings) (s : Store) (a : Audience) (name : String)
    (q : QueryParams) : Bool :=
  s.present && leavesTime settings.timeoutSeconds &&
    match listPlan settings a name q with
    | .ok p => p.isRefused s a
    | .error _ => false

theorem refusesListing_of_listPlan {a : Audience} (hp : listPlan settings a name q = .ok p)
    (htime : leavesTime settings.timeoutSeconds = true) (s : Store) :
    refusesListing settings s a name q = (s.present && p.isRefused s a) := by
  simp [refusesListing, htime, hp]

theorem refusesListing_of_no_plan {a : Audience}
    (hno : leavesTime settings.timeoutSeconds = true → ∀ p, listPlan settings a name q ≠ .ok p)
    (s : Store) : refusesListing settings s a name q = false := by
  rw [refusesListing]
  cases htime : leavesTime settings.timeoutSeconds with
  | false => simp
  | true =>
      cases hplan : listPlan settings a name q with
      | error f => simp
      | ok p => exact absurd hplan (hno htime p)

theorem refusesListing_ordered {a : Audience} :
    refusesListing settings s.ordered a name q = refusesListing settings s a name q := by
  have hrefused (p : CollectionPlan) : p.isRefused s.ordered a = p.isRefused s a := by
    rw [isRefused, isRefused, ← refuses_ordered, ← refuses_ordered]
  rw [refusesListing, refusesListing]
  simp only [hrefused]
  rfl

/-- A plan without a pattern that is too long is not refused. -/
theorem isRefused_of_short {a : Audience}
    (hshort : ∀ clause, p.condition = some clause → clause.isOverlong = false) :
    p.isRefused s a = false := by
  rw [isRefused, refuses_of_short hshort, refuses_of_short hshort, Bool.and_false, Bool.or_false]

/-- How a listing ends tells whether it is refused. -/
theorem list_refused_iff {a : Audience} (hp : listPlan settings a name q = .ok p)
    (htime : leavesTime settings.timeoutSeconds = true) (hpresent : s.present = true)
    {clause : Clause Operand} {bound : Clause Cell} (hcondition : p.condition = some clause)
    (hcells : cells a clause = .ok bound) :
    (list settings s a name q).result = .error (.engine Failure.engineDetail) ↔
      p.isRefused s a = true := by
  obtain ⟨log, hlist⟩ := list_of_listPlan hp htime
  rw [hlist, pageOf_refused_iff, shown_refused_iff, run_refused_iff hpresent hcondition hcells]

/-- Without operands that have cells no statement comes to the storage engine. -/
theorem isRefused_of_no_cells {a : Audience}
    (h : ∀ clause bound, p.condition = some clause → cells a clause ≠ .ok bound) :
    p.isRefused s a = false := by
  rw [← Bool.not_eq_true, isRefused_iff]
  rintro ⟨task, -, hrefuses⟩
  obtain ⟨clause, bound, hcondition, hcells⟩ := exists_cells_of_refuses hrefuses
  exact h clause bound hcondition hcells

/-- Listings that fail alike are refused alike. -/
theorem refusesListing_eq {a : Audience} (hpresent : s.present = t.present)
    (h : (list settings s a name q).result = .error (.engine Failure.engineDetail) ↔
      (list settings t a name q).result = .error (.engine Failure.engineDetail)) :
    refusesListing settings s a name q = refusesListing settings t a name q := by
  rcases list_cases settings a name q with ⟨p, -, hp, htime, -⟩ | ⟨hno, -⟩
  · rw [refusesListing_of_listPlan hp htime, refusesListing_of_listPlan hp htime, hpresent]
    cases hthere : t.present with
    | false => rfl
    | true =>
        by_cases hcells :
            ∃ clause bound, p.condition = some clause ∧ cells a clause = .ok bound
        · obtain ⟨clause, bound, hcondition, hcells⟩ := hcells
          rw [list_refused_iff hp htime (hpresent.trans hthere) hcondition hcells,
            list_refused_iff hp htime hthere hcondition hcells] at h
          rw [Bool.eq_iff_iff.2 h]
        · push Not at hcells
          rw [isRefused_of_no_cells hcells, isRefused_of_no_cells hcells]
  · rw [refusesListing_of_no_plan hno, refusesListing_of_no_plan hno]

/-! ## Listings for everyone -/

/-- Two listings for everyone on stores with the same rows in scope end in the same way if the
storage engine hands out related rows in one order, and refuses a statement in both or in none. -/
theorem list_eq_of_targetsAlike (hs : s.WellFormed) (ht : t.WellFormed) (hst : s.Alike .everyone t)
    (htargets : RowGraph.TargetsAlike .everyone s t)
    (hrefuses : refusesListing settings s .everyone name q =
      refusesListing settings t .everyone name q) :
    list settings s .everyone name q = list settings t .everyone name q := by
  rcases list_cases settings .everyone name q with ⟨p, log, hp, htime, hlist⟩ | ⟨hno, log, f, hlist⟩
  · rw [hlist, hlist]
    rw [refusesListing_of_listPlan hp htime, refusesListing_of_listPlan hp htime,
      hst.present_eq] at hrefuses
    have hselection {task : Engine.Task} (hsame : p.refuses s .everyone task =
        p.refuses t .everyone task) :=
      selection_scoped hst hs ht (fits_listPlan hp) (sees_listPlan hp) hsame
        (scoped_listPlan hp hs) (scoped_listPlan hp ht)
    cases hpresent : t.present with
    | false =>
        rw [run_of_absent (hst.present_eq.trans hpresent), run_of_absent hpresent]
    | true =>
        rw [hpresent, Bool.true_and, Bool.true_and] at hrefuses
        cases hrefused : p.isRefused t .everyone with
        | true => rw [run_of_isRefused (hrefuses.trans hrefused), run_of_isRefused hrefused]
        | false =>
            have hnone {u : Store} (hu : p.isRefused u .everyone = false) {task : Engine.Task}
                (hasks : p.Asks task) : p.refuses u .everyone task = false := by
              rw [← Bool.not_eq_true] at hu ⊢
              exact fun h => hu (isRefused_iff.2 ⟨task, hasks, h⟩)
            have hsame {task : Engine.Task} (hasks : p.Asks task) :
                p.refuses s .everyone task = p.refuses t .everyone task :=
              (hnone (hrefuses.trans hrefused) hasks).trans (hnone hrefused hasks).symm
            rw [shown_run_eq hst ht htargets (fits_listPlan hp) (hselection (hsame (Or.inl rfl)))
              fun hnumbered => hselection (hsame (Or.inr ⟨hnumbered, rfl⟩))]
  · rw [hlist, hlist]

/-- A listing ends in the same way whatever the order of related rows is, up to the order of lists
in what it shows. -/
theorem list_ordered {a : Audience} (hs : s.WellFormed) (settings : Settings) (name : String)
    (q : QueryParams) : Outcome.Alike Page.Rearranged (list settings s a name q)
      (list settings s.ordered a name q) := by
  rcases list_cases settings a name q with ⟨p, log, hp, -, hlist⟩ | ⟨-, log, f, hlist⟩
  · rw [hlist, hlist]
    exact pageOf_rearranged
      (run_rearranged rfl rfl hs (fits_listPlan hp) fun _ => refuses_ordered)
  · rw [hlist, hlist]
    exact .error log f

/-- Two listings for everyone on stores with the same rows in scope end in the same way, up to the
order of lists, exactly if the storage engine refuses a statement in both or in none. -/
theorem list_rearranged_iff (hs : s.WellFormed) (ht : t.WellFormed) (hst : s.Alike .everyone t) :
    Outcome.Alike Page.Rearranged (list settings s .everyone name q)
        (list settings t .everyone name q) ↔
      refusesListing settings s .everyone name q = refusesListing settings t .everyone name q := by
  constructor
  · intro h
    exact refusesListing_eq hst.present_eq (h.error_iff _)
  · intro hrefuses
    have hs' : s.ordered.WellFormed := hs.of_rows_eq rfl
    have ht' : t.ordered.WellFormed := ht.of_rows_eq rfl
    have hst' : s.ordered.Alike .everyone t.ordered := ⟨hst.present_eq, hst.forth, hst.back⟩
    have htargets := RowGraph.targetsAlike_of_sameOrder hst' hs' ht'
      (RowGraph.sameOrder_byNumber rfl rfl)
    rw [← refusesListing_ordered (s := s), ← refusesListing_ordered (s := t)] at hrefuses
    have hordered := list_eq_of_targetsAlike hs' ht' hst' htargets hrefuses
    have hback : Outcome.Alike Page.Rearranged (list settings t.ordered .everyone name q)
        (list settings t .everyone name q) :=
      (list_ordered ht settings name q).symm fun _ _ h => h.symm
    rw [← hordered] at hback
    exact (list_ordered hs settings name q).trans (fun _ _ _ h h' => h.trans h') hback

/-- A listing for everyone depends on the rows in scope alone, and on what is left to the storage
engine: on two stores with the same rows in scope it ends in the same way, up to the order of lists,
exactly if the engine refuses a statement of it in both or in none.  This is so if the condition has
no pattern that is too long, and the order of lists is the same too if the engine hands out related
rows in one order of their identifiers. -/
theorem public_listing_noninterference (hs : s.WellFormed) (ht : t.WellFormed)
    (hst : s.Alike .everyone t) (settings : Settings) (name : String) (q : QueryParams) :
    (Outcome.Alike Page.Rearranged (list settings s .everyone name q)
        (list settings t .everyone name q) ↔
      refusesListing settings s .everyone name q = refusesListing settings t .everyone name q) ∧
    ((∀ p clause, listPlan settings .everyone name q = .ok p → p.condition = some clause →
        clause.isOverlong = false) →
      refusesListing settings s .everyone name q = refusesListing settings t .everyone name q) ∧
    (RowGraph.SameOrder .everyone s t →
      refusesListing settings s .everyone name q = refusesListing settings t .everyone name q →
      list settings s .everyone name q = list settings t .everyone name q) := by
  refine ⟨list_rearranged_iff hs ht hst, fun hshort => ?_, fun horder hrefuses => ?_⟩
  · rw [refusesListing, refusesListing, hst.present_eq]
    cases hp : listPlan settings .everyone name q with
    | error f => rfl
    | ok p =>
        dsimp only
        rw [isRefused_of_short fun clause => hshort p clause hp,
          isRefused_of_short fun clause => hshort p clause hp]
  · exact list_eq_of_targetsAlike hs ht hst
      (RowGraph.targetsAlike_of_sameOrder hst hs ht horder) hrefuses

/-! ## Categories by the titles of their resources -/

/-- The query for the categories with a resource whose title contains a text. -/
def titleQuery (text : String) : QueryParams := {
  page := 1
  limit := 10
  sortBy := none
  sortOrder := none
  search := none
  searchFields := []
  filter := some (.mk .and [⟨"resources.title", "contains", .text text⟩] [])
  select := []
  exclude := []
  relations := []
  loadAll := false }

/-- The clause of the query: a related resource has a title that matches the text as a pattern. -/
def titleClause {α : Type} (text : String) : Clause α :=
  .related ⟨"resources", .resources, true, "category_id"⟩ (.test "title"
    (.matching true (some patternEscape) (Comparison.around (escapeWildcards text.toList))))

theorem plan_titleQuery (text : String) :
    Plan.of {} (listContext .everyone .categories) (titleQuery text) = .ok {
      collection := "categories"
      predicate := .leaf ⟨"resources.title", .contains, .text text⟩
      order := []
      projection := none
      relations := []
      skip := 0
      take := 10 } := by
  have hfilter : filterPredicate 5 false (titleQuery text).filter =
      .ok (.leaf ⟨"resources.title", .contains, .text text⟩) := by
    simp only [filterPredicate, FilterGroup.predicate, titleQuery, FilterGroup.predicateAt,
      FilterCondition.predicates, FilterCondition.predicate, FilterCondition.comparison]
    rfl
  have hsearch : Outcome.ofExcept (searchPredicate "" [] []) = .ok .always := by rfl
  rw [Plan.of]
  dsimp only [titleQuery, listContext, Option.getD_none, Collection.searchFields] at hfilter ⊢
  rw [hfilter, Outcome.ok_bind, hsearch, Outcome.ok_bind, RelationPath.requested_nil,
    Outcome.ok_bind]
  rfl

/-- The plan of the query asks for related resources and for nothing else. -/
theorem listPlan_titleQuery (text : String) :
    ∃ p, listPlan {} .everyone "categories" (titleQuery text) = .ok p ∧
      p.collection = .categories ∧ p.condition = some (titleClause text) := by
  have hcollection : collectionFor .everyone "categories" = .ok .categories := by rfl
  have hnames : FieldPath.names "resources.title" = ["resources", "title"] := by rfl
  have hclause : (Predicate.leaf ⟨"resources.title", .contains, .text text⟩).clause .everyone
      .categories = .ok (some (titleClause text)) := by
    rw [Predicate.clause, Predicate.innerClause, Comparison.clause, hnames]
    rfl
  have horder : (Collection.defaultOrder Collection.categories.columns).mapM
      (SortColumn.ofKey .everyone .categories) = .ok [⟨[], "created_at", .descending⟩] := by rfl
  exact ⟨_, listPlan_eq_ok.2 ⟨.categories, _, hcollection,
    congrArg Outcome.result (plan_titleQuery text),
    ofPlan_eq_ok.2 ⟨some (titleClause text), [⟨[], "created_at", .descending⟩], [],
      Collection.categories.columns.map (·.name), hclause, horder, rfl, rfl, rfl⟩⟩, rfl, rfl⟩

theorem cells_titleClause (text : String) :
    cells .everyone (titleClause text) = .ok (titleClause text) := by
  rfl

theorem length_le_utf8Len (text : List Char) : text.length ≤ String.utf8Len text := by
  induction text with
  | nil => rfl
  | cons c rest ih =>
      have hpos := c.utf8Size_pos
      rw [List.length_cons, String.utf8Len_cons]
      omega

theorem length_le_escapeWildcards (text : List Char) :
    text.length ≤ (escapeWildcards text).length := by
  induction text with
  | nil => rfl
  | cons c rest ih =>
      rw [escapeWildcards, List.flatMap_cons, List.length_append, List.length_cons]
      rw [escapeWildcards] at ih
      split
      · simp only [List.length_cons, List.length_nil]
        omega
      · simp only [List.length_cons, List.length_nil]
        omega

/-- The pattern of a text with too many characters is too long. -/
theorem isOverlong_titleClause {text : String} (h : patternLimit < text.toList.length) :
    (CellTest.matching (α := Cell) true (some patternEscape)
      (Comparison.around (escapeWildcards text.toList))).isOverlong = true := by
  have hutf8 := length_le_utf8Len (Comparison.around (escapeWildcards text.toList))
  have hescape := length_le_escapeWildcards text.toList
  have haround : (Comparison.around (escapeWildcards text.toList)).length =
      (escapeWildcards text.toList).length + 2 := by
    simp [Comparison.around]
  rw [CellTest.isOverlong, decide_eq_true_iff, String.utf8ByteSize_ofList]
  omega

/-- The query fails in an engine that evaluates from left to right exactly if a category has a
resource at all, whoever may see that. -/
theorem list_titleQuery_refused_iff {text : String} (h : patternLimit < text.toList.length)
    (hpresent : s.present = true) (hengine : s.engine = .leftToRight) :
    (list {} s .everyone "categories" (titleQuery text)).result =
        .error (.engine Failure.engineDetail) ↔
      ((s.shownTables .categories).any fun row =>
        !(Store.related { rows := s.shownTables, engine := .lenient }
          ⟨"resources", .resources, true, "category_id"⟩ row).isEmpty) = true := by
  obtain ⟨p, hp, hcollection, hcondition⟩ := listPlan_titleQuery text
  have htime : leavesTime ({} : Settings).timeoutSeconds = true := by rfl
  have hrefuses (task : Engine.Task) : p.refuses s .everyone task =
      (s.shownTables .categories).any fun row =>
        !(Store.related { rows := s.shownTables, engine := .lenient }
          ⟨"resources", .resources, true, "category_id"⟩ row).isEmpty := by
    simp only [refuses, hcondition, hcollection, Option.map_some, cells_titleClause, hengine,
      Engine.leftToRight]
    congr 1
    funext row
    rw [titleClause, Clause.overruns]
    generalize Store.related _ _ row = others
    cases others with
    | nil => rfl
    | cons other rest =>
        rw [List.foldr_cons, Clause.overruns, isOverlong_titleClause h]
        rfl
  rw [list_refused_iff hp htime hpresent hcondition (cells_titleClause text), isRefused, hrefuses,
    hrefuses]
  cases p.isNumbered <;> simp

/-- A category. -/
def guides : Row := ⟨.drawn 1, fun column =>
  if column = "id" then .uuid (.drawn 1)
  else if column = "name" then .text "Guides"
  else if column = "slug" then .text "guides"
  else .null⟩

/-- A resource of the category that is not published. -/
def draft : Row := ⟨.drawn 2, fun column =>
  if column = "id" then .uuid (.drawn 2)
  else if column = "title" then .text "Draft"
  else if column = "category_id" then .uuid (.drawn 1)
  else if column = "published" then .bool false
  else .null⟩

/-- The store with the category alone. -/
def guidesOnly : Store := (Store.empty .leftToRight).insert .categories guides

/-- The store with the category and the resource. -/
def guidesWithDraft : Store := guidesOnly.insert .resources draft

theorem wellFormed_guidesOnly : guidesOnly.WellFormed := by
  refine Store.wellFormed_empty.insert (fun other h => by cases h) rfl ?_
  simp [Row.Typed, Collection.columns, Collection.ownColumns, Collection.shortText, systemColumns,
    guides, ColumnKind.admits, Uuid.isLegible_drawn]

theorem wellFormed_guidesWithDraft : guidesWithDraft.WellFormed := by
  refine wellFormed_guidesOnly.insert (fun other h => by cases h) rfl ?_
  simp [Row.Typed, Collection.columns, Collection.ownColumns, Collection.shortText, Collection.flag,
    systemColumns, draft, ColumnKind.admits, Uuid.isLegible_drawn]

theorem alike_guides : guidesWithDraft.Alike .everyone guidesOnly :=
  (Store.Alike.refl .everyone guidesOnly).insert fun _ => by decide

/-- A text that is too long as a pattern tells whether a category has resources that nobody may
see, if the storage engine evaluates from left to right. -/
theorem public_listing_tells_of_draft :
    let q := titleQuery (String.ofList (List.replicate 50001 'a'))
    guidesWithDraft.WellFormed ∧ guidesOnly.WellFormed ∧
      guidesWithDraft.Alike .everyone guidesOnly ∧
      (list {} guidesWithDraft .everyone "categories" q).result =
        .error (.engine Failure.engineDetail) ∧
      (list {} guidesOnly .everyone "categories" q).result ≠
        .error (.engine Failure.engineDetail) := by
  intro q
  have hlong : patternLimit < (String.ofList (List.replicate 50001 'a')).toList.length := by
    rw [String.toList_ofList, List.length_replicate]
    decide
  refine ⟨wellFormed_guidesWithDraft, wellFormed_guidesOnly, alike_guides, ?_, ?_⟩
  · exact (list_titleQuery_refused_iff hlong rfl rfl).2 (by decide +kernel)
  · exact fun h => absurd ((list_titleQuery_refused_iff hlong rfl rfl).1 h) (by decide +kernel)

/-- A short text does not. -/
theorem public_listing_noninterference_draft :
    guidesWithDraft.WellFormed ∧ guidesOnly.WellFormed ∧
      guidesWithDraft.Alike .everyone guidesOnly ∧
      list {} guidesWithDraft .everyone "categories" (titleQuery "a") =
        list {} guidesOnly .everyone "categories" (titleQuery "a") := by
  obtain ⟨-, hshort, horder⟩ := public_listing_noninterference wellFormed_guidesWithDraft
    wellFormed_guidesOnly alike_guides {} "categories" (titleQuery "a")
  refine ⟨wellFormed_guidesWithDraft, wellFormed_guidesOnly, alike_guides,
    horder (RowGraph.sameOrder_byNumber rfl rfl) (hshort fun p clause hp hcondition => ?_)⟩
  obtain ⟨p', hp', -, hcondition'⟩ := listPlan_titleQuery "a"
  cases hp.symm.trans hp'
  cases hcondition.symm.trans hcondition'
  decide

end Service

end CollectionQuery
