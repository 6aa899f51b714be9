import CollectionQuery.Proofs.RowGraph.Columns
import CollectionQuery.Proofs.Plan.WellFormed
import CollectionQuery.Proofs.Service.Frame
import CollectionQuery.Proofs.Service.Pages
import CollectionQuery.Proofs.Uuid

/-!
# Selected fields

A listing that selects fields shows, of every row, the selected fields that are not excluded, the
identifier, and what the first relation of every path starts from.  It shows all other columns too
exactly if a path of relations that is asked for leads back to the row: the row is in memory once,
and what is reached along a path is read in full.
-/

namespace CollectionQuery

open CollectionPlan

variable {s : Store} {a : Audience} {c : Collection} {p : CollectionPlan}
  {paths : List (List Relation)}

/-! ## Columns of a page -/

/-- What a relation starts from is shown. -/
theorem Relation.localColumn_shown {r : Relation} (h : r ∈ c.relations) :
    r.localColumn ∉ c.hiddenFields := by
  have hall : (c.relations.all fun r => r.localColumn ∉ c.hiddenFields) = true := by
    cases c <;> decide
  simpa using List.all_eq_true.1 hall r h

/-- The columns that a projection loads, all of which are shown. -/
theorem CollectionPlan.mem_projectedColumns {names columns : List String}
    (hpaths : ∀ path ∈ paths, ∃ d, a.Leads c path d)
    (h : projectedColumns c (some names) paths = .ok columns) (name : String) :
    (name ∈ columns ↔ name ∈ names ∨ name = "id" ∨
      ∃ path ∈ paths, path.head?.map Relation.localColumn = some name) ∧
    (name ∈ columns → name ∉ c.hiddenFields) := by
  rw [projectedColumns] at h
  split at h
  · next hunknown =>
      cases h
      have hmem : name ∈ firstOccurrences (names ++ "id" :: paths.flatMap fun path =>
          (path.head?.map Relation.localColumn).toList) ↔ name ∈ names ∨ name = "id" ∨
            ∃ path ∈ paths, path.head?.map Relation.localColumn = some name := by
        simp only [mem_firstOccurrences, List.mem_append, List.mem_cons, List.mem_flatMap,
          Option.mem_toList]
      refine ⟨hmem, fun h => ?_⟩
      rcases hmem.1 h with hname | rfl | ⟨path, hpath, hname⟩
      · have hvisible : c.visibleColumn? name ≠ none := by
          simpa using List.filter_eq_nil_iff.1 hunknown name hname
        obtain ⟨column, hcolumn⟩ := Option.ne_none_iff_exists'.1 hvisible
        exact (Collection.visibleColumn?_eq_some hcolumn).2.2
      · exact Collection.id_not_hidden
      · obtain ⟨r, hr, rfl⟩ := Option.map_eq_some_iff.1 hname
        obtain ⟨d, hleads⟩ := hpaths path hpath
        cases hleads with
        | here => cases hr
        | step follows _ =>
            cases hr
            exact Relation.localColumn_shown (Audience.relation?_eq_some follows).1
  · cases h

namespace Service

variable {settings : Settings} {name : String} {q : QueryParams}

/-- The paths of relations that a query of a collection asks for. -/
def requestedPaths (a : Audience) (c : Collection) (q : QueryParams) :
    Except Failure (List (List Relation)) := do
  let names ← (RelationPath.requested q.relations q.loadAll (some (a.relationNames c))).result
  names.mapM fun path => pathRelations a path c (FieldPath.names path)

/-- A column that a query asks to show: it is selected and not excluded, or it is the identifier, or
the first relation of a path starts from it. -/
def Projects (q : QueryParams) (paths : List (List Relation)) (name : String) : Prop :=
  name ∈ q.select ∧ name ∉ q.exclude ∨ name = "id" ∨
    ∃ path ∈ paths, path.head?.map Relation.localColumn = some name

/-- A path of relations leads from one of the rows of a page back to a row. -/
def Returns (s : Store) (a : Audience) (c : Collection) (rows : List Row)
    (paths : List (List Relation)) (row : Row) : Prop :=
  ∃ path ∈ paths, s.PassesBy a c rows path c row

/-- The columns of a row that a page shows. -/
structure ShowsProjection (s : Store) (a : Audience) (c : Collection) (q : QueryParams)
    (paths : List (List Relation)) (rows : List Row) (row : Row) (v : Value) : Prop where
  stands : RowGraph.shownId? v = some (.text row.id.text)
  keys_iff : ∀ column ∈ c.columns, column.name ∈ v.keys ↔
    Projects q paths column.name ∨
      column.name ∉ c.hiddenFields ∧ Returns s a c rows paths row

theorem requestedPaths_ofPlan {plan : Plan}
    (hplan : (Plan.of settings (listContext a c) q).result = .ok plan)
    (hread : ofPlan a c plan = .ok p) : requestedPaths a c q = .ok p.paths := by
  obtain ⟨_, _, named, -, -, hnamed, hrelations, -⟩ := Plan.of_parts hplan
  obtain ⟨_, _, _, _, -, -, hpaths, -, rfl⟩ := ofPlan_eq_ok.1 hread
  obtain rfl : named = plan.relations := Except.ok.inj hrelations
  exact bind_eq_ok.2 ⟨_, hnamed, hpaths⟩

/-- What is shown of a row of a page. -/
theorem showsProjection_display (hs : s.WellFormed) (hp : p.Fits a) {names : List String}
    (hnames : ∀ field, field ∈ names ↔ field ∈ q.select ∧ field ∉ q.exclude)
    (hcolumns : projectedColumns p.collection (some names) p.paths = .ok p.columns)
    {rows : List Row} (hrows : ∀ row ∈ rows, row ∈ s.rows p.collection) {row : Row}
    (hrow : row ∈ rows) : ShowsProjection s a p.collection q p.paths rows row
      (RowGraph.display (.load s a p.collection rows p.columns p.paths)
        ⟨p.collection, row.id⟩) where
  stands := by
    obtain ⟨loaded, hloaded, hid⟩ := RowGraph.exists_hasId_load (s := s) (a := a)
      (c := p.collection) hrow hp.id_loaded p.paths
    exact RowGraph.shownId?_display hloaded (RowGraph.identified_load hs hrows _ _ loaded
      (List.mem_of_find?_eq_some hloaded)) hid
  keys_iff column hcolumn := by
    obtain ⟨hmem, hshown⟩ := mem_projectedColumns hp.paths_lead hcolumns column.name
    have hreturns : (∃ path ∈ p.paths, ∃ other : Row, other.id = row.id ∧
        s.PassesBy a p.collection rows path p.collection other) ↔
          Returns s a p.collection rows p.paths row := by
      refine exists_congr fun path => and_congr_right fun _ => ⟨?_, fun h => ⟨row, rfl, h⟩⟩
      rintro ⟨other, hid, hpasses⟩
      exact hs.eq_of_id_eq hpasses.mem (hrows row hrow) hid ▸ hpasses
    have hprojects : Projects q p.paths column.name ↔ column.name ∈ p.columns := by
      rw [hmem, hnames, Projects]
    rw [RowGraph.mem_keys_display (RowGraph.named_load hp.columns_known hp.paths_lead rows) hcolumn,
      RowGraph.hasColumn_load hrow, hreturns, hprojects]
    constructor
    · rintro ⟨hasked | ⟨-, hback⟩, hvisible⟩
      · exact Or.inl hasked
      · exact Or.inr ⟨hvisible, hback⟩
    · rintro (hasked | ⟨hvisible, hback⟩)
      · exact ⟨Or.inl hasked, hshown hasked⟩
      · exact ⟨Or.inr ⟨List.mem_map_of_mem hcolumn, hback⟩, hvisible⟩

/-- A listing that selects fields shows, of every row, the selected fields that are not excluded,
the identifier and what the first relations of the paths start from, and no other column, unless a
path leads back to the row: then it shows all columns that are not hidden. -/
theorem projection_exact_unless_returned (hs : s.WellFormed) (hselect : q.select ≠ [])
    {page : Page Value} (h : (list settings s a name q).result = .ok page) :
    ∃ c paths rows, collectionFor a name = .ok c ∧ requestedPaths a c q = .ok paths ∧
      (∀ row ∈ rows, row ∈ s.rows c) ∧
      List.Forall₂ (ShowsProjection s a c q paths rows) rows page.data := by
  obtain ⟨p, rows, total, hp, hrun, hdata, -⟩ := list_eq_ok h
  obtain ⟨c, plan, hc, hplan, hread⟩ := listPlan_eq_ok.1 hp
  obtain ⟨rfl, hfits⟩ := fits_ofPlan hread
  obtain ⟨found, hruns, rfl, -⟩ := run_eq_ok.1 hrun
  have hrows : ∀ row ∈ p.onPage s a found, row ∈ s.rows p.collection := fun row hrow =>
    (selected_sublist hruns.selected).subset (mem_of_mem_onPage hrow)
  refine ⟨p.collection, p.paths, _, hc, requestedPaths_ofPlan hplan hread, hrows, ?_⟩
  obtain ⟨-, -, -, -, -, -, -, -, -, hprojection, -⟩ := Plan.of_parts hplan
  obtain ⟨names, hnames⟩ := Option.ne_none_iff_exists'.1 fun hnone =>
    hselect (projectionOf_eq_none.1 hnone)
  obtain ⟨-, hfields⟩ := projectionOf_eq_some hnames
  have hcolumns : projectedColumns p.collection (some names) p.paths = .ok p.columns := by
    obtain ⟨_, _, _, _, -, -, -, hcolumns, heq⟩ := ofPlan_eq_ok.1 hread
    rw [heq, ← hnames, ← hprojection]
    exact hcolumns
  rw [← hdata, pageRows, List.map_map, List.forall₂_map_right_iff, List.forall₂_same]
  exact fun row hrow => showsProjection_display hs hfits hfields hcolumns hrows hrow

/-- A user and a blog of the user. -/
def authoredBlog : Store := runAll .empty [
  (.nth 1, .create "users" (.object [
    ("email", .text "a@b.c"), ("password", .text "secret")])),
  (.nth 2, .create "blogs" (.object [
    ("title", .text "T"), ("content", .text "C"),
    ("author_id", .text "9e3779b1-0000-4000-a000-000000000001")]))]

theorem reachable_authoredBlog : Reachable authoredBlog := (Reachable.empty _).runAll _

/-- The titles of rows with the relations of a path. -/
def titlesAlong (path : String) : QueryParams :=
  ⟨1, 10, none, none, none, [], none, ["title"], [], [path], false⟩

/-- A path that ends at the author shows what was asked for. -/
theorem projection_exact_unless_returned_author :
    authoredBlog.WellFormed ∧ (titlesAlong "author").select ≠ [] ∧
      ∃ page, (list {} authoredBlog .staff "blogs" (titlesAlong "author")).result = .ok page ∧
        page.data.map Value.keys = [["title", "id", "author_id", "author"]] ∧
        ∃ c paths rows, collectionFor .staff "blogs" = .ok c ∧
          requestedPaths .staff c (titlesAlong "author") = .ok paths ∧
          (∀ row ∈ rows, row ∈ authoredBlog.rows c) ∧
          List.Forall₂ (ShowsProjection authoredBlog .staff c (titlesAlong "author") paths rows)
            rows page.data := by
  have hs : authoredBlog.WellFormed := reachable_authoredBlog.wellFormed
  have hselect : (titlesAlong "author").select ≠ [] := nofun
  have hlist : ((list {} authoredBlog .staff "blogs" (titlesAlong "author")).result.toOption.map
      fun page => page.data.map Value.keys) = some [["title", "id", "author_id", "author"]] := by
    decide +kernel
  obtain ⟨page, hpage, hkeys⟩ := Option.map_eq_some_iff.1 hlist
  exact ⟨hs, hselect, page, eq_ok_of_toOption hpage, hkeys,
    projection_exact_unless_returned hs hselect (eq_ok_of_toOption hpage)⟩

/-- A path that goes on to the blogs of the author shows the content of the blog too. -/
theorem projection_exceeded_by_return :
    Reachable authoredBlog ∧
      ∃ paths page v, requestedPaths .staff .blogs (titlesAlong "author.blogs") = .ok paths ∧
        (list {} authoredBlog .staff "blogs" (titlesAlong "author.blogs")).result = .ok page ∧
        page.data = [v] ∧ "content" ∈ v.keys ∧
        ¬ Projects (titlesAlong "author.blogs") paths "content" := by
  have hlist : ((list {} authoredBlog .staff "blogs"
      (titlesAlong "author.blogs")).result.toOption.map fun page => page.data.map Value.keys) =
      some [["title", "id", "author_id", "content", "slug", "published", "created_at",
        "updated_at", "author"]] := by
    decide +kernel
  have hpaths : (requestedPaths .staff .blogs (titlesAlong "author.blogs")).toOption =
      some [[⟨"author", .users, false, "author_id"⟩, ⟨"blogs", .blogs, true, "author_id"⟩]] := by
    decide +kernel
  obtain ⟨page, hpage, hkeys⟩ := Option.map_eq_some_iff.1 hlist
  obtain ⟨v, hdata, hv⟩ := List.map_eq_singleton_iff.1 hkeys
  refine ⟨reachable_authoredBlog, _, page, v, eq_ok_of_toOption hpaths, eq_ok_of_toOption hpage,
    hdata, ?_, ?_⟩
  · rw [hv]
    decide
  · simp [Projects, titlesAlong, Relation.localColumn]

end Service

end CollectionQuery
