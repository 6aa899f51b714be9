import CollectionQuery.Proofs.Filter.Leaves
import CollectionQuery.Proofs.Plan
import CollectionQuery.Proofs.QueryParams
import CollectionQuery.Proofs.SortKey

/-!
# Plans that are well-formed

What the executor relies on in a plan comes from as many readers as a plan has parts.  The bounds of
the page are checked when the parameters are read.  The fields of conditions are checked by the
reader of filters, and their values by the operators.  The searched fields, the sort keys and the
relations are checked when the plan is made.  Each part brings its own lemma, and the plan of a raw
query has all of them.
-/

namespace CollectionQuery

/-! ## Parameters -/

namespace QueryParams

/-- The bounds of the parameters of a query, and paths for the fields of its conditions. -/
structure Bounded (settings : Settings) (q : QueryParams) : Prop where
  one_le_page : 1 ≤ q.page
  one_le_limit : 1 ≤ q.limit
  limit_le : q.limit ≤ settings.maxLimit
  fields_paths : ∀ g, q.filter = some g →
    ∀ c ∈ g.allConditions, FieldPath.isPath c.field = true

/-- A filter that was read, be it a text or an object, was read from a document. -/
theorem exists_read?_of_filter {settings : Settings} {v : Value} {g : FilterGroup}
    (h : Checked.filter settings v = .ok (some g)) :
    ∃ room document, FilterGroup.read? room document = .ok (some g) := by
  have htext (text : Text.AnyText) (h : Checked.filterText settings text = .ok (some g)) :
      ∃ room document, FilterGroup.read? room document = .ok (some g) := by
    rw [Checked.filterText] at h
    split at h
    · cases h
    split at h
    · cases h
    split at h
    · exact ⟨_, _, h⟩
    · cases h
  cases v with
  | text s => exact htext s h
  | unpaired t => exact htext t h
  | _ => exact ⟨_, _, h⟩

/-- The bounds change nothing. -/
theorem checkBounds_eq_ok {settings : Settings} {p q : QueryParams} :
    checkBounds settings p = .ok q ↔ q = p ∧ p.limit ≤ settings.maxLimit ∧
      ∀ g, p.filter = some g → (g.depth : Int) ≤ settings.filterMaxDepth := by
  rw [checkBounds]
  split
  · next hlimit =>
      exact iff_of_false (fun hok => by cases hok) fun h => absurd h.2.1 (Int.not_le.2 hlimit)
  next hlimit =>
    rw [Int.not_lt] at hlimit
    split
    · next hnone =>
        simp only [hnone, hlimit, reduceCtorEq, false_implies, implies_true, and_true,
          Except.ok.injEq]
        exact eq_comm
    · next g hsome =>
        simp only [hsome, hlimit, Option.some.injEq, forall_eq', true_and]
        split
        · next hdepth =>
            exact iff_of_false (fun hok => by cases hok) fun h => absurd h.2 (Int.not_le.2 hdepth)
        · next hdepth =>
            rw [Except.ok.injEq, eq_comm]
            exact (and_iff_left (Int.not_lt.1 hdepth)).symm

/-- Every parameter is read on its own. -/
theorem ofDocument_eq_ok {settings : Settings} {document : List (String × Value)}
    {q : QueryParams} : ofDocument settings document = .ok q ↔
      Checked.parameter document "page" "page" 1 Checked.positive = .ok q.page ∧
      Checked.parameter document "limit" "limit" settings.defaultLimit Checked.positive =
        .ok q.limit ∧
      Checked.parameter document "sortBy" "sort_by" none Checked.optionalText = .ok q.sortBy ∧
      Checked.parameter document "sortOrder" "sort_order" none Checked.optionalText =
        .ok q.sortOrder ∧
      Checked.parameter document "search" "search" none Checked.searchTerm = .ok q.search ∧
      Checked.parameter document "searchFields" "search_fields" [] Checked.texts =
        .ok q.searchFields ∧
      Checked.parameter document "filter" "filter" none (Checked.filter settings) =
        .ok q.filter ∧
      Checked.parameter document "select" "select" [] Checked.texts = .ok q.select ∧
      Checked.parameter document "exclude" "exclude" [] Checked.texts = .ok q.exclude ∧
      Checked.parameter document "relations" "relations" [] Checked.texts = .ok q.relations ∧
      Checked.parameter document "loadAll" "load_all" false Checked.bool = .ok q.loadAll := by
  constructor
  · intro h
    obtain ⟨r, hr, rfl⟩ := map_eq_ok.1 h
    simp only [Checked.both_eq_ok] at hr
    obtain ⟨⟨hpage, hlimit⟩, ⟨hsortBy, hsortOrder, hsearch⟩, ⟨hfields, hfilter⟩, hselect, hexclude,
      hrelations, hloadAll⟩ := hr
    exact ⟨hpage, hlimit, hsortBy, hsortOrder, hsearch, hfields, hfilter, hselect, hexclude,
      hrelations, hloadAll⟩
  · rintro ⟨hpage, hlimit, hsortBy, hsortOrder, hsearch, hfields, hfilter, hselect, hexclude,
      hrelations, hloadAll⟩
    rw [ofDocument, hpage, hlimit, hsortBy, hsortOrder, hsearch, hfields, hfilter, hselect,
      hexclude, hrelations, hloadAll]
    rfl

theorem bounded_of_ofRaw {settings : Settings} {raw : RawQuery} {q : QueryParams}
    (hdefault : 1 ≤ settings.defaultLimit) (h : ofRaw settings raw = .ok q) :
    q.Bounded settings := by
  obtain ⟨p, hp, hbounds⟩ := bind_eq_ok.1 (ofRaw_eq_ok.1 h)
  obtain ⟨rfl, hmost, -⟩ := checkBounds_eq_ok.1 hbounds
  obtain ⟨hpage, hlimit, -, -, -, -, hfilter, -⟩ := ofDocument_eq_ok.1 hp
  refine ⟨?_, ?_, hmost, ?_⟩
  · rcases Checked.parameter_eq_ok hpage with hone | ⟨v, hv⟩
    · exact Int.le_of_eq hone.symm
    · exact Checked.one_le_of_positive hv
  · rcases Checked.parameter_eq_ok hlimit with hone | ⟨v, hv⟩
    · rw [hone]
      exact hdefault
    · exact Checked.one_le_of_positive hv
  · intro g hg
    rw [hg] at hfilter
    rcases Checked.parameter_eq_ok hfilter with hnone | ⟨v, hv⟩
    · cases hnone
    · obtain ⟨room, document, hdocument⟩ := exists_read?_of_filter hv
      exact FilterGroup.isPath_of_read? hdocument

end QueryParams

/-! ## Searching -/

/-- A search compares each of some fields with one text. -/
theorem searchPredicate_eq_ok {term : Text.AnyText} {fields defaults : List String} {p : Predicate}
    (h : searchPredicate term fields defaults = .ok p) :
    ∀ c ∈ p.leaves, FieldPath.isPath c.field = true ∧ c.operator = .contains ∧
      c.value = .ofText term.strip := by
  simp only [searchPredicate] at h
  generalize (if fields.isEmpty then defaults else fields) = searched at h
  split at h
  · cases h
    simp
  · split at h
    · cases h
    · next hfind =>
        cases h
        intro c hc
        rw [Predicate.leaves_anyOf] at hc
        obtain ⟨p, hp, hc⟩ := List.mem_flatMap.1 hc
        obtain ⟨field, hfield, rfl⟩ := List.mem_map.1 hp
        rw [Predicate.leaves_leaf, List.mem_singleton] at hc
        rw [hc]
        exact ⟨by simpa using List.find?_eq_none.1 hfind field hfield, rfl, rfl⟩

/-! ## Selected fields -/

theorem projectionOf_eq_none {select exclude : List String} :
    projectionOf select exclude = none ↔ select = [] := by
  rw [projectionOf]
  cases select <;> simp

theorem projectionOf_eq_some {select exclude names : List String}
    (h : projectionOf select exclude = some names) :
    names.Nodup ∧ ∀ field, field ∈ names ↔ field ∈ select ∧ field ∉ exclude := by
  rw [projectionOf] at h
  split at h
  · cases h
  · cases h
    refine ⟨nodup_sortTexts.2 (nodup_firstOccurrences _), fun field => ?_⟩
    rw [mem_sortTexts, mem_firstOccurrences, List.mem_filter, decide_eq_true_iff]

/-! ## Plans -/

namespace Plan

/-- What the executor relies on in the plan of a query. -/
structure WellFormed (settings : Settings) (q : QueryParams) (plan : Plan) : Prop where
  one_le_take : 1 ≤ plan.take
  take_le : plan.take ≤ settings.maxLimit
  skip_nonneg : 0 ≤ plan.skip
  take_dvd_skip : plan.take ∣ plan.skip
  /-- Only fields that are named by paths are compared. -/
  fields_dotted : ∀ c ∈ plan.predicate.leaves, FieldPath.IsDotted c.field
  /-- Values have the form that their operator takes. -/
  values_canonical : ∀ c ∈ plan.predicate.leaves, c.operator.Takes c.value
  order_distinct : SortKey.Distinct plan.order
  relations_normal : q.loadAll = false → RelationPath.Normal plan.relations
  projection_none : plan.projection = none ↔ q.select = []
  projection_some : ∀ names, plan.projection = some names →
    names.Nodup ∧ ∀ field, field ∈ names ↔ field ∈ q.select ∧ field ∉ q.exclude

variable {settings : Settings} {context : PlanContext} {raw : RawQuery} {q : QueryParams}
  {plan : Plan}

/-- A comparison of a plan comes from what its caller demands, from a condition of the filter, or
from the search. -/
theorem leaf_of_ofRaw (hmandatory : context.mandatory.Trimmed) (hq : q.Bounded settings)
    (h : (Plan.of settings context q).result = .ok plan) :
    ∀ c ∈ plan.predicate.leaves, c ∈ context.mandatory.predicate.leaves ∨
      FieldPath.isPath c.field = true ∧ c.operator.Takes c.value := by
  obtain ⟨filter, search, named, hfilter, hsearch, -, -, -, hpredicate, -⟩ := Plan.of_parts h
  intro c hc
  rw [hpredicate, Predicate.mem_leaves_merge (trimmed_filterPredicate hfilter)
    (trimmed_searchPredicate hsearch) hmandatory] at hc
  refine hc.imp_right fun hc => ?_
  rcases hc with hc | hc
  · cases hg : q.filter with
    | none =>
        rw [hg] at hfilter
        cases hfilter
        simp at hc
    | some g =>
        rw [hg] at hfilter
        obtain ⟨condition, hcondition, hfield, hvalue⟩ :=
          exists_condition_of_mem_leaves hfilter hc
        rw [hfield]
        exact ⟨hq.fields_paths g hg condition hcondition, Operator.takes_of_canonical? hvalue⟩
  · obtain ⟨hfield, hoperator, hvalue⟩ := searchPredicate_eq_ok hsearch c hc
    rw [hoperator, hvalue]
    cases (q.search.getD "").strip <;> exact ⟨hfield, rfl, rfl, nofun⟩

/-- Relations are normal unless all are loaded that the collection has. -/
theorem relations_normal (hall : q.loadAll = false)
    (h : (Plan.of settings context q).result = .ok plan) : RelationPath.Normal plan.relations := by
  obtain ⟨-, -, named, -, -, hnamed, hrelations, -⟩ := Plan.of_parts h
  split at hrelations
  · cases hrelations
    simp only [RelationPath.requested, hall] at hnamed
    exact RelationPath.normal_of_normalize hnamed
  · exact RelationPath.normal_of_normalize hrelations

/-- The plan of a raw query is well-formed. -/
theorem wellFormed_of_ofRaw (hdefault : 1 ≤ settings.defaultLimit)
    (hmandatory : context.mandatory = .none) (hraw : QueryParams.ofRaw settings raw = .ok q)
    (h : (Plan.of settings context q).result = .ok plan) : plan.WellFormed settings q := by
  have hq := QueryParams.bounded_of_ofRaw hdefault hraw
  have hleaves : ∀ c ∈ plan.predicate.leaves,
      FieldPath.isPath c.field = true ∧ c.operator.Takes c.value := by
    intro c hc
    refine (leaf_of_ofRaw (by rw [hmandatory]; trivial) hq h c hc).resolve_left fun hdemanded => ?_
    rw [hmandatory, Mandatory.predicate, Predicate.leaves_always] at hdemanded
    cases hdemanded
  obtain ⟨-, -, -, -, -, -, -, horder, -, hprojection, hskip, htake⟩ := Plan.of_parts h
  have hone := hq.one_le_limit
  exact {
    one_le_take := htake ▸ hone
    take_le := htake ▸ hq.limit_le
    skip_nonneg := by
      rw [hskip]
      exact Int.mul_nonneg (Int.sub_nonneg.2 hq.one_le_page) (by omega)
    take_dvd_skip := by
      rw [hskip, htake]
      exact Int.dvd_mul_left _ _
    fields_dotted := fun c hc => FieldPath.isPath_iff.1 (hleaves c hc).1
    values_canonical := fun c hc => (hleaves c hc).2
    order_distinct := SortKey.distinct_of_ofTexts horder
    relations_normal := fun hall => relations_normal hall h
    projection_none := by
      rw [hprojection]
      exact projectionOf_eq_none
    projection_some := fun names hnames => projectionOf_eq_some (hprojection ▸ hnames) }

/-- The third page of a search with a filter, a repeated sort key and a relation. -/
def thirdPage : RawQuery :=
  .pairs [("page", .text "3"), ("limit", .text "7"), ("filter", .text QueryParams.titleText),
    ("sortBy", .text "author.name, title, title"), ("search", .text " a "),
    ("searchFields", .text "slug"), ("select[]", .text "title"), ("exclude", .text "slug"),
    ("relations", .text "author")]

theorem wellFormed_of_ofRaw_third_page :
    ∃ q plan, QueryParams.ofRaw {} thirdPage = .ok q ∧
      (Plan.of {} { collection := "articles" } q).result = .ok plan ∧ plan.WellFormed {} q := by
  have hread : ((QueryParams.ofRaw {} thirdPage).bind fun q =>
      (Plan.of {} { collection := "articles" } q).result).isOk = true := by decide +kernel
  obtain ⟨plan, hplan⟩ := exists_eq_ok_of_isOk hread
  obtain ⟨q, hq, hplan⟩ := bind_eq_ok.1 hplan
  exact ⟨q, plan, hq, hplan, wellFormed_of_ofRaw (by decide) rfl hq hplan⟩

end Plan

end CollectionQuery
