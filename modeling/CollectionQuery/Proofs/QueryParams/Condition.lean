import CollectionQuery.Plan
import CollectionQuery.Proofs.QueryParams
import CollectionQuery.Proofs.RelationPath

/-!
# Queries with one condition

A query that gives the number of a page and a filter with one condition has the defaults of all
other parameters.  If the condition makes a comparison, then this comparison is the predicate of its
plan, unless the caller demands more.
-/

namespace CollectionQuery

variable {settings : Settings} {cond : FilterCondition} {page : Nat}

/-- A group with one condition. -/
def FilterGroup.single (cond : FilterCondition) : FilterGroup := .mk .and [cond] []

/-- The object of a group with one condition. -/
def FilterCondition.document (cond : FilterCondition) : Value :=
  .object [("conditions", .list [.object
    [("field", .text cond.field), ("operator", .ofText cond.operator), ("value", cond.value)]])]

/-- The query for a page of the rows that meet a condition. -/
def RawQuery.selecting (cond : FilterCondition) (page : Nat) : RawQuery :=
  .mapping [("page", .int page), ("filter", cond.document)]

/-- The parameters of the query. -/
def QueryParams.selecting (cond : FilterCondition) (limit page : Int) : QueryParams := {
  page
  limit
  sortBy := none
  sortOrder := none
  search := none
  searchFields := []
  filter := some (.single cond)
  select := []
  exclude := []
  relations := []
  loadAll := false }

/-! ## Reading -/

theorem FilterCondition.ofValue_object (hpath : FieldPath.isPath cond.field = true)
    (hstrip : cond.operator.strip = cond.operator) :
    FilterCondition.ofValue (.object
      [("field", .text cond.field), ("operator", .ofText cond.operator), ("value", cond.value)]) =
      .ok cond := by
  have hfield : Checked.required
      [("field", .text cond.field), ("operator", .ofText cond.operator), ("value", cond.value)]
      "field" FilterCondition.readField = .ok cond.field := by
    show Checked.within "field" (FilterCondition.readField (.text cond.field)) = _
    rw [FilterCondition.readField_path hpath]
    rfl
  have hoperator : Checked.required
      [("field", .text cond.field), ("operator", .ofText cond.operator), ("value", cond.value)]
      "operator" (fun v => .ok v.anyText.strip) = .ok cond.operator := by
    show Checked.within "operator" (.ok (Value.ofText cond.operator).anyText.strip) = _
    rw [Value.anyText_ofText, hstrip]
    rfl
  rw [FilterCondition.ofValue]
  simp only [Value.members?]
  rw [hfield, hoperator]
  rfl

theorem FilterCondition.read?_document (hpath : FieldPath.isPath cond.field = true)
    (hstrip : cond.operator.strip = cond.operator) (room : Nat) :
    FilterGroup.read? (room + 1) cond.document = .ok (some (.single cond)) := by
  have hnull : cond.document.isNull = false := rfl
  rw [FilterGroup.read?, hnull, if_neg Bool.false_ne_true, FilterCondition.document,
    FilterGroup.read]
  simp only [Value.members?, FilterGroup.partsOf, GroupParts.group, FilterCondition.listOfValue,
    FilterCondition.ofItems, FilterCondition.ofValue_object hpath hstrip]
  rfl

theorem Checked.positive_natCast (h : 1 ≤ page) : Checked.positive (.int page) = .ok (page : Int) :=
  if_pos (Int.ofNat_le.2 h)

namespace QueryParams

theorem ofDocument_selecting (hpath : FieldPath.isPath cond.field = true)
    (hstrip : cond.operator.strip = cond.operator) (hpage : 1 ≤ page) :
    ofDocument settings (RawQuery.selecting cond page).document =
      .ok (selecting cond settings.defaultLimit page) := by
  have hfilter : Checked.parameter [("page", .int page), ("filter", cond.document)] "filter"
      "filter" none (Checked.filter settings) = .ok (some (.single cond)) := by
    show Checked.within "filter" (FilterGroup.read? settings.nesting.groups cond.document) = _
    have hroom : settings.nesting.groups = settings.nesting.levels - 2 + 1 := by
      have hlevels := settings.nesting.two_le_levels
      rw [NestingLimits.groups]
      omega
    rw [hroom, FilterCondition.read?_document hpath hstrip]
    rfl
  have hnumber : Checked.parameter [("page", .int page), ("filter", cond.document)] "page"
      "page" 1 Checked.positive = .ok (page : Int) := by
    show Checked.within "page" (Checked.positive (.int page)) = _
    rw [Checked.positive_natCast hpage]
    rfl
  have hdocument : (RawQuery.selecting cond page).document =
      [("page", .int page), ("filter", cond.document)] := by
    have hnames (key : String) (h : key = "page" ∨ key = "filter") :
        RawQuery.baseName key = key ∧ key ∉ RawQuery.listNames := by
      rcases h with rfl | rfl <;> decide
    obtain ⟨hpage, hpageSingle⟩ := hnames "page" (Or.inl rfl)
    obtain ⟨hfilter, hfilterSingle⟩ := hnames "filter" (Or.inr rfl)
    rw [RawQuery.selecting, RawQuery.document, List.foldl_cons, List.foldl_cons, List.foldl_nil,
      RawQuery.gather, RawQuery.gather]
    simp only [hpage, hfilter, if_neg hpageSingle, if_neg hfilterSingle]
    rfl
  rw [hdocument, ofDocument, hfilter, hnumber]
  rfl

/-- Everything that the query does not give has its default. -/
theorem ofRaw_selecting (hpath : FieldPath.isPath cond.field = true)
    (hstrip : cond.operator.strip = cond.operator) (hpage : 1 ≤ page)
    (hlimit : settings.defaultLimit ≤ settings.maxLimit) (hdepth : 1 ≤ settings.filterMaxDepth) :
    ofRaw settings (.selecting cond page) = .ok (selecting cond settings.defaultLimit page) := by
  rw [ofRaw_eq_ok, ofDocument_selecting hpath hstrip hpage]
  have hbounds : Checked.Reads (((FilterGroup.single cond).depth : Int) ≤ settings.filterMaxDepth)
      (checkBounds settings (selecting cond settings.defaultLimit page))
      (· = selecting cond settings.defaultLimit page) := checkBounds_filter rfl hlimit rfl
  obtain ⟨q, hq, rfl⟩ := hbounds.1 hdepth
  exact hq

end QueryParams

/-! ## Planning -/

theorem FilterGroup.predicate_single {cmp : Comparison} (hcmp : cond.comparison = .ok cmp)
    {most : Int} (hmost : 1 ≤ most) (strict : Bool) :
    filterPredicate most strict (some (.single cond)) = .ok (.leaf cmp) := by
  have hpredicate : cond.predicate strict = .ok (.leaf cmp) := by
    rw [FilterCondition.predicate, hcmp]
  have hlevel : ¬ most < ((1 : Nat) : Int) := Int.not_lt.2 hmost
  rw [filterPredicate, FilterGroup.predicate, FilterGroup.single, FilterGroup.predicateAt,
    if_neg hlevel, FilterCondition.predicates, hpredicate]
  rfl

/-- The comparison of the condition is joined with what the caller demands and nothing else. -/
theorem Plan.of_selecting {cmp : Comparison} (hcmp : cond.comparison = .ok cmp)
    (hdepth : 1 ≤ settings.filterMaxDepth) {context : PlanContext}
    (hrelations : context.additionalRelations = []) (limit page : Int) :
    Plan.of settings context (.selecting cond limit page) = .ok {
      collection := context.collection
      predicate := .merge (.leaf cmp) .always context.mandatory
      order := []
      projection := none
      relations := []
      skip := (page - 1) * limit
      take := limit } := by
  have hfilter := FilterGroup.predicate_single hcmp hdepth
    (context.strict.getD settings.strictConditions)
  have hsearch : searchPredicate "" [] context.searchFields = .ok .always := by
    have hempty : Text.AnyText.strip "" = "" := rfl
    rw [searchPredicate]
    exact if_pos (Or.inl hempty)
  have horder : Outcome.ofExcept (SortKey.ofTexts "" "") = .ok [] := by rfl
  rw [Plan.of]
  dsimp only [QueryParams.selecting, Option.getD_none]
  rw [hfilter, Outcome.ok_bind, hsearch, hrelations, horder, RelationPath.requested_nil]
  rfl

end CollectionQuery
