import CollectionQuery.Proofs.Filter.Leaves

/-!
# What a reading keeps and what it records

A condition is malformed if its operator does not exist or its value does not have the shape that
the operator takes, and a condition that is not makes a comparison.  A reading gets through a filter
that is not too deep unless it is strict and meets a malformed condition.  What it ends with and
what it records is then said by the tree alone (`FilterGroup.predicateAt_eq`): the predicate joins
the comparisons level by level, and the log has one entry for every malformed condition, in the
order in which the groups name them.  So every condition is either compared or reported.
-/

namespace CollectionQuery

/-- What comes after an operation that succeeds records after it. -/
theorem Outcome.mk_ok_bind {α β : Type} (log : List LogEntry) (a : α) (f : α → Outcome β) :
    ((⟨log, .ok a⟩ : Outcome α) >>= f) = ⟨log ++ (f a).log, (f a).result⟩ :=
  rfl

/-! ## Malformed conditions -/

/-- What is wrong with the shape of a value for an operator. -/
def Operator.shapeFault? (op : Operator) (v : Value) : Option ShapeFault :=
  match op.arity with
  | .none => none
  | .unary =>
    if v.isNull then if op.isNullAware then none else some .missing
    else if v.items?.isSome || v.isObject then some .notSingle
    else none
  | .list => if v.isNull then some .missing else if v.isObject then some .notList else none
  | .pair => if v.items?.map List.length = some 2 then none else some .notPair

theorem Operator.normalize_pair_items {op : Operator} (h : op.arity = .pair) {v : Value}
    {items : List Value} (hv : v = .list items ∨ v = .tuple items) {fault : ShapeFault} :
    op.normalize v = .error fault ↔ op.shapeFault? v = some fault := by
  have hitems : v.items? = some items := by
    rcases hv with rfl | rfl <;> rfl
  rw [shapeFault?, h, hitems]
  match items with
  | [low, high] => rcases hv with rfl | rfl <;> simp [normalize, h]
  | [] => rcases hv with rfl | rfl <;> simp [normalize, h]
  | [_] => rcases hv with rfl | rfl <;> simp [normalize, h]
  | _ :: _ :: _ :: _ => rcases hv with rfl | rfl <;> simp [normalize, h]

/-- Checking the shape of a value finds what is wrong with it. -/
theorem Operator.normalize_eq_error {op : Operator} {v : Value} {fault : ShapeFault} :
    op.normalize v = .error fault ↔ op.shapeFault? v = some fault := by
  cases h : op.arity with
  | none => simp [normalize, shapeFault?, h]
  | unary =>
      cases v with
      | null =>
          cases haware : op.isNullAware <;> simp [normalize, shapeFault?, h, haware, Value.isNull]
      | _ => simp [normalize, shapeFault?, h, Value.isNull, Value.items?, Value.isObject]
  | list =>
      cases v <;> simp [normalize, shapeFault?, h, Value.isNull, Value.isObject]
  | pair =>
      cases v with
      | list items => exact normalize_pair_items h (Or.inl rfl)
      | tuple items => exact normalize_pair_items h (Or.inr rfl)
      | _ => simp [normalize, shapeFault?, h, Value.items?]

namespace FilterCondition

variable {c : FilterCondition} {cs more : List FilterCondition} {strict : Bool}

/-- What is wrong with a condition. -/
def malformation? (c : FilterCondition) : Option MalformedCondition :=
  match Operator.ofText? c.operator with
  | none => some (.unknownOperator c.operator c.field)
  | some op => (op.shapeFault? c.value).map (.shape c.field op)

/-- Whether the operator of a condition exists and its value has the shape that the operator
takes. -/
def WellFormed (c : FilterCondition) : Prop :=
  ∃ op v, Operator.ofText? c.operator = some op ∧ op.canonical? c.value = some v

theorem comparison_eq_error {cause : MalformedCondition} :
    c.comparison = .error cause ↔ c.malformation? = some cause := by
  rw [comparison, malformation?]
  cases Operator.ofText? c.operator with
  | none => simp
  | some op =>
      simp only [Option.map_eq_some_iff, ← Operator.normalize_eq_error]
      cases op.normalize c.value <;> simp

/-- A condition makes a comparison, or something is wrong with it, and never both. -/
theorem leaf?_or_malformation? (c : FilterCondition) :
    (∃ cmp, c.comparison = .ok cmp ∧ c.leaf? = some cmp ∧ c.malformation? = none) ∨
      ∃ cause, c.comparison = .error cause ∧ c.leaf? = none ∧ c.malformation? = some cause := by
  cases h : c.comparison with
  | ok cmp =>
      refine Or.inl ⟨cmp, rfl, by rw [← toOption_comparison, h]; rfl, ?_⟩
      refine Option.eq_none_iff_forall_ne_some.2 fun cause hcause => ?_
      cases h.symm.trans (comparison_eq_error.2 hcause)
  | error cause =>
      exact Or.inr ⟨cause, rfl, by rw [← toOption_comparison, h]; rfl, comparison_eq_error.1 h⟩

theorem wellFormed_iff_leaf? : c.WellFormed ↔ c.leaf?.isSome = true := by
  rw [WellFormed, leaf?]
  cases Operator.ofText? c.operator with
  | none => simp
  | some op => cases h : op.canonical? c.value <;> simp [h]

theorem wellFormed_iff : c.WellFormed ↔ c.malformation? = none := by
  rw [wellFormed_iff_leaf?]
  obtain ⟨cmp, -, hleaf, hmal⟩ | ⟨cause, -, hleaf, hmal⟩ := c.leaf?_or_malformation?
  · simp [hleaf, hmal]
  · simp [hleaf, hmal]

/-! ## Reading conditions -/

/-- Whether a reading gets through conditions: a strict one stops at a malformed one. -/
def Passes (strict : Bool) (cs : List FilterCondition) : Prop :=
  strict = true → ∀ c ∈ cs, c.WellFormed

theorem passes_cons :
    Passes strict (c :: cs) ↔ (strict = true → c.WellFormed) ∧ Passes strict cs := by
  simp only [Passes, List.forall_mem_cons, forall_and]

theorem passes_append : Passes strict (cs ++ more) ↔ Passes strict cs ∧ Passes strict more := by
  simp only [Passes, List.forall_mem_append, forall_and]

theorem passes_lenient (cs : List FilterCondition) : Passes false cs := nofun

/-- What a condition becomes if it is not refused. -/
def reading (c : FilterCondition) : Predicate := c.leaf?.elim .always .leaf

/-- What is recorded for conditions if they are not refused. -/
def warnings (cs : List FilterCondition) : List LogEntry :=
  (cs.filterMap malformation?).map .conditionDropped

theorem warnings_append (cs more : List FilterCondition) :
    warnings (cs ++ more) = warnings cs ++ warnings more := by
  rw [warnings, List.filterMap_append, List.map_append]
  rfl

theorem warnings_of_wellFormed (h : ∀ c ∈ cs, c.WellFormed) : warnings cs = [] := by
  rw [warnings, List.map_eq_nil_iff, List.filterMap_eq_nil_iff]
  exact fun c hc => wellFormed_iff.1 (h c hc)

/-- A condition is read as a comparison and nothing is recorded, or it is recorded. -/
theorem length_leaves_add_length_warnings (cs : List FilterCondition) :
    (cs.filterMap leaf?).length + (warnings cs).length = cs.length := by
  rw [warnings, List.length_map]
  induction cs with
  | nil => rfl
  | cons c rest ih =>
      obtain ⟨cmp, -, hleaf, hmal⟩ | ⟨cause, -, hleaf, hmal⟩ := c.leaf?_or_malformation?
      · rw [List.filterMap_cons_some hleaf, List.filterMap_cons_none hmal, List.length_cons,
          List.length_cons]
        omega
      · rw [List.filterMap_cons_none hleaf, List.filterMap_cons_some hmal, List.length_cons,
          List.length_cons]
        omega

theorem predicate_eq (h : strict = true → c.WellFormed) :
    c.predicate strict = ⟨warnings [c], .ok c.reading⟩ := by
  rw [predicate, reading]
  obtain ⟨cmp, hcmp, hleaf, hmal⟩ | ⟨cause, hcause, hleaf, hmal⟩ := c.leaf?_or_malformation?
  · simp [hcmp, hleaf, hmal, warnings, Outcome.ok]
  · have hlenient : strict = false := by
      cases strict with
      | false => rfl
      | true => cases hmal.symm.trans (wellFormed_iff.1 (h rfl))
    rw [hcause, hleaf, hlenient, warnings, List.filterMap_cons_some hmal]
    rfl

theorem wellFormed_of_predicate {p : Predicate} (h : (c.predicate true).result = .ok p) :
    c.WellFormed := by
  rw [predicate] at h
  obtain ⟨cmp, -, -, hmal⟩ | ⟨cause, hcause, -, -⟩ := c.leaf?_or_malformation?
  · exact wellFormed_iff.2 hmal
  · rw [hcause] at h
    cases h

theorem predicates_eq (h : Passes strict cs) :
    predicates strict cs = ⟨warnings cs, .ok (cs.map reading)⟩ := by
  induction cs with
  | nil => rfl
  | cons c rest ih =>
      obtain ⟨hc, hrest⟩ := passes_cons.1 h
      rw [predicates, predicate_eq hc, ih hrest, Outcome.mk_ok_bind, Outcome.mk_ok_bind,
        show warnings (c :: rest) = warnings [c] ++ warnings rest from warnings_append [c] rest]
      simp [pure, Outcome.ok]

theorem passes_of_predicates {ps : List Predicate} (h : (predicates strict cs).result = .ok ps) :
    Passes strict cs := by
  rintro rfl
  induction cs generalizing ps with
  | nil => exact List.forall_mem_nil _
  | cons c rest ih =>
      obtain ⟨p, hp, h⟩ := Outcome.result_bind_eq_ok.1 h
      obtain ⟨more, hmore, -⟩ := Outcome.result_bind_eq_ok.1 h
      exact List.forall_mem_cons.2 ⟨wellFormed_of_predicate hp, ih hmore⟩

end FilterCondition

/-! ## Reading groups -/

namespace FilterGroup

variable {most : Int} {strict : Bool}

mutual

/-- What a group becomes if it is not refused. -/
def reading : FilterGroup → Predicate
  | mk connective conditions groups =>
    connective.join (conditions.map FilterCondition.reading ++ readings groups)

/-- What each of several groups becomes. -/
def readings : List FilterGroup → List Predicate
  | [] => []
  | g :: rest => reading g :: readings rest

end

-- The induction is on the tree, with the level left general: a subgroup is one level further down
-- and at least one level shallower, so what is left of the limit covers it as well.
mutual

/-- What a reading that gets through ends with and what it records. -/
theorem predicateAt_eq : ∀ {level : Nat} (g : FilterGroup), (level : Int) + g.depth ≤ most + 1 →
    FilterCondition.Passes strict g.allConditions →
      predicateAt most strict level g =
        ⟨FilterCondition.warnings g.allConditions, .ok g.reading⟩
  | level, mk connective conditions groups, hdepth, hpasses => by
      rw [depth] at hdepth
      rw [allConditions, FilterCondition.passes_append] at hpasses
      obtain ⟨hconditions, hgroups⟩ := hpasses
      rw [predicateAt, if_neg (by omega), FilterCondition.predicates_eq hconditions,
        predicatesAt_eq groups (by omega) hgroups, Outcome.mk_ok_bind, Outcome.mk_ok_bind,
        allConditions, FilterCondition.warnings_append, reading]
      simp [pure, Outcome.ok]

theorem predicatesAt_eq : ∀ {level : Nat} (gs : List FilterGroup),
    (level : Int) + depthOfGroups gs ≤ most + 1 →
    FilterCondition.Passes strict (conditionsOf gs) →
      predicatesAt most strict level gs =
        ⟨FilterCondition.warnings (conditionsOf gs), .ok (readings gs)⟩
  | _, [], _, _ => by
      rw [conditionsOf, readings]
      rfl
  | level, g :: rest, hdepth, hpasses => by
      rw [depthOfGroups] at hdepth
      rw [conditionsOf, FilterCondition.passes_append] at hpasses
      obtain ⟨hfirst, hrest⟩ := hpasses
      rw [predicatesAt, predicateAt_eq g (by omega) hfirst, predicatesAt_eq rest (by omega) hrest,
        Outcome.mk_ok_bind, Outcome.mk_ok_bind, conditionsOf, FilterCondition.warnings_append,
        readings]
      simp [pure, Outcome.ok]

end

/-- The comparisons of what a group becomes are those of its conditions. -/
theorem leaves_reading (g : FilterGroup) :
    g.reading.leaves = g.allConditions.filterMap FilterCondition.leaf? := by
  have hread : predicateAt g.depth false 1 g =
      ⟨FilterCondition.warnings g.allConditions, .ok g.reading⟩ :=
    predicateAt_eq g (by omega) (FilterCondition.passes_lenient _)
  exact leaves_predicateAt g (congrArg Outcome.result hread)

end FilterGroup

/-! ## Compared or reported -/

theorem filterPredicate_eq {most : Int} {strict : Bool} {g : FilterGroup}
    (hdepth : (g.depth : Int) ≤ most) (hpasses : FilterCondition.Passes strict g.allConditions) :
    filterPredicate most strict (some g) =
      ⟨FilterCondition.warnings g.allConditions, .ok g.reading⟩ :=
  FilterGroup.predicateAt_eq g (by omega) hpasses

/-- A filter that is not too deep and not read strictly becomes a predicate.  From left to right it
compares what the well-formed conditions stand for, in the order in which the groups name them and
repeated fields included.  The log has one warning for every malformed condition, in the same order,
and nothing else, so that comparisons and warnings are as many as the conditions. -/
theorem every_condition_compared_or_reported {most : Int} {g : FilterGroup}
    (hdepth : (g.depth : Int) ≤ most) :
    ∃ p, (filterPredicate most false (some g)).result = .ok p ∧
      p.leaves = g.allConditions.filterMap FilterCondition.leaf? ∧
      (filterPredicate most false (some g)).log =
        (g.allConditions.filterMap FilterCondition.malformation?).map LogEntry.conditionDropped ∧
      (∀ c ∈ g.allConditions, (c.leaf?.isSome = true ↔ c.WellFormed) ∧
        (c.malformation?.isSome = true ↔ ¬ c.WellFormed)) ∧
      (∀ e ∈ (filterPredicate most false (some g)).log, e.level = .warning) ∧
      p.leaves.length + (filterPredicate most false (some g)).log.length =
        g.allConditions.length := by
  have hread := filterPredicate_eq hdepth (FilterCondition.passes_lenient g.allConditions)
  rw [hread]
  refine ⟨g.reading, rfl, g.leaves_reading, rfl, fun c _ => ⟨?_, ?_⟩, fun e he => ?_, ?_⟩
  · exact FilterCondition.wellFormed_iff_leaf?.symm
  · rw [FilterCondition.wellFormed_iff, ← ne_eq, Option.isSome_iff_ne_none]
  · obtain ⟨cause, -, rfl⟩ := List.mem_map.1 he
    rfl
  · rw [g.leaves_reading]
    exact FilterCondition.length_leaves_add_length_warnings g.allConditions

/-- One field twice in a group, once more below it and once with an operator that does not exist,
and a pair with one bound in a group on the last level that is allowed. -/
theorem every_condition_compared_or_reported_repeated :
    let inner : FilterGroup := .mk .or [⟨"age", "between", .list [.int 1]⟩] []
    let g : FilterGroup := .mk .and
      [⟨"age", "gt", .int 3⟩, ⟨"age", "sounds", .null⟩, ⟨"age", "gt", .int 3⟩]
      [.mk .or [] [inner], .mk .or [⟨"slug", "in", .text "b"⟩, ⟨"age", " lt ", .int 9⟩] []]
    (g.depth : Int) ≤ 3 ∧
      ∃ p, (filterPredicate 3 false (some g)).result = .ok p ∧
        p.leaves = [⟨"age", .gt, .int 3⟩, ⟨"age", .gt, .int 3⟩,
          ⟨"slug", .oneOf, .tuple [.text "b"]⟩, ⟨"age", .lt, .int 9⟩] ∧
        (filterPredicate 3 false (some g)).log =
          [.conditionDropped (.unknownOperator "sounds" "age"),
            .conditionDropped (.shape "age" .between .notPair)] ∧
        p.leaves.length + (filterPredicate 3 false (some g)).log.length = 6 := by
  intro inner g
  have hdepth : (g.depth : Int) ≤ 3 := by decide
  obtain ⟨p, hp, hleaves, hlog, -, -, hcount⟩ := every_condition_compared_or_reported hdepth
  exact ⟨hdepth, p, hp, hleaves.trans rfl, hlog.trans rfl, hcount⟩

end CollectionQuery
