import CollectionQuery.Proofs.Filter.Document
import CollectionQuery.Proofs.Filter.Meaning
import CollectionQuery.Proofs.Predicate.Leaves
import CollectionQuery.Proofs.SchemaFault

/-!
# The comparisons of a filter

The predicate of a filter compares what the well-formed conditions of its groups stand for, in the
order in which the groups name them, whether it is read strictly or not.  A condition that was read
from a document names a field by a path, however deep its group stands.
-/

namespace CollectionQuery

open Predicate (leaves)

namespace FilterGroup

mutual

/-- The conditions of a group and of all groups inside it, in their order. -/
def allConditions : FilterGroup → List FilterCondition
  | mk _ conditions groups => conditions ++ conditionsOf groups

/-- The conditions of several groups and of all groups inside them. -/
def conditionsOf : List FilterGroup → List FilterCondition
  | [] => []
  | g :: rest => allConditions g ++ conditionsOf rest

end

end FilterGroup

/-! ## From conditions to comparisons -/

theorem FilterCondition.leaves_predicate {strict : Bool} {c : FilterCondition} {p : Predicate}
    (h : (c.predicate strict).result = .ok p) : p.leaves = c.leaf?.toList := by
  rw [predicate] at h
  rw [← toOption_comparison]
  cases hcomparison : c.comparison with
  | ok cmp =>
      rw [hcomparison] at h
      cases h
      simp [Except.toOption]
  | error cause =>
      simp only [hcomparison] at h
      split at h
      · cases h
      · cases h
        simp [Except.toOption]

theorem FilterCondition.leaves_predicates {strict : Bool} {cs : List FilterCondition}
    {ps : List Predicate} (h : (predicates strict cs).result = .ok ps) :
    ps.flatMap leaves = cs.filterMap leaf? := by
  induction cs generalizing ps with
  | nil =>
      cases h
      rfl
  | cons c rest ih =>
      rw [predicates] at h
      obtain ⟨p, hp, h⟩ := Outcome.result_bind_eq_ok.1 h
      obtain ⟨more, hmore, h⟩ := Outcome.result_bind_eq_ok.1 h
      cases h
      rw [List.flatMap_cons, leaves_predicate hp, ih hmore, List.filterMap_cons]
      cases c.leaf? <;> rfl

namespace FilterGroup

variable {most : Int} {strict : Bool}

mutual

theorem leaves_predicateAt : ∀ {level : Nat} (g : FilterGroup) {p : Predicate},
    (predicateAt most strict level g).result = .ok p →
      p.leaves = g.allConditions.filterMap FilterCondition.leaf?
  | level, mk connective conditions groups, p, h => by
      rw [predicateAt] at h
      split at h
      · cases h
      · obtain ⟨front, hfront, h⟩ := Outcome.result_bind_eq_ok.1 h
        obtain ⟨back, hback, h⟩ := Outcome.result_bind_eq_ok.1 h
        cases h
        rw [Predicate.leaves_join, List.flatMap_append, FilterCondition.leaves_predicates hfront,
          leaves_predicatesAt groups hback, allConditions, List.filterMap_append]

theorem leaves_predicatesAt : ∀ {level : Nat} (gs : List FilterGroup) {ps : List Predicate},
    (predicatesAt most strict level gs).result = .ok ps →
      ps.flatMap leaves = (conditionsOf gs).filterMap FilterCondition.leaf?
  | _, [], _, h => by
      cases h
      rw [conditionsOf]
      rfl
  | level, g :: rest, _, h => by
      rw [predicatesAt] at h
      obtain ⟨p, hp, h⟩ := Outcome.result_bind_eq_ok.1 h
      obtain ⟨more, hmore, h⟩ := Outcome.result_bind_eq_ok.1 h
      cases h
      rw [List.flatMap_cons, leaves_predicateAt g hp, leaves_predicatesAt rest hmore,
        conditionsOf, List.filterMap_append]

end

end FilterGroup

/-- The comparisons of a filter are those that its conditions stand for. -/
theorem leaves_filterPredicate {most : Int} {strict : Bool} {filter : Option FilterGroup}
    {p : Predicate} (h : (filterPredicate most strict filter).result = .ok p) :
    p.leaves = (filter.elim [] FilterGroup.allConditions).filterMap FilterCondition.leaf? := by
  cases filter with
  | none =>
      cases h
      exact Predicate.leaves_always
  | some g => exact FilterGroup.leaves_predicateAt g h

/-- A comparison of a filter is that of one of its conditions, in the canonical form of its
operator. -/
theorem exists_condition_of_mem_leaves {most : Int} {strict : Bool} {g : FilterGroup}
    {p : Predicate} (h : (filterPredicate most strict (some g)).result = .ok p) {cmp : Comparison}
    (hcmp : cmp ∈ p.leaves) :
    ∃ c ∈ g.allConditions, cmp.field = c.field ∧
      cmp.operator.canonical? c.value = some cmp.value := by
  rw [leaves_filterPredicate h] at hcmp
  obtain ⟨c, hc, hleaf⟩ := List.mem_filterMap.1 hcmp
  refine ⟨c, hc, ?_⟩
  rw [FilterCondition.leaf?] at hleaf
  obtain ⟨op, -, hleaf⟩ := Option.bind_eq_some_iff.1 hleaf
  obtain ⟨v, hv, hleaf⟩ := Option.bind_eq_some_iff.1 hleaf
  cases hleaf
  exact ⟨rfl, hv⟩

/-! ## The fields of conditions -/

theorem FilterCondition.isPath_of_ofValue {v : Value} {c : FilterCondition}
    (h : ofValue v = .ok c) : FieldPath.isPath c.field = true := by
  rw [ofValue] at h
  split at h
  · next members _ =>
      obtain ⟨⟨field, operator⟩, hparts, h⟩ := bind_eq_ok.1 h
      cases h
      have hfield := (Checked.both_eq_ok.1 hparts).1
      rw [Checked.required, Checked.within_eq_ok] at hfield
      cases hmember : Value.member? members "field" with
      | none =>
          rw [hmember] at hfield
          cases hfield
      | some w =>
          rw [hmember, Option.elim_some, readField] at hfield
          obtain ⟨text, -, hfield⟩ := bind_eq_ok.1 hfield
          dsimp only at hfield
          split at hfield
          · next hpath =>
              cases hfield
              exact hpath
          · cases hfield
  · cases h

theorem FilterCondition.isPath_of_ofItems {index : Nat} {items : List Value}
    {cs : List FilterCondition} (h : ofItems index items = .ok cs) :
    ∀ c ∈ cs, FieldPath.isPath c.field = true := by
  induction items generalizing index cs with
  | nil =>
      cases h
      exact List.forall_mem_nil _
  | cons v rest ih =>
      obtain ⟨c, others, hc, hothers, rfl⟩ := Checked.cons_eq_ok.1 h
      exact List.forall_mem_cons.2 ⟨isPath_of_ofValue (Checked.within_eq_ok.1 hc), ih hothers⟩

theorem FilterCondition.isPath_of_listOfValue {v : Value} {cs : List FilterCondition}
    (h : listOfValue v = .ok cs) : ∀ c ∈ cs, FieldPath.isPath c.field = true := by
  cases v with
  | list items => exact isPath_of_ofItems h
  | tuple items => exact isPath_of_ofItems h
  | _ => cases h

namespace FilterGroup

theorem group_eq_ok {parts : GroupParts} {g : FilterGroup} (h : parts.group = .ok g) :
    ∃ connective conditions groups, parts.conditions = .ok conditions ∧
      parts.groups = .ok groups ∧ g = mk connective conditions groups := by
  obtain ⟨r, hr, rfl⟩ := map_eq_ok.1 h
  obtain ⟨-, hr⟩ := Checked.both_eq_ok.1 hr
  obtain ⟨hconditions, hgroups⟩ := Checked.both_eq_ok.1 hr
  exact ⟨r.1, r.2.1, r.2.2, hconditions, hgroups, rfl⟩

/-- A member of a group is read under its name, or it is left out. -/
theorem member_eq_ok {α : Type} {members : List (String × Value)} {name : String} {absent a : α}
    {read : Value → Checked α}
    (h : ((Value.member? members name).map fun v => Checked.within name (read v)).getD
      (.ok absent) = .ok a) : a = absent ∨ ∃ v, read v = .ok a := by
  cases hmember : Value.member? members name with
  | none =>
      rw [hmember] at h
      cases h
      exact Or.inl rfl
  | some v =>
      rw [hmember] at h
      exact Or.inr ⟨v, Checked.within_eq_ok.1 h⟩

/-- What holds of all conditions of every group in a list of groups. -/
theorem forall_conditions_of_readItems {room index : Nat} {items : List Value}
    {gs : List FilterGroup} {P : FilterCondition → Prop}
    (hroom : ∀ v g, read room v = .ok g → ∀ c ∈ g.allConditions, P c)
    (h : readItems (read room) index items = .ok gs) : ∀ c ∈ conditionsOf gs, P c := by
  induction items generalizing index gs with
  | nil =>
      cases h
      rw [conditionsOf]
      exact List.forall_mem_nil _
  | cons v rest ih =>
      rw [readItems] at h
      obtain ⟨g, others, hg, hothers, rfl⟩ := Checked.cons_eq_ok.1 h
      rw [conditionsOf, List.forall_mem_append]
      exact ⟨hroom v g (Checked.within_eq_ok.1 hg), ih hothers⟩

/-- The conditions of a group that was read name their fields by paths.  The induction is on the
room, which every level of groups uses up by one. -/
theorem isPath_of_read {room : Nat} {v : Value} {g : FilterGroup} (h : read room v = .ok g) :
    ∀ c ∈ g.allConditions, FieldPath.isPath c.field = true := by
  induction room generalizing v g with
  | zero =>
      rw [read] at h
      cases h
  | succ room ih =>
      rw [read] at h
      split at h
      · rw [partsOf_eq] at h
        obtain ⟨connective, conditions, groups, hconditions, hgroups, rfl⟩ := group_eq_ok h
        rw [allConditions, List.forall_mem_append]
        constructor
        · rcases member_eq_ok hconditions with rfl | ⟨v, hv⟩
          · exact List.forall_mem_nil _
          · exact FilterCondition.isPath_of_listOfValue hv
        · rcases member_eq_ok hgroups with rfl | ⟨v, hv⟩
          · rw [conditionsOf]
            exact List.forall_mem_nil _
          · rw [readList.eq_def] at hv
            split at hv
            · exact forall_conditions_of_readItems (fun _ _ h => ih h) hv
            · exact forall_conditions_of_readItems (fun _ _ h => ih h) hv
            · cases hv
      · cases h

theorem isPath_of_read? {room : Nat} {v : Value} {g : FilterGroup}
    (h : read? room v = .ok (some g)) :
    ∀ c ∈ g.allConditions, FieldPath.isPath c.field = true := by
  rw [read?] at h
  split at h
  · cases h
  · obtain ⟨_, hread, ⟨⟩⟩ := map_eq_ok.1 h
    exact isPath_of_read hread

end FilterGroup

end CollectionQuery
