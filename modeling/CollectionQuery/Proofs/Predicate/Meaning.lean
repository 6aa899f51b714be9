import CollectionQuery.Proofs.Predicate.Shape
import CollectionQuery.Proofs.Truth

/-!
# The meaning of predicates

Given truth values of the comparisons, a conjunction has the least truth value of its members and a
disjunction the greatest.  Joining by `allOf` keeps this meaning for all predicates.  Joining by
`anyOf` keeps it for proper ones only: a member `always` would be dropped where it should decide.

So `conjoin`, which distributes conjunctions over disjunctions, means the conjunction of its
arguments if they are trimmed, and the merger of a filter, a search and a caller's condition means
that all three are met.
-/

namespace CollectionQuery

namespace Predicate

variable {truth : Comparison → Truth}

theorem evalAll_eq_foldr (items : List Predicate) :
    evalAll truth items = (items.map (eval truth)).foldr min .yes := by
  induction items with
  | nil => rw [evalAll]; rfl
  | cons p rest ih => rw [evalAll, ih, Truth.and_eq_min, List.map_cons, List.foldr_cons]

@[simp] theorem evalAll_nil : evalAll truth [] = .yes := by rw [evalAll]

@[simp] theorem evalAny_nil : evalAny truth [] = .no := by rw [evalAny]

theorem evalAll_cons (p : Predicate) (rest : List Predicate) :
    evalAll truth (p :: rest) = min (p.eval truth) (evalAll truth rest) := by
  rw [evalAll, Truth.and_eq_min]

theorem evalAny_cons (p : Predicate) (rest : List Predicate) :
    evalAny truth (p :: rest) = max (p.eval truth) (evalAny truth rest) := by
  rw [evalAny, Truth.or_eq_max]

theorem evalAll_append (front back : List Predicate) :
    evalAll truth (front ++ back) = min (evalAll truth front) (evalAll truth back) := by
  induction front with
  | nil => simp
  | cons p rest ih => rw [List.cons_append, evalAll_cons, evalAll_cons, ih, min_assoc]

theorem evalAny_append (front back : List Predicate) :
    evalAny truth (front ++ back) = max (evalAny truth front) (evalAny truth back) := by
  induction front with
  | nil => simp
  | cons p rest ih => rw [List.cons_append, evalAny_cons, evalAny_cons, ih, max_assoc]

@[simp] theorem eval_always : eval truth always = .yes := by rw [eval]

@[simp] theorem eval_leaf (c : Comparison) : eval truth (leaf c) = truth c := by rw [eval]

theorem eval_and (items : List Predicate) : eval truth (and items) = evalAll truth items := by
  rw [eval]

theorem eval_or (items : List Predicate) : eval truth (or items) = evalAny truth items := by
  rw [eval]

/-! ## Joining -/

theorem evalAll_conjuncts (p : Predicate) : evalAll truth p.conjuncts = p.eval truth := by
  cases p <;> simp [conjuncts, evalAll_cons, eval_and]

theorem evalAny_disjuncts (p : Predicate) : evalAny truth p.disjuncts = p.eval truth := by
  cases p <;> simp [disjuncts, evalAny_cons, eval_or]

theorem eval_collect_and (items : List Predicate) :
    (collect and items).eval truth = evalAll truth items := by
  match items with
  | [] => simp [collect]
  | [p] => simp [collect, evalAll_cons]
  | p :: q :: rest => simp [collect, eval_and]

theorem eval_collect_or {items : List Predicate} (nonempty : items ≠ []) :
    (collect or items).eval truth = evalAny truth items := by
  match items with
  | [] => exact absurd rfl nonempty
  | [p] => simp [collect, evalAny_cons]
  | p :: q :: rest => simp [collect, eval_or]

/-- A member `always` has the truth value that makes no difference in a conjunction. -/
theorem eval_allOf (items : List Predicate) : (allOf items).eval truth = evalAll truth items := by
  rw [allOf, eval_collect_and]
  induction items with
  | nil => rfl
  | cons p rest ih =>
      rw [evalAll_cons, List.filter_cons]
      cases hp : p.isAlways with
      | true => simp [ih, isAlways_iff.1 hp]
      | false =>
          rw [if_pos (by rfl), List.flatMap_cons, evalAll_append, evalAll_conjuncts, ih]

theorem eval_anyOf {items : List Predicate} (nonempty : items ≠ []) (h : ∀ p ∈ items, p.Proper) :
    (anyOf items).eval truth = evalAny truth items := by
  rw [anyOf, filter_proper h,
    eval_collect_or ((proper_flatMap (fun _ => Proper.disjuncts) h).1 nonempty)]
  clear nonempty h
  induction items with
  | nil => rfl
  | cons p rest ih =>
      rw [List.flatMap_cons, evalAny_append, evalAny_disjuncts, ih, evalAny_cons]

/-! ## Conjunction -/

/-- If every branch is joined with a truth value by minimum, so is the disjunction. -/
theorem evalAny_map {items : List Predicate} {f : Predicate → Predicate} {x : Truth}
    (h : ∀ p ∈ items, (f p).eval truth = min x (p.eval truth)) :
    evalAny truth (items.map f) = min x (evalAny truth items) := by
  induction items with
  | nil => simp
  | cons p rest ih =>
      obtain ⟨hp, hrest⟩ := List.forall_mem_cons.1 h
      rw [List.map_cons, evalAny_cons, evalAny_cons, hp, ih hrest, min_max_distrib_left]

variable {left right : Predicate}

theorem eval_conjoinRight (hleft : left.Proper) (hright : right.Proper) :
    (conjoinRight left right).eval truth = min (left.eval truth) (right.eval truth) := by
  induction hright with
  | leaf c => rw [conjoinRight_leaf hleft, eval_allOf]; simp [evalAll_cons]
  | and _ _ _ => rw [conjoinRight_and hleft, eval_allOf]; simp [evalAll_cons]
  | @or branches nonempty proper ih =>
      have hproper : ∀ q ∈ branches.map (conjoinRight left), q.Proper := by
        intro q hq
        obtain ⟨branch, hbranch, rfl⟩ := List.mem_map.1 hq
        exact hleft.conjoinRight (proper branch hbranch)
      rw [conjoinRight_or hleft, eval_anyOf (by simpa using nonempty) hproper, evalAny_map ih,
        eval_or]

theorem eval_conjoin_of_proper (hleft : left.Proper) (hright : right.Proper) :
    (conjoin left right).eval truth = min (left.eval truth) (right.eval truth) := by
  induction hleft with
  | leaf c =>
      rw [conjoin]
      exact eval_conjoinRight (.leaf c) hright
  | and nonempty proper _ =>
      rw [conjoin]
      exact eval_conjoinRight (.and nonempty proper) hright
  | @or branches nonempty proper ih =>
      have hproper : ∀ q ∈ branches.map fun branch => conjoin branch right, q.Proper := by
        intro q hq
        obtain ⟨branch, hbranch, rfl⟩ := List.mem_map.1 hq
        exact (proper branch hbranch).conjoin hright
      have hbranch : ∀ branch ∈ branches,
          (conjoin branch right).eval truth = min (right.eval truth) (branch.eval truth) := by
        intro branch hmem
        rw [ih branch hmem, min_comm]
      rw [conjoin_or hright, eval_anyOf (by simpa using nonempty) hproper, evalAny_map hbranch,
        eval_or, min_comm]

theorem eval_conjoin (hleft : left.Trimmed) (hright : right.Trimmed) :
    (conjoin left right).eval truth = min (left.eval truth) (right.eval truth) := by
  rcases hleft with rfl | hleft
  · rw [conjoin_always_left, eval_always, Truth.yes_min]
  · rcases hright with rfl | hright
    · rw [conjoin_always_right, eval_always, Truth.min_yes]
    · exact eval_conjoin_of_proper hleft hright

end Predicate

/-! ## Merging -/

/-- The truth value of a caller's condition: fields that have to equal values are met together. -/
def Mandatory.eval (truth : Comparison → Truth) : Mandatory → Truth
  | none => .yes
  | equals fields => (fields.map fun f => truth ⟨f.1, .eq, f.2⟩).foldr min .yes
  | given p => p.eval truth

theorem Mandatory.eval_predicate {truth : Comparison → Truth} (m : Mandatory) :
    m.predicate.eval truth = m.eval truth := by
  cases m with
  | none => exact Predicate.eval_always
  | equals fields =>
      rw [predicate, Predicate.eval_allOf, Predicate.evalAll_eq_foldr, List.map_map]
      simp only [eval, Function.comp_def, Predicate.eval_leaf]
  | given p => rfl

theorem Predicate.eval_merge {truth : Comparison → Truth} {filter search : Predicate}
    {m : Mandatory} (hfilter : filter.Trimmed) (hsearch : search.Trimmed) (hm : m.Trimmed) :
    (Predicate.merge filter search m).eval truth =
      min (m.eval truth) (min (filter.eval truth) (search.eval truth)) := by
  rw [merge, eval_conjoin (hm.predicate.conjoin hfilter) hsearch,
    eval_conjoin hm.predicate hfilter, m.eval_predicate, min_assoc]

/-- The merger of a filter, a search and a caller's condition is met as far as all three are. -/
theorem merged_predicate_meaning {most : Int} {strict : Bool} {group : Option FilterGroup}
    {term : String} {fields defaults : List String} {filter search : Predicate} {m : Mandatory}
    (hfilter : (filterPredicate most strict group).result = .ok filter)
    (hsearch : searchPredicate term fields defaults = .ok search) (hm : m.Trimmed)
    (truth : Comparison → Truth) :
    (Predicate.merge filter search m).eval truth =
      min (m.eval truth) (min (filter.eval truth) (search.eval truth)) :=
  Predicate.eval_merge (trimmed_filterPredicate hfilter) (trimmed_searchPredicate hsearch) hm

/-- A disjunction from which a condition is dropped, a search of two fields and a field that has to
be true. -/
theorem merged_predicate_meaning_published :
    let group : FilterGroup := .mk .or
      [⟨"title", "eq", .text "a"⟩, ⟨"slug", "sounds", .text "b"⟩]
      [.mk .and [⟨"featured", "eq", .bool true⟩] []]
    let filter : Predicate :=
      .or [.leaf ⟨"title", .eq, .text "a"⟩, .leaf ⟨"featured", .eq, .bool true⟩]
    let search : Predicate :=
      .or [.leaf ⟨"title", .contains, .text "c"⟩, .leaf ⟨"location", .contains, .text "c"⟩]
    let m : Mandatory := .equals [("published", .bool true)]
    let truth : Comparison → Truth := fun c => if c.field = "title" then .no else .unknown
    (filterPredicate 5 false (some group)).result = .ok filter ∧
      searchPredicate " c " [] ["title", "location"] = .ok search ∧ m.Trimmed ∧
      (Predicate.merge filter search m).eval truth =
        min (m.eval truth) (min (filter.eval truth) (search.eval truth)) := by
  intro group filter search m truth
  have hfilter : (filterPredicate 5 false (some group)).result = .ok filter := by rfl
  have hsearch : searchPredicate " c " [] ["title", "location"] = .ok search := by rfl
  have hm : m.Trimmed := trivial
  exact ⟨hfilter, hsearch, hm, merged_predicate_meaning hfilter hsearch hm truth⟩

end CollectionQuery
