import CollectionQuery.Clause.OfPredicate
import CollectionQuery.Proofs.Lists
import CollectionQuery.Proofs.Predicate.Shape

/-!
# Predicates with alike comparisons

Two predicates of one shape correspond comparison by comparison.  Joining corresponding predicates
gives corresponding ones, however they are flattened and distributed, since this looks at the shape
alone.  If corresponding comparisons have the same clause, then so have the predicates.
-/

namespace CollectionQuery

namespace Predicate

mutual

/-- Two predicates of one shape, with comparisons that are related one by one. -/
inductive Alike (R : Comparison → Comparison → Prop) : Predicate → Predicate → Prop
  | always : Alike R always always
  | leaf {x y : Comparison} (related : R x y) : Alike R (leaf x) (leaf y)
  | and {ps qs : List Predicate} (items : AllAlike R ps qs) : Alike R (and ps) (and qs)
  | or {ps qs : List Predicate} (items : AllAlike R ps qs) : Alike R (or ps) (or qs)

/-- Two lists of such predicates. -/
inductive AllAlike (R : Comparison → Comparison → Prop) : List Predicate → List Predicate → Prop
  | nil : AllAlike R [] []
  | cons {p q : Predicate} {ps qs : List Predicate} (first : Alike R p q)
      (others : AllAlike R ps qs) : AllAlike R (p :: ps) (q :: qs)

end

variable {R : Comparison → Comparison → Prop} {p q left left' right right' : Predicate}
  {ps qs : List Predicate}

theorem allAlike_iff : AllAlike R ps qs ↔ List.Forall₂ (Alike R) ps qs := by
  constructor
  · intro h
    induction ps generalizing qs with
    | nil =>
        cases h
        exact .nil
    | cons p rest ih =>
        cases h with
        | cons first others => exact .cons first (ih others)
  · intro h
    induction h with
    | nil => exact .nil
    | cons first _ ih => exact .cons first ih

/-! ## Joining -/

theorem Alike.isAlways_eq (h : Alike R p q) : p.isAlways = q.isAlways := by
  cases h <;> rfl

theorem Alike.conjuncts (h : Alike R p q) : List.Forall₂ (Alike R) p.conjuncts q.conjuncts := by
  cases h with
  | always => exact .cons .always .nil
  | leaf related => exact .cons (.leaf related) .nil
  | and items => exact allAlike_iff.1 items
  | or items => exact .cons (.or items) .nil

theorem Alike.disjuncts (h : Alike R p q) : List.Forall₂ (Alike R) p.disjuncts q.disjuncts := by
  cases h with
  | always => exact .cons .always .nil
  | leaf related => exact .cons (.leaf related) .nil
  | and items => exact .cons (.and items) .nil
  | or items => exact allAlike_iff.1 items

theorem alike_collect {join : List Predicate → Predicate}
    (hjoin : ∀ {ps qs}, List.Forall₂ (Alike R) ps qs → Alike R (join ps) (join qs))
    (h : List.Forall₂ (Alike R) ps qs) : Alike R (collect join ps) (collect join qs) := by
  cases h with
  | nil => exact .always
  | cons first others =>
      cases others with
      | nil => exact first
      | cons second others => exact hjoin (.cons first (.cons second others))

/-- What is left without `always`, taken apart. -/
theorem forall₂_parts {parts : Predicate → List Predicate}
    (hparts : ∀ {p q}, Alike R p q → List.Forall₂ (Alike R) (parts p) (parts q))
    (h : List.Forall₂ (Alike R) ps qs) :
    List.Forall₂ (Alike R) ((ps.filter fun p => !p.isAlways).flatMap parts)
      ((qs.filter fun q => !q.isAlways).flatMap parts) :=
  List.rel_flatMap (h.filter fun _ _ hpq => congrArg not hpq.isAlways_eq) fun _ _ => hparts

theorem alike_allOf (h : List.Forall₂ (Alike R) ps qs) : Alike R (allOf ps) (allOf qs) :=
  alike_collect (fun h => .and (allAlike_iff.2 h)) (forall₂_parts Alike.conjuncts h)

theorem alike_anyOf (h : List.Forall₂ (Alike R) ps qs) : Alike R (anyOf ps) (anyOf qs) :=
  alike_collect (fun h => .or (allAlike_iff.2 h)) (forall₂_parts Alike.disjuncts h)

theorem alike_join (connective : Connective) (h : List.Forall₂ (Alike R) ps qs) :
    Alike R (connective.join ps) (connective.join qs) := by
  cases connective with
  | and => exact alike_allOf h
  | or => exact alike_anyOf h

/-! ## Conjunction -/

mutual

theorem Alike.conjoinRight (hleft : Alike R left left') :
    ∀ {right right'}, Alike R right right' →
      Alike R (conjoinRight left right) (conjoinRight left' right')
  | _, _, .always => by
      simp only [Predicate.conjoinRight]
      exact hleft
  | _, _, .leaf related => by
      simp only [Predicate.conjoinRight, hleft.isAlways_eq]
      split
      · exact .leaf related
      · exact alike_allOf (.cons hleft (.cons (.leaf related) .nil))
  | _, _, .and items => by
      simp only [Predicate.conjoinRight, hleft.isAlways_eq]
      split
      · exact .and items
      · exact alike_allOf (.cons hleft (.cons (.and items) .nil))
  | _, _, .or items => by
      simp only [Predicate.conjoinRight, hleft.isAlways_eq]
      split
      · exact .or items
      · exact alike_anyOf (forall₂_conjoinRights hleft items)

theorem forall₂_conjoinRights (hleft : Alike R left left') :
    ∀ {ps qs}, AllAlike R ps qs →
      List.Forall₂ (Alike R) (conjoinRights left ps) (conjoinRights left' qs)
  | _, _, .nil => .nil
  | _, _, .cons first others =>
      .cons (Alike.conjoinRight hleft first) (forall₂_conjoinRights hleft others)

end

mutual

theorem Alike.conjoin (hright : Alike R right right') :
    ∀ {left left'}, Alike R left left' → Alike R (conjoin left right) (conjoin left' right')
  | _, _, .always => by
      simp only [Predicate.conjoin]
      exact Alike.always.conjoinRight hright
  | _, _, .leaf related => by
      simp only [Predicate.conjoin]
      exact (Alike.leaf related).conjoinRight hright
  | _, _, .and items => by
      simp only [Predicate.conjoin]
      exact (Alike.and items).conjoinRight hright
  | _, _, .or items => by
      simp only [Predicate.conjoin, hright.isAlways_eq]
      split
      · exact .or items
      · exact alike_anyOf (forall₂_conjoinLefts hright items)

theorem forall₂_conjoinLefts (hright : Alike R right right') :
    ∀ {ps qs}, AllAlike R ps qs →
      List.Forall₂ (Alike R) (conjoinLefts ps right) (conjoinLefts qs right')
  | _, _, .nil => .nil
  | _, _, .cons first others =>
      .cons (Alike.conjoin hright first) (forall₂_conjoinLefts hright others)

end

mutual

theorem alike_refl (hR : ∀ x, R x x) : ∀ p, Alike R p p
  | .always => .always
  | .leaf x => .leaf (hR x)
  | .and items => .and (allAlike_refl hR items)
  | .or items => .or (allAlike_refl hR items)

theorem allAlike_refl (hR : ∀ x, R x x) : ∀ ps, AllAlike R ps ps
  | [] => .nil
  | p :: rest => .cons (alike_refl hR p) (allAlike_refl hR rest)

end

/-- What a caller demands and a search add stays the same. -/
theorem Alike.merge (hR : ∀ x, R x x) (h : Alike R p q) (search : Predicate)
    (mandatory : Mandatory) : Alike R (merge p search mandatory) (merge q search mandatory) :=
  (alike_refl hR search).conjoin (h.conjoin (alike_refl hR mandatory.predicate))

/-! ## Clauses -/

variable {a : Audience} {c : Collection}

mutual

theorem Alike.innerClause_eq (hR : ∀ x y, R x y → x.clause a c = y.clause a c) :
    ∀ {p q}, Alike R p q → p.innerClause a c = q.innerClause a c
  | _, _, .always => rfl
  | _, _, .leaf related => by rw [innerClause, innerClause, hR _ _ related]
  | _, _, .and items => by rw [innerClause, innerClause, innerClauses_eq hR items]
  | _, _, .or items => by rw [innerClause, innerClause, innerClauses_eq hR items]

theorem innerClauses_eq (hR : ∀ x y, R x y → x.clause a c = y.clause a c) :
    ∀ {ps qs}, AllAlike R ps qs → innerClauses a c ps = innerClauses a c qs
  | _, _, .nil => rfl
  | _, _, .cons first others => by
      rw [innerClauses, innerClauses, Alike.innerClause_eq hR first, innerClauses_eq hR others]

end

/-- Predicates have the same clause if their comparisons have. -/
theorem Alike.clause_eq (hR : ∀ x y, R x y → x.clause a c = y.clause a c) (h : Alike R p q) :
    p.clause a c = q.clause a c := by
  rw [clause, clause, h.isAlways_eq, h.innerClause_eq hR]

end Predicate

end CollectionQuery
