import CollectionQuery.Clause.OfPredicate
import CollectionQuery.Proofs.Lists
import CollectionQuery.Proofs.Outcome
import CollectionQuery.Proofs.Schema

/-!
# What clauses depend on

The clause of a predicate tests columns that the reader sees and follows relations that the reader
may follow, in every part of it.  Replacing the operands of a clause changes neither.
-/

namespace CollectionQuery

/-- A clause on the rows of a collection that tests only columns which the reader sees and follows
only relations which the reader may follow. -/
inductive Clause.Known {α : Type} (a : Audience) : Collection → Clause α → Prop where
  /-- The column of a test is visible. -/
  | test {c : Collection} {column : String} {t : CellTest α}
      (visible : (c.visibleColumn? column).isSome = true) : Known a c (test column t)
  /-- The reader may follow the relation, and the clause on the related rows is known. -/
  | related {c : Collection} {r : Relation} {inner : Clause α}
      (follows : a.relation? c r.name = some r) (inner_known : Known a r.target inner) :
      Known a c (related r inner)
  /-- All parts of a conjunction are known. -/
  | all {c : Collection} {items : List (Clause α)} (items_known : ∀ cl ∈ items, Known a c cl) :
      Known a c (all items)
  /-- All parts of a disjunction are known. -/
  | any {c : Collection} {items : List (Clause α)} (items_known : ∀ cl ∈ items, Known a c cl) :
      Known a c (any items)

variable {a : Audience} {c : Collection}

/-! ## Replacing operands -/

namespace Clause

variable {α β ε : Type} {f : α → Except ε β}

theorem bindAll_eq_ok {items : List (Clause α)} {bound : List (Clause β)} :
    bindAll f items = .ok bound ↔ List.Forall₂ (fun x y => bind f x = .ok y) items bound := by
  induction items generalizing bound with
  | nil =>
      rw [bindAll, List.forall₂_nil_left_iff]
      exact ⟨fun h => (Except.ok.inj h).symm, fun h => h ▸ rfl⟩
  | cons item rest ih =>
      rw [bindAll, bind_eq_ok, List.forall₂_cons_left_iff]
      constructor
      · rintro ⟨first, hfirst, h⟩
        obtain ⟨more, hmore, h⟩ := bind_eq_ok.1 h
        exact ⟨first, more, hfirst, ih.1 hmore, (pure_eq_ok.1 h).symm⟩
      · rintro ⟨first, more, hfirst, hmore, rfl⟩
        exact ⟨first, hfirst, bind_eq_ok.2 ⟨more, ih.2 hmore, rfl⟩⟩

theorem map_bindAll_eq_ok {join : List (Clause β) → Clause β} {items : List (Clause α)}
    {cl : Clause β} : (bindAll f items).map join = .ok cl ↔
      ∃ bound, List.Forall₂ (fun x y => bind f x = .ok y) items bound ∧ cl = join bound := by
  rw [map_eq_ok]
  constructor
  · rintro ⟨bound, hbound, rfl⟩
    exact ⟨bound, bindAll_eq_ok.1 hbound, rfl⟩
  · rintro ⟨bound, hbound, rfl⟩
    exact ⟨bound, bindAll_eq_ok.2 hbound, rfl⟩

theorem bind_all_eq_ok {items : List (Clause α)} {cl : Clause β} :
    bind f (all items) = .ok cl ↔
      ∃ bound, List.Forall₂ (fun x y => bind f x = .ok y) items bound ∧ cl = all bound := by
  rw [bind, map_bindAll_eq_ok]

theorem bind_any_eq_ok {items : List (Clause α)} {cl : Clause β} :
    bind f (any items) = .ok cl ↔
      ∃ bound, List.Forall₂ (fun x y => bind f x = .ok y) items bound ∧ cl = any bound := by
  rw [bind, map_bindAll_eq_ok]

theorem bind_test_eq_ok {column : String} {t : CellTest α} {cl : Clause β} :
    bind f (test column t) = .ok cl ↔ ∃ u, t.bind f = .ok u ∧ cl = test column u := by
  rw [bind, map_eq_ok]
  simp only [eq_comm]

theorem bind_related_eq_ok {r : Relation} {inner : Clause α} {cl : Clause β} :
    bind f (related r inner) = .ok cl ↔ ∃ u, bind f inner = .ok u ∧ cl = related r u := by
  rw [bind, map_eq_ok]
  simp only [eq_comm]

theorem Known.bind {cl : Clause α} {bound : Clause β} (h : cl.Known a c)
    (hbound : cl.bind f = .ok bound) : bound.Known a c := by
  induction h generalizing bound with
  | test visible =>
      obtain ⟨u, -, rfl⟩ := bind_test_eq_ok.1 hbound
      exact .test visible
  | related follows _ ih =>
      obtain ⟨u, hu, rfl⟩ := bind_related_eq_ok.1 hbound
      exact .related follows (ih hu)
  | all _ ih =>
      obtain ⟨us, hus, rfl⟩ := bind_all_eq_ok.1 hbound
      exact .all (hus.forall_right fun item hitem => ih item hitem)
  | any _ ih =>
      obtain ⟨us, hus, rfl⟩ := bind_any_eq_ok.1 hbound
      exact .any (hus.forall_right fun item hitem => ih item hitem)

theorem bind_of_cells {cl : Clause Operand} {bound : Clause Cell} (h : cl.cells = .ok bound) :
    cl.bind Operand.bind = .ok bound := by
  obtain ⟨_, -, h⟩ := bind_eq_ok.1 h
  exact h

end Clause

/-! ## Reading predicates -/

theorem Comparison.known_clauseAt {cmp : Comparison} {names : List String} {cl : Clause Operand}
    (h : cmp.clauseAt a c names = .ok cl) : cl.Known a c := by
  induction names generalizing c cl with
  | nil =>
      rw [clauseAt] at h
      cases h
  | cons name rest ih =>
      cases rest with
      | nil =>
          rw [clauseAt] at h
          cases hcolumn : c.visibleColumn? name with
          | none => simp [hcolumn] at h
          | some column =>
              rw [hcolumn] at h
              obtain ⟨t, -, rfl⟩ := map_eq_ok.1 h
              exact .test (by rw [hcolumn]; rfl)
      | cons next rest =>
          rw [clauseAt] at h
          · cases hrelation : a.relation? c name with
            | none => simp [hrelation] at h
            | some r =>
                rw [hrelation] at h
                obtain ⟨inner, hinner, rfl⟩ := map_eq_ok.1 h
                have hname : r.name = name := (Audience.relation?_eq_some hrelation).2.1
                exact .related (hname.symm ▸ hrelation) (ih hinner)
          · simp

namespace Predicate

theorem innerClauses_cons_eq_ok {p : Predicate} {rest : List Predicate}
    {cls : List (Clause Operand)} :
    innerClauses a c (p :: rest) = .ok cls ↔ ∃ first more, p.innerClause a c = .ok first ∧
      innerClauses a c rest = .ok more ∧ cls = first.toList ++ more := by
  rw [innerClauses, bind_eq_ok]
  constructor
  · rintro ⟨first, hfirst, h⟩
    obtain ⟨more, hmore, h⟩ := bind_eq_ok.1 h
    exact ⟨first, more, hfirst, hmore, (pure_eq_ok.1 h).symm⟩
  · rintro ⟨first, more, hfirst, hmore, rfl⟩
    exact ⟨first, hfirst, bind_eq_ok.2 ⟨more, hmore, rfl⟩⟩

theorem join_innerClauses_eq_ok {join : List (Clause Operand) → Clause Operand}
    {items : List Predicate} {o : Option (Clause Operand)} :
    (innerClauses a c items >>= fun cls => pure (joinClauses join cls)) = .ok o ↔
      ∃ cls, innerClauses a c items = .ok cls ∧ o = joinClauses join cls := by
  rw [bind_eq_ok]
  constructor
  · rintro ⟨cls, hcls, h⟩
    exact ⟨cls, hcls, (pure_eq_ok.1 h).symm⟩
  · rintro ⟨cls, hcls, rfl⟩
    exact ⟨cls, hcls, rfl⟩

theorem innerClause_and_eq_ok {items : List Predicate} {o : Option (Clause Operand)} :
    (and items).innerClause a c = .ok o ↔
      ∃ cls, innerClauses a c items = .ok cls ∧ o = joinClauses .all cls := by
  rw [innerClause, join_innerClauses_eq_ok]

theorem innerClause_or_eq_ok {items : List Predicate} {o : Option (Clause Operand)} :
    (or items).innerClause a c = .ok o ↔
      ∃ cls, innerClauses a c items = .ok cls ∧ o = joinClauses .any cls := by
  rw [innerClause, join_innerClauses_eq_ok]

theorem joinClauses_eq_some {join : List (Clause Operand) → Clause Operand}
    {cls : List (Clause Operand)} {cl : Clause Operand} (h : joinClauses join cls = some cl) :
    cl = join cls := by
  cases cls with
  | nil => cases h
  | cons first rest => exact (Option.some.inj h).symm

-- The recursion goes through the list of parts, so both statements are proved together.
mutual

theorem known_innerClause : ∀ (p : Predicate) {cl : Clause Operand},
    p.innerClause a c = .ok (some cl) → cl.Known a c
  | always, _, h => by
      rw [innerClause] at h
      cases h
  | leaf cmp, cl, h => by
      rw [innerClause] at h
      obtain ⟨cl', hcl, heq⟩ := map_eq_ok.1 h
      cases heq
      exact Comparison.known_clauseAt hcl
  | and items, cl, h => by
      obtain ⟨cls, hcls, heq⟩ := innerClause_and_eq_ok.1 h
      rw [joinClauses_eq_some heq.symm]
      exact .all (known_innerClauses items hcls)
  | or items, cl, h => by
      obtain ⟨cls, hcls, heq⟩ := innerClause_or_eq_ok.1 h
      rw [joinClauses_eq_some heq.symm]
      exact .any (known_innerClauses items hcls)

theorem known_innerClauses : ∀ (items : List Predicate) {cls : List (Clause Operand)},
    innerClauses a c items = .ok cls → ∀ cl ∈ cls, cl.Known a c
  | [], _, h => by
      rw [innerClauses] at h
      cases h
      simp
  | p :: rest, _, h => by
      obtain ⟨first, more, hfirst, hmore, rfl⟩ := innerClauses_cons_eq_ok.1 h
      intro cl hcl
      rcases List.mem_append.1 hcl with hcl | hcl
      · rw [Option.mem_toList] at hcl
        exact known_innerClause p (hfirst.trans (congrArg _ hcl))
      · exact known_innerClauses rest hmore cl hcl

end

theorem known_clause {p : Predicate} {cl : Clause Operand}
    (h : p.clause a c = .ok (some cl)) : cl.Known a c := by
  rw [clause] at h
  split at h
  · cases h
  · exact known_innerClause p h

end Predicate

end CollectionQuery
