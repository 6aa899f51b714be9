import CollectionQuery.Clause.Truth
import CollectionQuery.Proofs.Clause.Known
import CollectionQuery.Proofs.Store.Alike
import CollectionQuery.Proofs.Truth

/-!
# Clauses on rows that are alike

A known clause has one truth value on rows that are alike, in stores that are alike for the reader:
a related row counts only in scope, where the other store has a row alike.
-/

namespace CollectionQuery.Clause

variable {a : Audience} {c : Collection} {s t : Store} {x y : Row} {cl : Clause Cell}

/-! ## Truth values -/

theorem truthAll_congr {items : List (Clause Cell)}
    (h : ∀ cl ∈ items, truth s a x cl = truth t a y cl) :
    truthAll s a x items = truthAll t a y items := by
  induction items with
  | nil => rw [truthAll, truthAll]
  | cons cl rest ih =>
      obtain ⟨hcl, hrest⟩ := List.forall_mem_cons.1 h
      rw [truthAll, truthAll, hcl, ih hrest]

theorem truthAny_congr {items : List (Clause Cell)}
    (h : ∀ cl ∈ items, truth s a x cl = truth t a y cl) :
    truthAny s a x items = truthAny t a y items := by
  induction items with
  | nil => rw [truthAny, truthAny]
  | cons cl rest ih =>
      obtain ⟨hcl, hrest⟩ := List.forall_mem_cons.1 h
      rw [truthAny, truthAny, hcl, ih hrest]

/-- A relation to rows that meet a clause holds if one of them is in scope and meets it. -/
theorem truth_related {r : Relation} :
    truth s a x (related r cl) = .ofBool (decide (∃ other ∈ s.related r x,
      truth s a other cl = .yes ∧ a.inScope r.target other = true)) := by
  rw [truth]
  congr 1
  rw [Bool.eq_iff_iff]
  simp

/-- A known clause does not tell rows apart that are alike. -/
theorem Known.truth_eq (h : cl.Known a c) (hst : s.Alike a t) (hxy : x.Alike c y) :
    cl.truth s a x = cl.truth t a y := by
  induction h generalizing x y with
  | test visible => rw [truth, truth, hxy.visibleColumn?_eq visible]
  | related follows _ ih =>
      obtain ⟨hr, -, hsees⟩ := Audience.relation?_eq_some follows
      rw [truth_related, truth_related]
      congr 2
      refine propext ⟨?_, ?_⟩
      · rintro ⟨x', hx', htruth, hscope⟩
        obtain ⟨y', hy', halike⟩ := hst.related hr hsees hxy hx' hscope
        exact ⟨y', hy', (ih halike).symm.trans htruth, (halike.inScope_eq a).symm.trans hscope⟩
      · rintro ⟨y', hy', htruth, hscope⟩
        obtain ⟨x', hx', halike⟩ := hst.symm.related hr hsees hxy.symm hy' hscope
        exact ⟨x', hx', (ih halike.symm).trans htruth, (halike.symm.inScope_eq a).trans hscope⟩
  | all _ ih =>
      rw [truth, truth]
      exact truthAll_congr fun cl hcl => ih cl hcl hxy
  | any _ ih =>
      rw [truth, truth]
      exact truthAny_congr fun cl hcl => ih cl hcl hxy

end CollectionQuery.Clause
