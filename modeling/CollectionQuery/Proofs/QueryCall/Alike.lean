import CollectionQuery.Proofs.Clause.Alike
import CollectionQuery.Proofs.QueryCall
import CollectionQuery.Proofs.RowGraph.Alike

/-!
# Calls on stores that are alike

If both statements of a plan select rows that are alike in two stores, and these hand out related
rows in one order, the plan ends with the same total and with rows that are shown as the same
values, or with the same failure.

In parallel stores every plan that fits selects rows that are alike.  In stores that are alike for a
reader it does if it selects only rows in scope, and if the storage engine refuses the statements in
both stores or in none.
-/

namespace CollectionQuery.CollectionPlan

variable {a : Audience} {s t : Store} {p : CollectionPlan} {task : Engine.Task}

/-- Two selections of rows of a collection that fail for one cause, or in which the rows of one
have rows alike in the other. -/
inductive SelectionAlike (c : Collection) :
    Except StatementFault (List Row) → Except StatementFault (List Row) → Prop where
  /-- Both fail for one cause. -/
  | error (cause : StatementFault) : SelectionAlike c (.error cause) (.error cause)
  /-- The rows of both are told apart by their identifiers, and correspond. -/
  | ok {xs ys : List Row} (xs_nodup : (xs.map Row.id).Nodup) (ys_nodup : (ys.map Row.id).Nodup)
      (forth : ∀ x ∈ xs, ∃ y ∈ ys, x.Alike c y) (back : ∀ y ∈ ys, ∃ x ∈ xs, x.Alike c y) :
      SelectionAlike c (.ok xs) (.ok ys)

/-! ## From selections to pages -/

theorem forall₂_window {α β : Type} {R : α → β → Prop} {xs : List α} {ys : List β}
    (h : List.Forall₂ R xs ys) (skip take : Int) :
    List.Forall₂ R (window skip take xs) (window skip take ys) := by
  have hdrop := List.forall₂_drop skip.toNat h
  rw [window, window]
  split
  · exact hdrop
  · exact List.forall₂_take _ hdrop

/-- What is shown of the rows that a call ends with. -/
def shown (o : Outcome (List PageRow × Int)) : Outcome (List Value × Int) :=
  ⟨o.log, o.result.map fun r => (r.1.map PageRow.display, r.2)⟩

/-- What a run shows is settled by the count and by what the page shows. -/
theorem shown_run_congr (hcount : p.count s a = p.count t a)
    (hpages : (p.page s a).map (List.map PageRow.display) =
      (p.page t a).map (List.map PageRow.display)) : shown (p.run s a) = shown (p.run t a) := by
  rw [run, run, hcount]
  cases p.count t a with
  | error cause => dsimp only
  | ok total =>
      dsimp only
      generalize p.page s a = u at hpages ⊢
      generalize p.page t a = v at hpages ⊢
      cases u with
      | error cause =>
          cases v with
          | error cause' =>
              cases hpages
              rfl
          | ok rows => cases hpages
      | ok rows =>
          cases v with
          | error cause => cases hpages
          | ok rows' => simp only [shown, Outcome.ok, Except.map, Except.ok.inj hpages]

variable (hst : s.Alike a t) (ht : t.WellFormed) (htargets : RowGraph.TargetsAlike a s t)
  (hp : p.Fits a)
include hst ht hp

theorem onPage_alike {xs ys : List Row} (hxs : (xs.map Row.id).Nodup)
    (hys : (ys.map Row.id).Nodup) (forth : ∀ x ∈ xs, ∃ y ∈ ys, x.Alike p.collection y)
    (back : ∀ y ∈ ys, ∃ x ∈ xs, x.Alike p.collection y) :
    List.Forall₂ (Row.Alike p.collection) (p.onPage s a xs) (p.onPage t a ys) :=
  forall₂_window (sortRows_alike hst ht hp.order_known hxs hys forth back) p.skip p.take

theorem count_alike (h : SelectionAlike p.collection (p.selected s a .count)
    (p.selected t a .count)) : p.count s a = p.count t a := by
  rw [count, count]
  generalize p.selected s a .count = u at h ⊢
  generalize p.selected t a .count = v at h ⊢
  cases h with
  | error cause => rfl
  | @ok xs ys hxs hys forth back =>
      have hsorted := sortRows_alike hst ht hp.order_known hxs hys forth back
      have hlength : xs.length = ys.length := by
        rw [← (sortRows_perm (s := s) (a := a) p.order xs).length_eq, hsorted.length_eq,
          (sortRows_perm p.order ys).length_eq]
      rw [Except.map, Except.map, hlength]

include htargets
omit hst ht

/-- Rows that are alike are shown as the same values, or none can be read back for one cause. -/
theorem readPage_alike {xs ys : List Row}
    (h : List.Forall₂ (Row.Alike p.collection) (p.onPage s a xs) (p.onPage t a ys)) :
    (p.readPage s a xs).map (List.map PageRow.display) =
      (p.readPage t a ys).map (List.map PageRow.display) := by
  have hmisread : p.misread? (p.onPage s a xs) = p.misread? (p.onPage t a ys) :=
    h.findSome?_eq_findSome? fun x y hxy => hxy.misread?_eq p.columns
  rw [readPage, readPage, hmisread]
  cases p.misread? (p.onPage t a ys) with
  | some cause => rfl
  | none =>
      have hload := RowGraph.load_alike htargets hp.columns_known hp.paths_lead h
      rw [Except.map, Except.map, pageRows, pageRows, List.map_map, List.map_map]
      congr 1
      refine h.map_eq_map fun x y hxy => ?_
      simp only [Function.comp_apply, PageRow.display, hxy.id_eq]
      exact RowGraph.display_alike hload _

include hst ht

/-- Selections that are alike lead to the same end. -/
theorem shown_run_eq
    (hcount : SelectionAlike p.collection (p.selected s a .count) (p.selected t a .count))
    (hpage : p.isNumbered = true →
      SelectionAlike p.collection (p.selected s a p.task) (p.selected t a p.task)) :
    shown (p.run s a) = shown (p.run t a) := by
  have hpages : (p.page s a).map (List.map PageRow.display) =
      (p.page t a).map (List.map PageRow.display) := by
    rw [page_eq_bind, page_eq_bind]
    cases hnumbered : p.isNumbered with
    | false => simp only [Bool.false_eq_true, if_false]
    | true =>
        have hpage := hpage hnumbered
        generalize p.selected s a p.task = u at hpage ⊢
        generalize p.selected t a p.task = v at hpage ⊢
        cases hpage with
        | error cause => simp only [bind, Except.bind]
        | ok hxs hys forth back =>
            exact readPage_alike htargets hp (onPage_alike hst ht hp hxs hys forth back)
  exact shown_run_congr (count_alike hst ht hp hcount) hpages

omit hst ht hp htargets

/-! ## Selections -/

variable {c : Collection} {bound : Clause Cell}

/-- Rows that meet a clause are told apart by their identifiers. -/
theorem nodup_meeting (hs : s.WellFormed) (meets : Row → Bool) :
    (((s.rows c).filter meets).map Row.id).Nodup :=
  (hs.ids_nodup c).sublist (List.filter_sublist.map Row.id)

/-- The rows that meet a clause correspond if those of one store have counterparts that meet it in
the other, and if the storage engine refuses the statement in both stores or in none. -/
theorem matching_alike (hs : s.WellFormed) (ht : t.WellFormed)
    (hrefuses : s.engine.refuses s.shownTables ⟨a, c, bound, task⟩ =
      t.engine.refuses t.shownTables ⟨a, c, bound, task⟩)
    (forth : ∀ x ∈ s.rows c, bound.truth s a x = .yes →
      ∃ y ∈ t.rows c, bound.truth t a y = .yes ∧ x.Alike c y)
    (back : ∀ y ∈ t.rows c, bound.truth t a y = .yes →
      ∃ x ∈ s.rows c, bound.truth s a x = .yes ∧ x.Alike c y) :
    SelectionAlike c (matching s a c task bound) (matching t a c task bound) := by
  rw [matching, matching, hrefuses]
  split
  · exact .error _
  · refine .ok (nodup_meeting hs _) (nodup_meeting ht _) ?_ ?_
    · intro x hx
      obtain ⟨hx, htruth⟩ := List.mem_filter.1 hx
      obtain ⟨y, hy, htruth, hxy⟩ := forth x hx (Truth.holds_eq_true.1 htruth)
      exact ⟨y, List.mem_filter.2 ⟨hy, Truth.holds_eq_true.2 htruth⟩, hxy⟩
    · intro y hy
      obtain ⟨hy, htruth⟩ := List.mem_filter.1 hy
      obtain ⟨x, hx, htruth, hxy⟩ := back y hy (Truth.holds_eq_true.1 htruth)
      exact ⟨x, List.mem_filter.2 ⟨hx, Truth.holds_eq_true.2 htruth⟩, hxy⟩

/-- Whether the storage engine refuses a statement of a plan. -/
def refuses (s : Store) (a : Audience) (p : CollectionPlan) (task : Engine.Task) : Bool :=
  match p.condition.map (cells a) with
  | some (.ok bound) => s.engine.refuses s.shownTables ⟨a, p.collection, bound, task⟩
  | _ => false

/-- A row meets the condition of a plan, if there is one. -/
def Meets (s : Store) (a : Audience) (p : CollectionPlan) (row : Row) : Prop :=
  ∀ clause, p.condition = some clause →
    ∃ bound, cells a clause = .ok bound ∧ bound.truth s a row = .yes

/-- Stores that are alike for the reader have selections that are alike, if every row that meets the
condition has a counterpart, and if the storage engine refuses the statement in both or in none. -/
theorem selection_alike (hst : s.Alike a t) (hs : s.WellFormed) (ht : t.WellFormed)
    (hp : p.Fits a) (hrefuses : p.refuses s a task = p.refuses t a task)
    (forth : ∀ x ∈ s.rows p.collection, p.Meets s a x →
      ∃ y ∈ t.rows p.collection, x.Alike p.collection y)
    (back : ∀ y ∈ t.rows p.collection, p.Meets t a y →
      ∃ x ∈ s.rows p.collection, x.Alike p.collection y) :
    SelectionAlike p.collection (p.selected s a task) (p.selected t a task) := by
  cases hpresent : s.present with
  | false =>
      rw [selected_absent hpresent, selected_absent (hst.present_eq ▸ hpresent)]
      exact .error _
  | true =>
      have hpresent' : t.present = true := hst.present_eq ▸ hpresent
      cases hcondition : p.condition with
      | none =>
          have hmeets : ∀ u row, p.Meets u a row := fun u row clause h => by simp [hcondition] at h
          rw [selected_of_none hpresent hcondition, selected_of_none hpresent' hcondition]
          exact .ok (hs.ids_nodup _) (ht.ids_nodup _) (fun x hx => forth x hx (hmeets s x))
            fun y hy => back y hy (hmeets t y)
      | some clause =>
          rw [selected_of_some hpresent hcondition, selected_of_some hpresent' hcondition]
          cases hcells : cells a clause with
          | error cause => exact .error cause
          | ok bound =>
              have hknown := known_cells (hp.condition_known clause hcondition) hcells
              have hmeets : ∀ {u row}, bound.truth u a row = .yes → p.Meets u a row := by
                intro u row htruth other hother
                cases hcondition.symm.trans hother
                exact ⟨bound, hcells, htruth⟩
              refine matching_alike hs ht ?_ ?_ ?_
              · simpa [refuses, hcondition, hcells] using hrefuses
              · intro x hx htruth
                obtain ⟨y, hy, hxy⟩ := forth x hx (hmeets htruth)
                exact ⟨y, hy, (hknown.truth_eq hst hxy).symm.trans htruth, hxy⟩
              · intro y hy htruth
                obtain ⟨x, hx, hxy⟩ := back y hy (hmeets htruth)
                exact ⟨x, hx, (hknown.truth_eq hst hxy).trans htruth, hxy⟩

/-! ## Parallel stores -/

/-- The storage engine refuses the same statements in parallel stores. -/
theorem refuses_parallel (hst : s.Parallel t) : p.refuses s a task = p.refuses t a task := by
  rw [refuses, refuses, hst.engine_eq, hst.shownTables_eq]

/-- Every plan that fits selects rows that are alike in parallel stores. -/
theorem selection_parallel (hst : s.Parallel t) (hs : s.WellFormed) (ht : t.WellFormed)
    (hp : p.Fits a) :
    SelectionAlike p.collection (p.selected s a task) (p.selected t a task) := by
  have hrows := hst.rows_alike p.collection
  exact selection_alike (hst.alike a) hs ht hp (refuses_parallel hst)
    (fun x hx _ => hrows.exists_of_mem_left x hx) fun y hy _ => hrows.exists_of_mem_right y hy

/-! ## Scoped plans -/

/-- A plan that selects only rows in scope. -/
structure Scoped (s : Store) (a : Audience) (p : CollectionPlan) : Prop where
  /-- Without a condition all rows are in scope. -/
  all_in_scope : p.condition = none → ∀ row ∈ s.rows p.collection,
    a.inScope p.collection row = true
  /-- The rows that meet the condition are in scope. -/
  meeting_in_scope : ∀ clause bound, p.condition = some clause → cells a clause = .ok bound →
    ∀ row ∈ s.rows p.collection, bound.truth s a row = .yes → a.inScope p.collection row = true

theorem Scoped.inScope (h : p.Scoped s a) {row : Row} (hrow : row ∈ s.rows p.collection)
    (hmeets : p.Meets s a row) : a.inScope p.collection row = true := by
  cases hcondition : p.condition with
  | none => exact h.all_in_scope hcondition row hrow
  | some clause =>
      obtain ⟨bound, hcells, htruth⟩ := hmeets clause hcondition
      exact h.meeting_in_scope clause bound hcondition hcells row hrow htruth

/-- A plan that selects only rows in scope selects rows that are alike in stores that are alike for
the reader, if the storage engine refuses the statement in both or in none. -/
theorem selection_scoped (hst : s.Alike a t) (hs : s.WellFormed) (ht : t.WellFormed)
    (hp : p.Fits a) (hsees : a.sees p.collection = true)
    (hrefuses : p.refuses s a task = p.refuses t a task) (hscope : p.Scoped s a)
    (hscope' : p.Scoped t a) :
    SelectionAlike p.collection (p.selected s a task) (p.selected t a task) := by
  refine selection_alike hst hs ht hp hrefuses ?_ ?_
  · intro x hx hmeets
    exact hst.forth _ hsees x hx (hscope.inScope hx hmeets)
  · intro y hy hmeets
    exact hst.back _ hsees y hy (hscope'.inScope hy hmeets)

end CollectionQuery.CollectionPlan
