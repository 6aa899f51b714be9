import CollectionQuery.Proofs.QueryCall.Alike
import CollectionQuery.Proofs.RowGraph.Rearranged

/-!
# Calls on stores that hand out related rows in another order

If two stores have the same rows and the storage engine refuses the same statements of a plan, then
the plan ends in the same way on both, up to the order of lists in what it shows.
-/

namespace CollectionQuery

/-! ## What is shown -/

/-- Two pages of values, with the number of all rows, that differ at most in the order of lists in
the values. -/
def ShownRearranged (r r' : List Value × Int) : Prop :=
  List.Forall₂ Value.Rearranged r.1 r'.1 ∧ r.2 = r'.2

theorem ShownRearranged.of_data {data data' : List Value}
    (h : List.Forall₂ Value.Rearranged data data') (total : Int) :
    ShownRearranged (data, total) (data', total) := ⟨h, rfl⟩

/-! ## Runs -/

namespace CollectionPlan

variable {s t : Store} {a : Audience} {p : CollectionPlan} {task : Engine.Task}
  (hrows : s.rows = t.rows) (hpresent : s.present = t.present) (hs : s.WellFormed) (hp : p.Fits a)
include hrows

theorem alike_of_rows_eq (hpresent : s.present = t.present) : s.Alike a t where
  present_eq := hpresent
  forth c _ x hx _ := ⟨x, hrows ▸ hx, .refl c x⟩
  back c _ y hy _ := ⟨y, hrows ▸ hy, .refl c y⟩

include hpresent hp

theorem selected_congr (hrefuses : p.refuses s a task = p.refuses t a task) :
    p.selected s a task = p.selected t a task := by
  have hst : s.Alike a t := alike_of_rows_eq hrows hpresent
  cases habsent : s.present with
  | false => rw [selected_absent habsent, selected_absent (hpresent ▸ habsent)]
  | true =>
      have hthere : t.present = true := hpresent ▸ habsent
      cases hcondition : p.condition with
      | none => rw [selected_of_none habsent hcondition, selected_of_none hthere hcondition, hrows]
      | some clause =>
          rw [selected_of_some habsent hcondition, selected_of_some hthere hcondition]
          cases hcells : cells a clause with
          | error cause => rfl
          | ok bound =>
              have hknown := known_cells (hp.condition_known clause hcondition) hcells
              have htruth : ∀ row, bound.truth s a row = bound.truth t a row :=
                fun row => hknown.truth_eq hst (.refl _ row)
              simp only [refuses, hcondition, Option.map_some, hcells] at hrefuses
              simp only [bind, Except.bind, matching, hrefuses, hrows, htruth]

include hs

theorem onPage_congr (rows : List Row) : p.onPage s a rows = p.onPage t a rows := by
  have hst : s.Alike a t := alike_of_rows_eq hrows hpresent
  have hcompare : (fun x y => compareRows s a p.order x y != .gt) =
      fun x y => compareRows t a p.order x y != .gt :=
    funext fun x => funext fun y => by
      rw [compareRows_alike hst (hs.of_rows_eq hrows) hp.order_known (.refl _ x) (.refl _ y)]
  rw [onPage, onPage, sortRows, sortRows, hcompare]

theorem display_pageRows_rearranged {found : List Row}
    (hfound : ∀ row ∈ found, row ∈ s.rows p.collection) :
    List.Forall₂ Value.Rearranged ((p.pageRows s a found).map PageRow.display)
      ((p.pageRows t a found).map PageRow.display) := by
  have hmem : ∀ row ∈ p.onPage t a found, row ∈ s.rows p.collection :=
    fun row hrow => hfound row (mem_of_mem_onPage hrow)
  rw [pageRows, pageRows, onPage_congr hrows hpresent hs hp, List.map_map, List.map_map]
  refine List.forall₂_map_left_iff.2 (List.forall₂_map_right_iff.2 ?_)
  exact List.forall₂_same.2 fun row _ =>
    RowGraph.display_load_rearranged hs hrows hmem p.columns p.paths _

/-- A plan ends in the same way on stores with the same rows, up to the order of lists in what it
shows, if the storage engine refuses the same statements. -/
theorem run_rearranged (hrefuses : ∀ task, p.refuses s a task = p.refuses t a task) :
    Outcome.Alike ShownRearranged (shown (p.run s a)) (shown (p.run t a)) := by
  have hselected : ∀ task, p.selected s a task = p.selected t a task :=
    fun task => selected_congr hrows hpresent hp (hrefuses task)
  have herror (cause : StatementFault) : Outcome.Alike ShownRearranged
      (shown (cause.outcome p.collection.name)) (shown (cause.outcome p.collection.name)) := by
    cases cause <;> exact .error _ _
  cases hcount : p.selected t a .count with
  | error cause =>
      simp only [run, count, hselected, hcount, Except.map]
      exact herror cause
  | ok found =>
      rw [run_of_counted hcount, run_of_counted ((hselected _).trans hcount), page_eq_bind,
        page_eq_bind, hselected]
      cases p.isNumbered with
      | false =>
          simp only [Bool.false_eq_true, if_false]
          exact herror .outOfRange
      | true =>
          rw [if_pos rfl, if_pos rfl]
          cases hpage : p.selected t a p.task with
          | error cause =>
              simp only [bind, Except.bind]
              exact herror cause
          | ok found =>
              have hfound : ∀ row ∈ found, row ∈ s.rows p.collection :=
                fun row hrow => hrows ▸ (selected_sublist hpage).subset hrow
              have hdisplay := display_pageRows_rearranged hrows hpresent hs hp hfound
              simp only [bind, Except.bind, readPage, onPage_congr hrows hpresent hs hp]
              cases p.misread? (p.onPage t a found) with
              | some cause => exact herror (.fault cause)
              | none => exact .ok [] (.of_data hdisplay _)

end CollectionPlan

end CollectionQuery
