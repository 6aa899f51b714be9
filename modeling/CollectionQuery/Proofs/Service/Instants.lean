import CollectionQuery.Proofs.Comparison.Instants
import CollectionQuery.Proofs.Service.Frame
import CollectionQuery.Proofs.Service.Listing
import CollectionQuery.Proofs.Service.Selection
import CollectionQuery.Proofs.Uuid

/-!
# Listings by time

A listing that filters by time depends on the instants that the filter writes and not on the offsets
that it writes them with, for columns without offsets.  A column with offsets keeps what the clock
shows, and there the listing depends on that: some rows are found by one way to write an instant and
not by another.
-/

namespace CollectionQuery

open CollectionQuery.Calendar

variable {settings : Settings} {s : Store} {a : Audience} {c : Collection} {name : String}
  {R : Comparison → Comparison → Prop} {p p' : Plan}

/-! ## Calls -/

/-- Plans with comparisons that have the same clauses are read as the same. -/
theorem CollectionPlan.ofPlan_alike (hR : ∀ x y, R x y → x.clause a c = y.clause a c)
    (h : p.Alike R p') : ofPlan a c p = ofPlan a c p' := by
  rw [h.others, ofPlan, ofPlan, h.predicate.clause_eq hR]

/-- A call depends on how its plan is read. -/
theorem execute_congr (h : CollectionPlan.ofPlan a c p = CollectionPlan.ofPlan a c p')
    (before after : Bool) : execute s a c p before after = execute s a c p' before after := by
  have hstep (cancelled : Bool) (call : QueryCall) :
      QueryCall.step s a c p cancelled call = QueryCall.step s a c p' cancelled call := by
    cases call with
    | fresh => rw [QueryCall.step, QueryCall.step, h]
    | _ => rfl
  simp only [execute, hstep]

namespace Service

/-- A listing depends on the clauses of the comparisons of its filter. -/
theorem list_alike {f g : FilterGroup} (hc : collectionFor a name = .ok c)
    (h : f.Alike (FilterCondition.Makes fun x y => x.clause a c = y.clause a c) g)
    (s : Store) (q : QueryParams) :
    list settings s a name { q with filter := some f } =
      list settings s a name { q with filter := some g } := by
  have halike := Plan.of_alike h (fun _ => rfl) settings (listContext a c) q
  generalize hp : Plan.of settings (listContext a c) { q with filter := some f } = o at halike
  generalize hp' : Plan.of settings (listContext a c) { q with filter := some g } = o' at halike
  cases halike with
  | error log failure => rw [list_unplanned hc hp, list_unplanned hc hp']
  | ok log related =>
      cases htime : leavesTime settings.timeoutSeconds with
      | false => rw [list_untimely hc hp htime, list_untimely hc hp' htime]
      | true =>
          rw [list_of_plan hc hp htime, list_of_plan hc hp' htime,
            execute_congr (CollectionPlan.ofPlan_alike (fun _ _ => id) related)]
          rfl

/-! ## Ways to write an instant -/

/-- Two values for one column are told apart: some time is such that every row that has it is found
by a listing with one of the values and by none with the other, if the rows can be read back. -/
def TellsApart (settings : Settings) (name : String) (c : Collection) (column : Column)
    (op : Operator) (v w : Value) : Prop :=
  ∃ wall : DateTime, ∀ (s : Store) (row : Row), s.WellFormed → s.present = true →
    (∀ other ∈ s.rows c, other.Legible c) → row ∈ s.rows c →
      Number.isWord (s.rows c).length = true → row.cell column.name = .moment wall →
        ¬ (Finds settings s name column op v (some (.text row.id.text)) ↔
          Finds settings s name column op w (some (.text row.id.text)))

/-- Two ways to write an instant are told apart if the column keeps offsets and the clocks show
different times. -/
theorem tellsApart_of_wall_ne {column : Column} (hkind : column.kind = .moment true)
    {text other : String} {t u : Timestamp} (hleft : Coercion.Writes column.name text t)
    (hright : Coercion.Writes column.name other u) (hinstant : t.instant = u.instant)
    (hwall : t.wall ≠ u.wall) {op : Operator} (hop : op ∈ Operator.ordered) {v w : Value}
    (hv : Admits settings name c column op v (op.alone (.text text)))
    (hw : Admits settings name c column op w (op.alone (.text other))) :
    TellsApart settings name c column op v w := by
  have hiff := Comparison.passes_alone_congr_iff hkind hleft hright hinstant hop column.name
  obtain ⟨wall, htells⟩ := not_forall.1 fun hall => hwall (hiff.1 hall rfl)
  have htext : column.kind.isText = false := by
    rw [hkind]
    rfl
  refine ⟨wall, fun s row hs hpresent hlegible hrow hsize hcell hfinds => htells ?_⟩
  have hfindsv := (hv.finds_iff htext hs hpresent hrow hlegible hsize).1
  have hfindsw := (hw.finds_iff htext hs hpresent hrow hlegible hsize).1
  rw [hcell] at hfindsv hfindsw
  exact hfindsv.symm.trans (hfinds.trans hfindsw)

/-- Filters that spell the same instants in different ways list the same rows, with the same total,
if on columns with offsets the clocks show the same.  If they do not, every operator with one time
alone tells the two ways to write it apart. -/
theorem list_by_instant_unless_offsets_kept {f g : FilterGroup}
    (h : ∀ c, collectionFor a name = .ok c → f.Alike (FilterCondition.Respelled a c) g)
    (settings : Settings) (s : Store) (q : QueryParams) :
    list settings s a name { q with filter := some f } =
        list settings s a name { q with filter := some g } ∧
      ∀ (listed : String) (c : Collection) (column : Column) (text other : String)
        (t u : Timestamp), column.kind = .moment true → Coercion.Writes column.name text t →
          Coercion.Writes column.name other u → t.instant = u.instant → t.wall ≠ u.wall →
            ∀ op ∈ Operator.ordered, ∀ v w,
              Admits settings listed c column op v (op.alone (.text text)) →
                Admits settings listed c column op w (op.alone (.text other)) →
                  TellsApart settings listed c column op v w := by
  constructor
  · cases hc : collectionFor a name with
    | error failure => rw [list_refused hc, list_refused hc]
    | ok c =>
        have hmakes := FilterGroup.Alike.mono (fun _ _ => FilterCondition.Respelled.makes) (h c hc)
        exact list_alike hc hmakes s q
  · intro listed c column text other t u hkind hleft hright hinstant hwall op hop v w hv hw
    exact tellsApart_of_wall_ne hkind hleft hright hinstant hwall hop hv hw

/-! ## One evening -/

/-- Half past eleven in the evening of the last day of February, universal time. -/
def evening : Timestamp :=
  ⟨⟨{ year := 2026, month := 2, day := 28 }, ⟨84600000000, by decide⟩⟩, some .universal⟩

/-- What a clock shows then that is two hours ahead. -/
def eveningAhead : Timestamp :=
  ⟨⟨{ year := 2026, month := 3, day := 1 }, ⟨5400000000, by decide⟩⟩,
    some ⟨7200000000, by decide⟩⟩

theorem writes_evening (name : String) :
    Coercion.Writes name "2026-02-28T23:30:00+00:00" evening :=
  Coercion.writes_of_ofIso? name (by decide +kernel) (by decide +kernel) rfl

theorem writes_eveningAhead (name : String) :
    Coercion.Writes name "2026-03-01T01:30:00+02:00" eveningAhead :=
  Coercion.writes_of_ofIso? name (by decide +kernel) (by decide +kernel) rfl

theorem instant_evening : evening.instant = eveningAhead.instant := by
  decide +kernel

/-- A category that was made then, and an event that begins a quarter of an hour later. -/
def eveningRows : Store := runAll .empty [
  (⟨evening.wall, .drawn 1, Uuid.isLegible_drawn 1⟩,
    .create "categories" (.object [("name", .text "N")])),
  (⟨evening.wall, .drawn 2, Uuid.isLegible_drawn 2⟩, .create "events" (.object [
    ("title", .text "T"), ("description", .text "D"),
    ("start_date", .text "2026-02-28T23:45:00")]))]

/-- The column of the times at which rows were made. -/
def createdAt : Column := { name := "created_at", kind := .moment true, default := .now }

/-- The filter that compares one field with a text. -/
def compares (field operator text : String) : FilterGroup :=
  .mk .and [⟨field, operator, .text text⟩] []

/-- The first page of all rows. -/
def firstPage : QueryParams := ⟨1, 10, none, none, none, [], none, [], [], [], false⟩

/-- How many rows of the evening are listed. -/
def eveningTotal (collection : String) (f : FilterGroup) : Option Int :=
  (list {} eveningRows .staff collection { firstPage with filter := some f }).result.toOption.map
    fun page => page.info.totalItems

theorem admits_createdAt {op : Operator} (hop : op ∈ Operator.ordered) (text : String) :
    Admits {} "categories" .categories createdAt op (op.alone (.text text))
      (op.alone (.text text)) where
  usable := Settings.usable_default
  resolve_eq := rfl
  column_mem := List.mem_append_right _ (List.mem_cons_of_mem _ List.mem_cons_self)
  column_shown := by decide
  normalize_eq := Operator.normalize_alone hop text

/-- The event is found from the evening on, however the evening is written, and every operator tells
the two ways to write it apart for the times at which categories were made. -/
theorem list_by_instant_unless_offsets_kept_evening :
    let sooner := compares "start_date" "gte" "2026-02-28T23:30:00+00:00"
    let later := compares "start_date" "gte" "2026-03-01T01:30:00+02:00"
    (∀ c, collectionFor .staff "events" = .ok c →
      sooner.Alike (FilterCondition.Respelled .staff c) later) ∧
    eveningTotal "events" sooner = some 1 ∧ eveningTotal "events" later = some 1 ∧
    evening.instant = eveningAhead.instant ∧ evening.wall ≠ eveningAhead.wall ∧
    ∀ op ∈ Operator.ordered, TellsApart {} "categories" .categories createdAt op
      (op.alone (.text "2026-02-28T23:30:00+00:00"))
      (op.alone (.text "2026-03-01T01:30:00+02:00")) := by
  intro sooner later
  have halike (c : Collection) (hc : collectionFor .staff "events" = .ok c) :
      sooner.Alike (FilterCondition.Respelled .staff c) later := by
    obtain rfl : c = .events := Except.ok.inj (hc.symm.trans rfl)
    have hitem := Value.Respelling.instant (writes_evening "start_date")
      (writes_eveningAhead "start_date") instant_evening
      (show false = true → _ from fun h => absurd h Bool.false_ne_true)
    exact .mk (.cons (.values rfl rfl (.single hitem)) .nil) .nil
  obtain ⟨hlists, htells⟩ := list_by_instant_unless_offsets_kept halike {} eveningRows firstPage
  have htotal : eveningTotal "events" sooner = some 1 := by
    decide +kernel
  have hwall : evening.wall ≠ eveningAhead.wall := by decide
  refine ⟨halike, htotal, ?_, instant_evening, hwall, fun op hop => ?_⟩
  · rw [eveningTotal, ← hlists]
    exact htotal
  · exact htells "categories" .categories createdAt _ _ _ _ rfl (writes_evening _)
      (writes_eveningAhead _) instant_evening hwall op hop _ _ (admits_createdAt hop _)
      (admits_createdAt hop _)

/-- The category is found by the time it was made at, and not by the same time two hours ahead. -/
theorem list_misses_instant_ahead :
    Coercion.Writes "created_at" "2026-02-28T23:30:00+00:00" evening ∧
      Coercion.Writes "created_at" "2026-03-01T01:30:00+02:00" eveningAhead ∧
      evening.instant = eveningAhead.instant ∧
      eveningTotal "categories" (compares "created_at" "eq" "2026-02-28T23:30:00+00:00") = some 1 ∧
      eveningTotal "categories" (compares "created_at" "eq" "2026-03-01T01:30:00+02:00") = some 0 :=
  ⟨writes_evening _, writes_eveningAhead _, instant_evening, by decide +kernel, by decide +kernel⟩

end Service

end CollectionQuery
