import CollectionQuery.Proofs.Comparison.Dates
import CollectionQuery.Proofs.Service.Refusals
import CollectionQuery.Proofs.Service.Selection

/-!
# Listings of new rows by their dates

A row is created with the text of a date-time, and then the rows are listed in which the column
equals this text.  The pages are there and one of them has the row, unless the text is misread; then
there are no pages, or none of them has it.
-/

namespace CollectionQuery

open CollectionQuery.Calendar CollectionQuery.Text

variable {s : Store} {c : Collection} {occasion : Occasion} {name text : String} {column : Column}
  {aware : Bool} {members : List (String × Value)} {d : Draft} {row : Row}

/-! ## What is stored -/

/-- The value that is read from the text of a date-time. -/
theorem Payload.readMember_moment_eq_ok (hkind : column.kind = .moment aware) {v : Value}
    (h : readMember column (.text text) = .ok v) :
    ∃ t, Timestamp.ofIso? (Coercion.zuluAsOffset (strip text)) = some t ∧ v = .moment t := by
  have hvalue : readValue column (.text text) = temporal (.moment aware) column.name text :=
    readValue_text hkind text
  rw [readMember_of_isNull rfl, hvalue, temporal, timestamp] at h
  cases hread : Timestamp.ofIso? (Coercion.zuluAsOffset (strip text)) with
  | none =>
      rw [hread] at h
      cases h
  | some t =>
      rw [hread] at h
      exact ⟨t, rfl, (Except.ok.inj h).symm⟩

/-- A new row has in a column of date-times what the clock of the payload shows. -/
theorem Store.cell_addRow_moment (hcolumn : column ∈ c.columns)
    (hkind : column.kind = .moment aware)
    (hmember : Value.member? members column.name = some (.text text))
    (hdraft : Draft.ofPayload s c false (.object members) = .ok d) {next : Store}
    (hadd : s.addRow occasion c d = .ok (next, row)) :
    ∃ t, Timestamp.ofIso? (Coercion.zuluAsOffset (strip text)) = some t ∧
      row.cell column.name = .moment t.wall := by
  obtain ⟨other, hother, hname, v, hread, hv⟩ :=
    Draft.member?_ofPayload hdraft (Payload.not_derived hcolumn (Or.inr ⟨aware, hkind⟩)) hmember
  obtain rfl := Collection.eq_of_name_eq hother hcolumn hname
  obtain ⟨t, ht, rfl⟩ := Payload.readMember_moment_eq_ok hkind hread
  have hcell := cell_addRow hadd hcolumn
  rw [initial_of_member? hv, hkind] at hcell
  exact ⟨t, ht, (Except.ok.inj hcell).symm⟩

namespace Service

/-- A stored row is shown with its identifier. -/
theorem shownId?_displayRow (hs : s.WellFormed) (hrow : row ∈ s.rows c) :
    RowGraph.shownId? (displayRow c row) = some (.text row.id.text) := by
  have hfound : RowGraph.row? [LoadedRow.full c row] ⟨c, row.id⟩ = some (LoadedRow.full c row) := by
    simp [RowGraph.row?, LoadedRow.full, LoadedRow.ofColumns]
  refine RowGraph.shownId?_display hfound (RowGraph.identified_ofColumns hs hrow _) ?_
  exact List.mem_map.2 ⟨("id", row.cell "id"), List.mem_map_of_mem Collection.id_mem_columns, rfl⟩

/-- What the listings after a create say of the new row, whose column was given the text of the
date-time `t`. -/
structure DateListed (settings : Settings) (next : Store) (name : String) (c : Collection)
    (column : Column) (aware : Bool) (text : String) (answer : Value) (t : Timestamp) : Prop where
  /-- The payload means `t` by the text. -/
  read : Timestamp.ofIso? (Coercion.zuluAsOffset (strip text)) = some t
  /-- The new row is there, and its column has what the clock of `t` shows. -/
  stored : ∃ row ∈ next.rows c, answer = displayRow c row ∧ row.cell column.name = .moment t.wall
  /-- A listing by the text finds the row exactly if the text is not misread. -/
  found : Finds settings next name column .eq (.text text) (RowGraph.shownId? answer) ↔
    ¬ Misread aware text t
  /-- If it is misread, then no page has the row. -/
  lost : Misread aware text t → ∀ k page,
    listComparing settings next name column .eq (.text text) (k + 1) = .ok page →
      RowGraph.shownId? answer ∉ page.data.map RowGraph.shownId?

/-- A row that is created with the text of a date-time is found by this text unless the text is
misread.  No table has more rows than the storage engine can count. -/
theorem new_row_found_by_date (hs : Reachable s) {settings : Settings} (hsettings : settings.Usable)
    (hname : Collection.resolve name = .ok c) (hcolumn : column ∈ c.columns)
    (hkind : column.kind = .moment aware)
    (hmember : Value.member? members column.name = some (.text text)) {answer : Value}
    (hcreate : (create s occasion name (.object members)).2.result = .ok answer)
    (hsize : Number.isWord ((create s occasion name (.object members)).1.rows c).length = true) :
    ∃ t, DateListed settings (create s occasion name (.object members)).1 name c column aware text
      answer t := by
  obtain ⟨_, d, row, hresolve, hdraft, hadd, -, rfl⟩ := create_eq_ok hcreate
  cases hname.symm.trans hresolve
  obtain ⟨t, ht, hcell⟩ := Store.cell_addRow_moment hcolumn hkind hmember hdraft hadd
  have hnext : Reachable (create s occasion name (.object members)).1 :=
    .write hs occasion (.create name (.object members))
  have hrow : row ∈ (create s occasion name (.object members)).1.rows c := by
    rw [(Store.added_addRow hadd).rows]
    exact List.mem_append_right _ (List.mem_singleton_self row)
  have hshown : column.name ∉ c.hiddenFields := by
    intro hhidden
    obtain ⟨_, hhash⟩ := Collection.kind_of_hash hcolumn (Collection.mem_hiddenFields.1 hhidden).2
    cases hkind.symm.trans hhash
  have hadmits : Admits settings name c column .eq (.text text) (.text text) :=
    ⟨hsettings, hname, hcolumn, hshown, rfl⟩
  have htext : column.kind.isText = false := by
    rw [hkind]
    rfl
  have hown : column.name ∉ systemFields := by
    intro hsystem
    obtain ⟨_, _, _, v, _, hv⟩ :=
      Draft.member?_ofPayload hdraft (Payload.not_derived hcolumn (Or.inr ⟨aware, hkind⟩)) hmember
    rw [Value.member?, Draft.find?_system hdraft hsystem] at hv
    cases hv
  have hlegible : ∀ other ∈ (create s occasion name (.object members)).1.rows c,
      other.Legible c := fun other hother => hnext.wellFormed.legible_row hother
    fun _ hmem => Collection.name_of_uuid_of_moment hcolumn hmem hkind hown
  obtain ⟨hfinds, hlost⟩ :=
    hadmits.finds_iff htext hnext.wellFormed hnext.present hrow hlegible hsize
  have hpasses : Comparison.Passes ⟨column.name, .eq, .text text⟩ column (row.cell column.name) ↔
      ¬ Misread aware text t := by
    rw [hcell]
    exact Comparison.passes_iff_not_misread hkind ht
  have hid := shownId?_displayRow hnext.wellFormed hrow
  exact ⟨t, {
    read := ht
    stored := ⟨row, hrow, rfl, hcell⟩
    found := by rw [hid, hfinds, hpasses]
    lost := fun hmisread => by
      rw [hid]
      exact hlost fun h => hpasses.1 h hmisread }⟩

/-! ## Events -/

/-- A payload for an event that starts at a time. -/
def eventStarting (start : String) : List (String × Value) := [
  ("title", .text "T"), ("slug", .text "t"), ("description", .text "D"),
  ("start_date", .text start)]

/-- The column of the times. -/
def startDate : Column := { name := "start_date", kind := .moment false }

theorem startDate_mem : startDate ∈ Collection.events.columns := by
  simp [Collection.columns, Collection.ownColumns, startDate]

/-- A first event is created that starts at a time. -/
def firstEvent (start : String) : Store × Outcome Value :=
  create .empty (.nth 1) "events" (.object (eventStarting start))

/-- An event whose time is given without an offset is found. -/
theorem new_row_found_by_date_event :
    let start := "2026-01-01T10:00:00"
    ∃ answer, Reachable .empty ∧ ({} : Settings).Usable ∧
      Collection.resolve "events" = .ok .events ∧ startDate ∈ Collection.events.columns ∧
      Value.member? (eventStarting start) startDate.name = some (.text start) ∧
      (firstEvent start).2.result = .ok answer ∧
      Number.isWord ((firstEvent start).1.rows .events).length = true ∧
      Finds {} (firstEvent start).1 "events" startDate .eq (.text start)
        (RowGraph.shownId? answer) := by
  intro start
  have hok : (firstEvent start).2.result.isOk = true := by decide +kernel
  obtain ⟨answer, hanswer⟩ := exists_eq_ok_of_isOk hok
  have hname : Collection.resolve "events" = .ok .events := by rfl
  have hmember : Value.member? (eventStarting start) startDate.name = some (.text start) := by rfl
  have hsize : Number.isWord ((firstEvent start).1.rows .events).length = true := by decide +kernel
  unfold firstEvent at hanswer hsize ⊢
  obtain ⟨t, ht⟩ := new_row_found_by_date (.empty _) Settings.usable_default hname startDate_mem rfl
    hmember hanswer hsize
  refine ⟨answer, .empty _, Settings.usable_default, hname, startDate_mem, hmember, hanswer, hsize,
    ht.found.2 fun hmisread => ?_⟩
  have hread := ht.read
  cases hmisread with
  | offset naive whole given ahead =>
      have hnone : (Timestamp.ofIso? (Coercion.zuluAsOffset (strip start))).bind (·.offset) =
          none := by decide +kernel
      rw [hread, Option.bind_some, given] at hnone
      cases hnone
  | form ten other => exact absurd ten.1 (by decide +kernel)
  | lastDay alone last => exact absurd alone (by decide +kernel)

/-- An event whose time is given with an offset is not on the page. -/
theorem new_row_lost_by_offset :
    let start := "2026-01-01T10:00:00+02:00"
    let page := listComparing {} (firstEvent start).1 "events" startDate .eq (.text start) 1
    Reachable .empty ∧ (firstEvent start).2.result.isOk = true ∧
      (page.toOption.map fun p => (p.data.length, p.info.totalItems)) = some (0, 0) := by
  intro start page
  exact ⟨.empty _, by decide +kernel, by decide +kernel⟩

end Service

end CollectionQuery
