import CollectionQuery.Proofs.Service.Reachable
import CollectionQuery.Proofs.Store.Frame
import CollectionQuery.Proofs.Store.Reading
import Mathlib.Data.List.Induction

/-!
# What a change of the store leaves alone

A change that fails leaves the store as it was, unless it wrote a row that cannot be read back.  One
that creates a row adds just this row, under an identifier that no row of the collection has.  One
that updates a row makes another of just this row, and only the columns of the draft and the time of
the change differ.

Over a run of changes a row keeps its identifier and the time of its creation.  A row with the
identifier of an earlier one is that row, unless it was removed and the identifier given out again.
-/

namespace CollectionQuery

namespace Service

variable {s next : Store} {c : Collection} {occasion : Occasion} {name : String}
  {id payload : Value}

/-! ## One change -/

section

variable {α : Type} {result : Except Failure (Store × α)} {reread : α → Except Failure Unit}
  {entry : α → LogEntry} {answer : α → Value}

/-- A change ends as its statement does, and then as reading back what it wrote does. -/
theorem result_change : (change s result reread entry answer).2.result = (do
    let r ← result
    reread r.2
    pure (answer r.2)) := by
  cases result with
  | error f => rfl
  | ok r =>
      cases hread : reread r.2 <;>
        simp [change, Store.transact, bind, Outcome.bind, Outcome.ofExcept, hread, Except.bind,
          Outcome.record, pure, Except.pure, Outcome.ok]

/-- A change fails before it writes, or after what it wrote could not be read back. -/
theorem change_eq_error {f : Failure}
    (h : (change s result reread entry answer).2.result = .error f) :
    (change s result reread entry answer).1 = s ∨
      ∃ next a, result = .ok (next, a) ∧ (change s result reread entry answer).1 = next ∧
        reread a = .error f := by
  cases result with
  | error _ => exact Or.inl rfl
  | ok r =>
      refine Or.inr ⟨r.1, r.2, rfl, rfl, ?_⟩
      rw [result_change] at h
      cases hread : reread r.2 with
      | error f' => simpa [hread, bind, Except.bind] using h
      | ok _ => simp [hread, bind, Except.bind, pure, Except.pure] at h

theorem change_eq_ok {v : Value}
    (h : (change s result reread entry answer).2.result = .ok v) :
    ∃ next a, result = .ok (next, a) ∧ (change s result reread entry answer).1 = next ∧
      reread a = .ok () ∧ v = answer a := by
  cases result with
  | error _ => cases h
  | ok r =>
      rw [result_change] at h
      obtain ⟨_, hr, h⟩ := bind_eq_ok.1 h
      obtain rfl := Except.ok.inj hr
      obtain ⟨_, hread, h⟩ := bind_eq_ok.1 h
      exact ⟨r.1, r.2, rfl, rfl, hread, (pure_eq_ok.1 h).symm⟩

end

/-- The row that a request names is a row of its identifier. -/
theorem loadRow_id {row : Row} (h : loadRow s c id = .ok row) : Payload.rowId id = .ok row.id := by
  obtain ⟨key, hkey, h⟩ := bind_eq_ok.1 h
  obtain ⟨_, -, h⟩ := bind_eq_ok.1 h
  split at h
  · next hfind =>
      obtain ⟨_, -, h⟩ := bind_eq_ok.1 h
      cases h
      have hid : row.id = key := by simpa using List.find?_some hfind
      rw [hkey, hid]
  · cases h

/-- A request addresses a row of a collection. -/
def Addresses (s : Store) (c : Collection) (id : Value) (row : Row) : Prop :=
  ∃ key, Payload.rowId id = .ok key ∧ s.find? c key = some row

theorem Addresses.mem {row : Row} (h : Addresses s c id row) : row ∈ s.rows c :=
  let ⟨_, _, hfind⟩ := h
  List.mem_of_find?_eq_some hfind

theorem loadRow_of_addresses (hs : s.present = true) {row : Row} (h : Addresses s c id row) :
    loadRow s c id = (row.checkRead c).map fun _ => row := by
  obtain ⟨key, hkey, hfind⟩ := h
  rw [loadRow, hkey, Store.checkTables, if_pos hs]
  simp only [bind, Except.bind, hfind]
  cases row.checkRead c <;> rfl

/-- A row is loaded if it can be read back. -/
theorem loadRow_iff (hs : s.present = true) {row : Row} :
    loadRow s c id = .ok row ↔ Addresses s c id row ∧ row.Legible c := by
  constructor
  · intro h
    have hread := (loadRow_eq_ok h).2
    obtain ⟨key, hkey, h⟩ := bind_eq_ok.1 h
    obtain ⟨_, -, h⟩ := bind_eq_ok.1 h
    split at h
    · next hfind =>
        obtain ⟨_, -, h⟩ := bind_eq_ok.1 h
        cases h
        exact ⟨⟨key, hkey, hfind⟩, Row.checkRead_eq_ok.1 hread⟩
    · cases h
  · rintro ⟨haddresses, hlegible⟩
    rw [loadRow_of_addresses hs haddresses, Row.checkRead_eq_ok.2 hlegible]
    rfl

/-- A creation ends as the first of its steps that fails. -/
theorem result_create : (create s occasion name payload).2.result = (do
    let c ← Collection.resolve name
    let d ← Draft.ofPayload s c false payload
    let r ← s.addRow occasion c d
    r.2.checkRead c
    pure (displayRow c r.2)) := by
  rw [create]
  dsimp only
  rw [result_change]
  simp only [bind_assoc, pure_bind]

/-- An update ends as the first of its steps that fails. -/
theorem result_update : (update s occasion name id payload).2.result = (do
    let c ← Collection.resolve name
    let row ← loadRow s c id
    let d ← Draft.ofPayload s c true payload
    let r ← s.changeRow occasion c d row
    r.2.checkRead c
    pure (displayRow c r.2)) := by
  rw [update]
  dsimp only
  rw [result_change]
  simp only [bind_assoc, pure_bind]

/-- A row that is created is the one that its draft adds. -/
theorem create_eq_ok {v : Value} (h : (create s occasion name payload).2.result = .ok v) :
    ∃ c d row, Collection.resolve name = .ok c ∧ Draft.ofPayload s c false payload = .ok d ∧
      s.addRow occasion c d = .ok ((create s occasion name payload).1, row) ∧
      row.checkRead c = .ok () ∧ v = displayRow c row := by
  obtain ⟨result, hcreate, hadds⟩ := create_eq_change s occasion name payload
  rw [hcreate] at h ⊢
  obtain ⟨next, ⟨c, row⟩, hresult, hnext, hread, hv⟩ := change_eq_ok h
  obtain ⟨d, hc, hdraft, hadd⟩ := hadds next c row hresult
  rw [hnext]
  exact ⟨c, d, row, hc, hdraft, hadd, hread, hv⟩

/-- A creation that fails leaves the store alone or adds a row that cannot be read back. -/
theorem create_eq_error {f : Failure}
    (h : (create s occasion name payload).2.result = .error f) :
    (create s occasion name payload).1 = s ∨
      ∃ c d row, Collection.resolve name = .ok c ∧ Draft.ofPayload s c false payload = .ok d ∧
        s.addRow occasion c d = .ok ((create s occasion name payload).1, row) ∧
        row.checkRead c = .error f := by
  obtain ⟨result, hcreate, hadds⟩ := create_eq_change s occasion name payload
  rw [hcreate] at h ⊢
  refine (change_eq_error h).imp_right ?_
  rintro ⟨next, ⟨c, row⟩, hresult, hnext, hread⟩
  obtain ⟨d, hc, hdraft, hadd⟩ := hadds next c row hresult
  rw [hnext]
  exact ⟨c, d, row, hc, hdraft, hadd, hread⟩

/-- A row that is created is added and shown. -/
theorem create_shows {v : Value} (h : (create s occasion name payload).2.result = .ok v) :
    ∃ c d row, Collection.resolve name = .ok c ∧ Draft.ofPayload s c false payload = .ok d ∧
      ¬ d.Misnames c ∧ Store.Added occasion c row s (create s occasion name payload).1 ∧
      row.Legible c ∧ v = displayRow c row := by
  obtain ⟨c, d, row, hc, hdraft, hadd, hread, hv⟩ := create_eq_ok h
  have hlegible := Row.checkRead_eq_ok.1 hread
  exact ⟨c, d, row, hc, hdraft, (Store.legible_addRow hadd).1 hlegible, Store.added_addRow hadd,
    hlegible, hv⟩

/-- A row that is updated is changed by its draft. -/
theorem update_eq_ok {v : Value} (h : (update s occasion name id payload).2.result = .ok v) :
    ∃ c d row changed, Collection.resolve name = .ok c ∧ loadRow s c id = .ok row ∧
      Draft.ofPayload s c true payload = .ok d ∧
      s.changeRow occasion c d row = .ok ((update s occasion name id payload).1, changed) ∧
      changed.checkRead c = .ok () ∧ v = displayRow c changed := by
  obtain ⟨result, hupdate, hchanges⟩ := update_eq_change s occasion name id payload
  rw [hupdate] at h ⊢
  obtain ⟨next, ⟨c, d, changed⟩, hresult, hnext, hread, hv⟩ := change_eq_ok h
  obtain ⟨row, hc, hrow, hdraft, hchange⟩ := hchanges next c d changed hresult
  rw [hnext]
  exact ⟨c, d, row, changed, hc, hrow, hdraft, hchange, hread, hv⟩

/-- An update that fails leaves the store alone or makes a row one that cannot be read back. -/
theorem update_eq_error {f : Failure}
    (h : (update s occasion name id payload).2.result = .error f) :
    (update s occasion name id payload).1 = s ∨
      ∃ c d row changed, Collection.resolve name = .ok c ∧ loadRow s c id = .ok row ∧
        Draft.ofPayload s c true payload = .ok d ∧
        s.changeRow occasion c d row = .ok ((update s occasion name id payload).1, changed) ∧
        changed.checkRead c = .error f := by
  obtain ⟨result, hupdate, hchanges⟩ := update_eq_change s occasion name id payload
  rw [hupdate] at h ⊢
  refine (change_eq_error h).imp_right ?_
  rintro ⟨next, ⟨c, d, changed⟩, hresult, hnext, hread⟩
  obtain ⟨row, hc, hrow, hdraft, hchange⟩ := hchanges next c d changed hresult
  rw [hnext]
  exact ⟨c, d, row, changed, hc, hrow, hdraft, hchange, hread⟩

/-- A row that is updated changes by a draft and is shown. -/
theorem update_shows (hs : s.WellFormed) {v : Value}
    (h : (update s occasion name id payload).2.result = .ok v) :
    ∃ c d row changed, Collection.resolve name = .ok c ∧ Payload.rowId id = .ok row.id ∧
      Draft.ofPayload s c true payload = .ok d ∧ ¬ d.Misnames c ∧
      Store.Changed c d row changed s (update s occasion name id payload).1 ∧
      changed.Legible c ∧ v = displayRow c changed := by
  obtain ⟨c, d, row, changed, hc, hload, hdraft, hchange, hread, hv⟩ := update_eq_ok h
  obtain ⟨hrow, hbefore⟩ := loadRow_eq_ok hload
  have hlegible := Row.checkRead_eq_ok.1 hread
  have hnamed := Store.legible_changeRow (hs.typed c row hrow) (Row.checkRead_eq_ok.1 hbefore)
    hchange
  exact ⟨c, d, row, changed, hc, loadRow_id hload, hdraft, hnamed.1 hlegible,
    Store.changed_changeRow hs hrow hchange, hlegible, hv⟩

/-- A row that is removed is answered for by its identifier. -/
theorem delete_shows {v : Value} (h : (delete s occasion name id).2.result = .ok v) :
    ∃ row : Row, v = .object [("status", .text "deleted"), ("id", .text row.id.text)] := by
  rw [delete] at h
  obtain ⟨_, a, -, -, -, hv⟩ := change_eq_ok h
  exact ⟨a.2, hv⟩

/-- A removal that fails leaves the store alone: it writes nothing to read back. -/
theorem delete_fst_of_error {f : Failure} (h : (delete s occasion name id).2.result = .error f) :
    (delete s occasion name id).1 = s := by
  rw [delete] at h ⊢
  rcases change_eq_error h with hsame | ⟨_, _, -, -, hread⟩
  · exact hsame
  · cases hread

/-- No change takes the tables away. -/
theorem Ran.present (h : Ran s occasion next) (hs : s.WellFormed) :
    next.present = s.present := by
  cases h with
  | nothing => rfl
  | added _ hadd => exact (Store.added_addRow hadd).onlyIn.present
  | changed _ hrow hchange => exact (Store.changed_changeRow hs hrow hchange).onlyIn.present
  | removed hremove => exact Store.present_removeRow hremove

theorem Reachable.present (h : Reachable s) : s.present = true :=
  h.of_ran (P := fun s => s.present = true) (fun _ => rfl) fun hreached hs hran =>
    (hran.present hreached.wellFormed).trans hs

/-! ## A run of changes -/

/-- The store after changes, one after the other. -/
def runAll (s : Store) (steps : List (Occasion × Write)) : Store :=
  steps.foldl (fun s step => (step.2.run s step.1).1) s

theorem runAll_append_singleton (s : Store) (steps : List (Occasion × Write))
    (step : Occasion × Write) :
    runAll s (steps ++ [step]) = (step.2.run (runAll s steps) step.1).1 := by
  rw [runAll, List.foldl_append]
  rfl

theorem Reachable.runAll (h : Reachable s) (steps : List (Occasion × Write)) :
    Reachable (runAll s steps) := by
  induction steps using List.reverseRecOn with
  | nil => exact h
  | append_singleton steps step ih =>
      rw [runAll_append_singleton]
      exact ih.write step.1 step.2

/-- A row after a change was there before, or was added under an identifier that no row had. -/
theorem Ran.origin (h : Ran s occasion next) (hs : s.WellFormed) {y : Row}
    (hy : y ∈ next.rows c) :
    (∃ x ∈ s.rows c, x.SameOrigin y) ∨
      (y.id = occasion.freshId ∧ ∀ x ∈ s.rows c, x.id ≠ y.id) := by
  cases h with
  | nothing => exact Or.inl ⟨y, hy, .refl y⟩
  | added _ hadd => exact (Store.added_addRow hadd).origin hy
  | changed hdraft hrow hchange =>
      have hchanged := Store.changed_changeRow hs hrow hchange
      exact Or.inl (hchanged.stemsFrom (fun name => Draft.not_mem_names_of_system hdraft) c y hy)
  | removed hremove => exact Or.inl (Store.stemsFrom_removeRow hremove c y hy)

/-- The identifier of a row was given out again: no row had it any more at some step of a run, and
this step added one that does. -/
def GivenOutAgain (s : Store) (steps : List (Occasion × Write)) (c : Collection) (id : Uuid) :
    Prop :=
  ∃ before step after, steps = before ++ step :: after ∧ step.1.freshId = id ∧
    ∀ x ∈ (runAll s before).rows c, x.id ≠ id

/-- A row after a run is the one that had its identifier before, unless that was given out again. -/
theorem sameOrigin_runAll (h : Reachable s) {row : Row} (hrow : row ∈ s.rows c)
    (steps : List (Occasion × Write)) {later : Row} (hlater : later ∈ (runAll s steps).rows c)
    (hid : later.id = row.id) :
    row.SameOrigin later ∨ GivenOutAgain s steps c row.id := by
  induction steps using List.reverseRecOn generalizing later with
  | nil =>
      obtain rfl := h.wellFormed.eq_of_id_eq hlater hrow hid
      exact Or.inl (.refl later)
  | append_singleton steps step ih =>
      rw [runAll_append_singleton] at hlater
      rcases (ran_run _ step.1 step.2).origin (h.runAll steps).wellFormed hlater with
        ⟨x, hx, hstep⟩ | ⟨hfresh, hnone⟩
      · rcases ih hx (hstep.id.symm.trans hid) with horigin | ⟨before, step', after, rfl, hagain⟩
        · exact Or.inl (horigin.trans hstep)
        · exact Or.inr ⟨before, step', after ++ [step], by simp, hagain⟩
      · exact Or.inr ⟨steps, step, [], rfl, hfresh.symm.trans hid, hid ▸ hnone⟩

/-! ## All changes -/

/-- What the changes of a store do and leave alone. -/
structure Framed (s : Store) : Prop where
  /-- Creating fails and leaves the store as it was, or it adds a row that names another by an
  identifier that cannot be read back. -/
  create_error : ∀ occasion name payload f,
    (create s occasion name payload).2.result = .error f →
      (create s occasion name payload).1 = s ∨
        ∃ c d row, Collection.resolve name = .ok c ∧ Draft.ofPayload s c false payload = .ok d ∧
          d.Misnames c ∧ Store.Added occasion c row s (create s occasion name payload).1 ∧
          ∃ real, f = .fault (.misread real)
  /-- Updating fails and leaves the store as it was, or it changes a row so. -/
  update_error : ∀ occasion name id payload f,
    (update s occasion name id payload).2.result = .error f →
      (update s occasion name id payload).1 = s ∨
        ∃ c d row changed, Collection.resolve name = .ok c ∧ Payload.rowId id = .ok row.id ∧
          Draft.ofPayload s c true payload = .ok d ∧ d.Misnames c ∧
          Store.Changed c d row changed s (update s occasion name id payload).1 ∧
          ∃ real, f = .fault (.misread real)
  /-- Creating adds one row. -/
  create_ok : ∀ occasion name payload v, (create s occasion name payload).2.result = .ok v →
    ∃ c d row, Collection.resolve name = .ok c ∧ Draft.ofPayload s c false payload = .ok d ∧
      ¬ d.Misnames c ∧ Store.Added occasion c row s (create s occasion name payload).1
  /-- Updating changes one row, by the draft of its payload. -/
  update_ok : ∀ occasion name id payload v,
    (update s occasion name id payload).2.result = .ok v →
      ∃ c d row changed, Collection.resolve name = .ok c ∧ Payload.rowId id = .ok row.id ∧
        Draft.ofPayload s c true payload = .ok d ∧ ¬ d.Misnames c ∧
        Store.Changed c d row changed s (update s occasion name id payload).1
  /-- A row stays the same row over every run. -/
  history : ∀ steps c, ∀ row ∈ s.rows c, ∀ later ∈ (runAll s steps).rows c, later.id = row.id →
    row.SameOrigin later ∨ GivenOutAgain s steps c row.id

/-- The changes of every store that the service comes to touch nothing but what they are about, and
happen as a whole or not at all, unless they name a row by an identifier that cannot be read
back. -/
theorem changes_atomic_and_framed (h : Reachable s) : Framed s where
  create_error _ _ _ _ hfail := by
    refine (create_eq_error hfail).imp_right ?_
    rintro ⟨c, d, row, hc, hdraft, hadd, hread⟩
    obtain ⟨hnot, hfault⟩ := Row.checkRead_eq_error hread
    rw [Store.legible_addRow hadd, not_not] at hnot
    exact ⟨c, d, row, hc, hdraft, hnot, Store.added_addRow hadd, hfault⟩
  update_error _ _ _ _ _ hfail := by
    refine (update_eq_error hfail).imp_right ?_
    rintro ⟨c, d, row, changed, hc, hload, hdraft, hchange, hread⟩
    obtain ⟨hrow, hbefore⟩ := loadRow_eq_ok hload
    obtain ⟨hnot, hfault⟩ := Row.checkRead_eq_error hread
    rw [Store.legible_changeRow (h.wellFormed.typed c row hrow) (Row.checkRead_eq_ok.1 hbefore)
      hchange, not_not] at hnot
    exact ⟨c, d, row, changed, hc, loadRow_id hload, hdraft, hnot,
      Store.changed_changeRow h.wellFormed hrow hchange, hfault⟩
  create_ok _ _ _ _ hok := by
    obtain ⟨c, d, row, hc, hdraft, hnamed, hadded, -, -⟩ := create_shows hok
    exact ⟨c, d, row, hc, hdraft, hnamed, hadded⟩
  update_ok _ _ _ _ _ hok := by
    obtain ⟨c, d, row, changed, hc, hid, hdraft, hnamed, hchanged, -, -⟩ :=
      update_shows h.wellFormed hok
    exact ⟨c, d, row, changed, hc, hid, hdraft, hnamed, hchanged⟩
  history steps _ _ hrow _ hlater hid := sameOrigin_runAll h hrow steps hlater hid

/-- A category that the empty store has been given. -/
theorem changes_atomic_and_framed_one_category :
    let payload : Value := .object [("name", .text "Guides"), ("slug", .text "guides")]
    let s := ((Write.create "categories" payload).run .empty (.nth 1)).1
    (s.rows .categories).length = 1 ∧ Reachable s ∧ Framed s := by
  intro payload s
  have hs : Reachable s := .write (.empty _) _ _
  exact ⟨by rfl, hs, changes_atomic_and_framed hs⟩

/-- A blog by an author whose identifier has no letter. -/
def blogByDigits : Value := .object [("title", .text "T"), ("content", .text "C"),
  ("author_id", .text "00000000-0000-0000-0000-000000000001")]

/-- A blog is there although its creation failed: the identifier of its author has no letter, so it
is stored as a number. -/
theorem create_blog_by_digits :
    (create .empty (.nth 1) "blogs" blogByDigits).2.result = .error (.fault (.misread false)) ∧
      (create .empty (.nth 1) "blogs" blogByDigits).1 ≠ .empty := by
  refine ⟨by rfl, fun hsame => ?_⟩
  have hlength : ((create .empty (.nth 1) "blogs" blogByDigits).1.rows .blogs).length = 1 := by rfl
  rw [hsame] at hlength
  cases hlength

end Service

end CollectionQuery
