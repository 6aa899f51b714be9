import CollectionQuery.Proofs.QueryCall
import CollectionQuery.Proofs.Service.Frame
import CollectionQuery.Proofs.Service.HiddenFields
import CollectionQuery.Proofs.Store.Removal

/-!
# Rows that are deleted

Deleting a row takes just this row out of its collection.  The resources of a deleted category lose
it and nothing else; the author of a blog is not deleted, and then nothing changes at all.  Nor is a
row that cannot be read back.

A row that was deleted cannot be read, updated or deleted any more, in no spelling of its identifier
and however long ago that was, unless its identifier is given out again.
-/

namespace CollectionQuery

open CollectionPlan

variable {s next : Store} {c : Collection} {occasion : Occasion} {row : Row} {name : String}
  {id : Value} {key : Uuid}

/-! ## Reading by identifier -/

/-- The call that reads the row of an identifier, with the relations of some paths. -/
def rowCall (c : Collection) (key : Uuid) (paths : List (List Relation)) : CollectionPlan := {
  collection := c
  condition := some (.test "id" (.relates (· == .eq) (.single .uuid (.uuid key))))
  order := [⟨[], "created_at", .descending⟩]
  columns := c.columns.map (·.name)
  paths
  skip := 0
  take := 1 }

/-- The plan that reads one row misfits its collection only by its relations. -/
theorem ofPlan_rowPlan (c : Collection) (key : Uuid) (relations : List String) :
    ofPlan .staff c (Service.rowPlan c key relations) =
      (relations.mapM fun path => pathRelations .staff path c (FieldPath.names path)).map
        (rowCall c key) := by
  have hcondition : (Service.rowPlan c key relations).predicate.clause .staff c =
      .ok (rowCall c key []).condition := by
    have hcolumn : c.visibleColumn? "id" = some ⟨"id", .uuid, false, false, .freshId⟩ := by
      cases c <;> rfl
    have hpath : FieldPath.names "id" = ["id"] := by decide
    exact (Predicate.clause_leaf hpath hcolumn).trans rfl
  have horder : (if (Service.rowPlan c key relations).order.isEmpty then
      Collection.defaultOrder c.columns else (Service.rowPlan c key relations).order).mapM
        (SortColumn.ofKey .staff c) = .ok (rowCall c key []).order := by
    cases c <;> rfl
  rw [ofPlan, hcondition]
  dsimp only [bind, Except.bind]
  rw [horder]
  dsimp only [Service.rowPlan]
  cases relations.mapM fun path => pathRelations .staff path c (FieldPath.names path) <;> rfl

/-- The cell of an identifier is the one of another exactly if they are the same. -/
theorem holds_relates_ofUuid {id : Uuid} (hid : id.isLegible = true) (key : Uuid) :
    ((CellTest.relates (· == .eq) (Cell.ofUuid key)).truth (.uuid id)).holds =
      decide (id = key) := by
  rcases Cell.ofUuid_cases key with ⟨-, hkey⟩ | ⟨hnot, hkey⟩
  · by_cases h : id = key
    · subst h
      simp [hkey, CellTest.truth, Cell.relate, Cell.isNull, Cell.compare, Truth.ofBool, Truth.holds]
    · have hne : id.value ≠ key.value := fun heq => h (Uuid.value_injective heq)
      simp [hkey, CellTest.truth, Cell.relate, Cell.isNull, Cell.compare, Truth.ofBool,
        Truth.holds, h, hne]
  · -- A number is in front of every identifier.
    have hne : id ≠ key := by
      rintro rfl
      rw [hid] at hnot
      cases hnot
    rcases hkey with ⟨n, hkey⟩ | ⟨x, hkey⟩ <;>
      simp [hkey, CellTest.truth, Cell.relate, Cell.isNull, Cell.compare, Cell.number?, Cell.rank,
        Truth.ofBool, Truth.holds, hne]

/-- The rows that the call reads are those of the identifier. -/
theorem selected_rowCall (hs : s.WellFormed) (hpresent : s.present = true) (key : Uuid)
    (paths : List (List Relation)) (task : Engine.Task) :
    (rowCall c key paths).selected s .staff task =
      .ok ((s.rows c).filter fun row => decide (row.id = key)) := by
  rw [selected_of_test hpresent rfl (u := .relates (· == .eq) (.ofUuid key)) rfl rfl]
  refine congrArg Except.ok (List.filter_congr fun row hrow => ?_)
  rw [hs.id_cell c row hrow, holds_relates_ofUuid (hs.legible hrow)]

/-- Without a row of the identifier nothing is read. -/
theorem execute_rowPlan_absent (hs : s.WellFormed) (hpresent : s.present = true)
    (habsent : s.Lacks c key) (relations : List String) :
    (execute s .staff c (Service.rowPlan c key relations) false false).result =
      (relations.mapM fun path => pathRelations .staff path c (FieldPath.names path)).map
        fun _ => ([], 0) := by
  have hread := ofPlan_rowPlan c key relations
  cases hpaths : relations.mapM fun path => pathRelations .staff path c (FieldPath.names path) with
  | error f =>
      rw [hpaths] at hread
      rw [execute_of_misfit hread]
      rfl
  | ok paths =>
      rw [hpaths] at hread
      have hnone : (s.rows c).filter (fun row => decide (row.id = key)) = [] :=
        List.filter_eq_nil_iff.2 fun row hrow => by simpa using habsent row hrow
      have hselected (task : Engine.Task) :
          (rowCall c key paths).selected s .staff task = .ok [] :=
        (selected_rowCall hs hpresent key paths task).trans (congrArg Except.ok hnone)
      have honpage : (rowCall c key paths).onPage s .staff [] = [] := by
        simp [onPage, sortRows, window]
      have hruns : (rowCall c key paths).Runs s .staff [] := {
        counted := hselected _
        numbered := rfl
        selected := hselected _
        read := by rw [honpage]; rfl }
      rw [execute_of_ofPlan hread]
      exact run_eq_ok.2 ⟨[], hruns, by rw [pageRows, honpage]; rfl, rfl⟩

namespace Service

/-- The relations that a request for one row asks for. -/
def readRelations (c : Collection) (q : QueryParams) : Except Failure (List (List Relation)) := do
  let relations ← (RelationPath.requested q.relations q.loadAll
    (some (Audience.staff.relationNames c))).result
  relations.mapM fun path => pathRelations .staff path c (FieldPath.names path)

/-- Reading a row that is not there finds none, if the relations to show can be read. -/
theorem get_absent (hs : s.WellFormed) (hpresent : s.present = true)
    (hname : Collection.resolve name = .ok c) (hid : Payload.rowId id = .ok key)
    (habsent : s.Lacks c key) (q : QueryParams) :
    (get s name id q).result = readRelations c q >>= fun _ => .error (.refused .noRow) := by
  have hget : get s name id q = (do
      let relations ← RelationPath.requested q.relations q.loadAll
        (some (Audience.staff.relationNames c))
      firstOf (shown (execute s .staff c (rowPlan c key relations) false false))) := by
    rw [get_eq, hname, hid]
    exact (Outcome.ok_bind c _).trans (Outcome.ok_bind key _)
  rw [hget, Outcome.result_bind, readRelations]
  cases (RelationPath.requested q.relations q.loadAll
    (some (Audience.staff.relationNames c))).result with
  | error f => rfl
  | ok relations =>
      have hrows := execute_rowPlan_absent hs hpresent habsent relations
      simp only [Except.bind, bind, firstOf, shown, hrows]
      cases relations.mapM fun path => pathRelations .staff path c (FieldPath.names path) <;> rfl

/-! ## Requests for a row that is not there -/

/-- A request that is refused with a status and changes nothing. -/
def Refuses (s : Store) (answer : Store × Outcome Value) (cause : Refusal) (status : Nat) : Prop :=
  answer = (s, .fail (.refused cause)) ∧ cause.status = status

theorem loadRow_absent (hpresent : s.present = true) (hid : Payload.rowId id = .ok key)
    (habsent : s.Lacks c key) :
    loadRow s c id = .error (.refused .noRow) := by
  have hfind : s.find? c key = none := List.find?_eq_none.2 fun row hrow => by
    simpa using habsent row hrow
  rw [loadRow, hid, Store.checkTables, hpresent]
  simp only [bind, Except.bind, if_true, hfind]
  rfl

theorem addresses_of_mem (hs : s.WellFormed) (hrow : row ∈ s.rows c)
    (hid : Payload.rowId id = .ok row.id) : Addresses s c id row := by
  obtain ⟨found, hfound⟩ : ∃ found, s.find? c row.id = some found :=
    Option.isSome_iff_exists.1 (List.find?_isSome.2 ⟨row, hrow, by simp⟩)
  have hfoundid : found.id = row.id := by simpa using List.find?_some hfound
  obtain rfl := hs.eq_of_id_eq (List.mem_of_find?_eq_some hfound) hrow hfoundid
  exact ⟨_, hid, hfound⟩

/-- No request finds a row of an identifier, in whatever spelling. -/
structure Gone (s : Store) (c : Collection) (key : Uuid) : Prop where
  /-- Reading fails, unless for the relations to show. -/
  get : ∀ name id q, Collection.resolve name = .ok c → Payload.rowId id = .ok key →
    (get s name id q).result = readRelations c q >>= fun _ => .error (.refused .noRow)
  update : ∀ occasion name id payload, Collection.resolve name = .ok c →
    Payload.rowId id = .ok key → Refuses s (update s occasion name id payload) .noRow 404
  delete : ∀ occasion name id, Collection.resolve name = .ok c → Payload.rowId id = .ok key →
    Refuses s (delete s occasion name id) .noRow 404

theorem gone_of_absent (hs : s.WellFormed) (hpresent : s.present = true)
    (habsent : s.Lacks c key) : Gone s c key where
  get _ _ q hname hid := get_absent hs hpresent hname hid habsent q
  update _ _ _ _ hname hid := by
    rw [Service.update, hname]
    simp only [bind, Except.bind, loadRow_absent hpresent hid habsent]
    exact ⟨rfl, rfl⟩
  delete _ _ _ hname hid := by
    rw [Service.delete, hname]
    simp only [bind, Except.bind, loadRow_absent hpresent hid habsent]
    exact ⟨rfl, rfl⟩

/-- An identifier that no row has is had by none later on, unless it is given out again. -/
theorem absent_runAll (h : Reachable s) (habsent : s.Lacks c key)
    (steps : List (Occasion × Write)) (hfresh : ¬ GivenOutAgain s steps c key) :
    (runAll s steps).Lacks c key := by
  induction steps using List.reverseRecOn with
  | nil => exact habsent
  | append_singleton steps step ih =>
      intro row hrow hid
      rw [runAll_append_singleton] at hrow
      rcases (ran_run _ step.1 step.2).origin (h.runAll steps).wellFormed hrow with
        ⟨x, hx, horigin⟩ | ⟨hnew, hnone⟩
      · refine ih ?_ x hx (horigin.id.symm.trans hid)
        rintro ⟨before, step', after, rfl, hagain⟩
        exact hfresh ⟨before, step', after ++ [step], by simp, hagain⟩
      · exact hfresh ⟨steps, step, [], rfl, hnew.symm.trans hid, hid ▸ hnone⟩

/-! ## Deleting -/

section

variable (hs : s.WellFormed) (hpresent : s.present = true) (hname : Collection.resolve name = .ok c)
  (hrow : row ∈ s.rows c) (hid : Payload.rowId id = .ok row.id)
include hs hpresent hname hrow hid

theorem delete_of_held (hlegible : row.Legible c) (hheld : s.Held c row.id) :
    Refuses s (delete s occasion name id) .referenced 400 := by
  have hload := (loadRow_iff hpresent).2 ⟨addresses_of_mem hs hrow hid, hlegible⟩
  rw [delete, hname]
  simp only [bind, Except.bind, hload, Store.removeRow_of_held hheld]
  exact ⟨rfl, rfl⟩

theorem delete_of_not_held (hlegible : row.Legible c) (hfree : ¬ s.Held c row.id)
    (occasion : Occasion) : ∃ next, Store.Removed occasion c row.id s next ∧
      delete s occasion name id = (next, ⟨[.deleted c.name row.id.text],
        .ok (.object [("status", .text "deleted"), ("id", .text row.id.text)])⟩) := by
  have hload := (loadRow_iff hpresent).2 ⟨addresses_of_mem hs hrow hid, hlegible⟩
  obtain ⟨next, hremove, hremoved⟩ := Store.removed_of_not_held occasion hfree
  refine ⟨next, hremoved, ?_⟩
  rw [delete, hname]
  simp only [bind, Except.bind, hload, hremove]
  rfl

/-- A row that cannot be read back is not removed either. -/
theorem delete_of_illegible (hnot : ¬ row.Legible c) (occasion : Occasion) :
    ∃ real, delete s occasion name id = (s, .fail (.fault (.misread real))) := by
  obtain ⟨real, hread⟩ := Row.checkRead_misread hnot
  refine ⟨real, ?_⟩
  rw [delete, hname]
  simp only [bind, Except.bind, loadRow_of_addresses hpresent (addresses_of_mem hs hrow hid), hread]
  rfl

end

/-- A store without a row: apart from this, only resources of a deleted category differ. -/
structure Without (c : Collection) (row : Row) (s next : Store) : Prop where
  /-- Just this row is gone from its collection. -/
  row_gone : ∃ before after, s.rows c = before ++ row :: after ∧ next.rows c = before ++ after
  /-- The resources of a deleted category lose it, and all other resources stay as they are. -/
  resources : c = .categories →
    List.Forall₂ (fun x y => (x.cell "category_id" = .uuid row.id → x.Lost "category_id" y) ∧
      (x.cell "category_id" ≠ .uuid row.id → y = x)) (s.rows .resources) (next.rows .resources)
  /-- Nothing else differs. -/
  others : ∀ e, e ≠ c → (c = .categories → e ≠ .resources) → next.rows e = s.rows e
  present : next.present = s.present

/-- Taking the identifier of a row out of its collection takes out this row. -/
theorem filter_id_ne {before after : List Row}
    (h : ((before ++ row :: after).map Row.id).Nodup) :
    (before ++ row :: after).filter (fun x => x.id != row.id) = before ++ after := by
  rw [List.map_append, List.map_cons, List.nodup_middle, List.nodup_cons, ← List.map_append,
    List.mem_map] at h
  have hne : ∀ x ∈ before ++ after, (x.id != row.id) = true := by
    intro x hx
    exact bne_iff_ne.2 fun hid => h.1 ⟨x, hx, hid⟩
  rw [List.filter_append, List.filter_cons_of_neg (by simp), ← List.filter_append]
  exact List.filter_eq_self.2 hne

/-- No row points to a row that is not held but the resources of a category. -/
theorem rows_of_removed (hfree : ¬ s.Held c row.id) (h : Store.Removed occasion c row.id s next)
    {e : Collection} (hne : e ≠ c) (hresources : c = .categories → e ≠ .resources) :
    next.rows e = s.rows e := by
  by_cases hpointing : ∃ r ∈ c.relations, r.many = true ∧ r.target = e
  · obtain ⟨r, hr, hmany, rfl⟩ := hpointing
    have hrequired : ((r.target.column? r.key).map (·.nullable)).getD false = false := by
      cases c <;> simp [Collection.relations] at hr <;> subst hr <;> simp at hmany hresources
      decide
    rw [h.pointing r hr hmany]
    refine (List.map_congr_left fun x hx => ?_).trans (List.map_id _)
    exact Store.released_of_ne (fun hpoints => hfree ⟨r, hr, hmany, hrequired, x, hx, hpoints⟩) _
  · exact h.others e hne fun r hr hmany htarget => hpointing ⟨r, hr, hmany, htarget⟩

theorem without_of_removed (hs : s.WellFormed) (hrow : row ∈ s.rows c)
    (hfree : ¬ s.Held c row.id) (h : Store.Removed occasion c row.id s next) :
    Without c row s next where
  row_gone := by
    obtain ⟨before, after, hrows⟩ := List.append_of_mem hrow
    have hnodup := hs.ids_nodup c
    rw [hrows] at hnodup
    exact ⟨before, after, hrows, by rw [h.rows, hrows, filter_id_ne hnodup]⟩
  resources := by
    rintro rfl
    have hcategory : (⟨"resources", .resources, true, "category_id"⟩ : Relation) ∈
        Collection.categories.relations := by simp [Collection.relations]
    rw [h.pointing _ hcategory rfl, List.forall₂_map_right_iff]
    refine List.forall₂_same.2 fun x _ => ⟨fun hpoints => ?_, fun hpoints => ?_⟩
    · exact Store.lost_released hpoints (Collection.key_ne_updated hcategory) occasion
    · exact Store.released_of_ne hpoints occasion
  others _ hne hresources := rows_of_removed hfree h hne hresources
  present := h.present

/-! ## All deletions -/

/-- What deletions do, and what is left of the rows that were deleted. -/
structure DeletesExactly (s : Store) : Prop where
  /-- The author of a blog stays, and everything else too. -/
  author : ∀ occasion name id, Collection.resolve name = .ok .users →
    ∀ user ∈ s.rows .users, Payload.rowId id = .ok user.id →
      (∃ blog ∈ s.rows .blogs, blog.cell "author_id" = .uuid user.id) →
      Refuses s (delete s occasion name id) .referenced 400
  /-- Every other row goes, for as long as its identifier is not given out again. -/
  other : ∀ occasion name id c, Collection.resolve name = .ok c →
    ∀ row ∈ s.rows c, Payload.rowId id = .ok row.id → row.Legible c →
      (c = .users → ∀ blog ∈ s.rows .blogs, blog.cell "author_id" ≠ .uuid row.id) →
      ∃ next, delete s occasion name id = (next, ⟨[.deleted c.name row.id.text],
          .ok (.object [("status", .text "deleted"), ("id", .text row.id.text)])⟩) ∧
        Without c row s next ∧
        ∀ steps, ¬ GivenOutAgain next steps c row.id → Gone (runAll next steps) c row.id
  /-- A blog or resource that cannot be read back stays, and everything else too. -/
  unread : ∀ occasion name id c, Collection.resolve name = .ok c →
    ∀ row ∈ s.rows c, Payload.rowId id = .ok row.id → ¬ row.Legible c →
      (c = .blogs ∨ c = .resources) ∧
        ∃ real, delete s occasion name id = (s, .fail (.fault (.misread real)))

/-- In every store that the service comes to, a row is deleted with nothing but its identifier in
other rows, or is not deleted at all. -/
theorem deletions_exact (h : Reachable s) : DeletesExactly s where
  author occasion name id hname user huser hid hblog := by
    have hlegible : user.Legible .users := h.wellFormed.legible_row huser fun _ hcolumn hkind =>
      Collection.name_of_uuid (by decide) (by decide) hcolumn hkind
    exact delete_of_held h.wellFormed h.present hname huser hid hlegible
      (Store.held_iff.2 ⟨rfl, hblog⟩)
  other occasion name id c hname row hrow hid hlegible hnone := by
    have hfree : ¬ s.Held c row.id := by
      intro hheld
      obtain ⟨rfl, blog, hblog, hauthor⟩ := Store.held_iff.1 hheld
      exact hnone rfl blog hblog hauthor
    obtain ⟨next, hremoved, hdelete⟩ :=
      delete_of_not_held h.wellFormed h.present hname hrow hid hlegible hfree occasion
    have hnext : Reachable next := by
      have hrun : ((Write.delete name id).run s occasion).1 = next := by
        rw [Write.run, hdelete]
      exact hrun ▸ h.write occasion (.delete name id)
    refine ⟨next, hdelete, without_of_removed h.wellFormed hrow hfree hremoved, ?_⟩
    intro steps hfresh
    have habsent : next.Lacks c row.id := by
      intro x hx
      rw [hremoved.rows] at hx
      exact bne_iff_ne.1 (List.mem_filter.1 hx).2
    have hlater := hnext.runAll steps
    exact gone_of_absent hlater.wellFormed hlater.present (absent_runAll hnext habsent steps hfresh)
  unread occasion name id c hname row hrow hid hnot := by
    refine ⟨?_, delete_of_illegible h.wellFormed h.present hname hrow hid hnot occasion⟩
    by_contra hother
    rw [not_or] at hother
    exact hnot (h.wellFormed.legible_row hrow fun _ hcolumn hkind =>
      Collection.name_of_uuid hother.1 hother.2 hcolumn hkind)

/-- A user with a blog and a category with a resource. -/
theorem deletions_exact_author_and_category :
    let s := runAll .empty [
      (.nth 1, .create "users" (.object [
        ("email", .text "ada@x.org"), ("password", .text "secret")])),
      (.nth 2, .create "blogs" (.object [
        ("title", .text "Engines"), ("content", .text "Notes"), ("slug", .text "engines"),
        ("author_id", .uuid (.drawn 1))])),
      (.nth 3, .create "categories" (.object [
        ("name", .text "Guides"), ("slug", .text "guides")])),
      (.nth 4, .create "resources" (.object [
        ("title", .text "Manual"), ("slug", .text "manual"), ("description", .text "All of it"),
        ("type", .text "pdf"), ("file_url", .text "/manual.pdf"),
        ("category_id", .uuid (.drawn 3))]))]
    (s.rows .users).map Row.id = [.drawn 1] ∧
      (s.rows .blogs).map (fun row => row.cell "author_id") = [.uuid (.drawn 1)] ∧
      (s.rows .categories).map Row.id = [.drawn 3] ∧
      (s.rows .resources).map (fun row => row.cell "category_id") = [.uuid (.drawn 3)] ∧
      Reachable s ∧ DeletesExactly s := by
  intro s
  have hs : Reachable s := (Reachable.empty _).runAll _
  exact ⟨by decide +kernel, by decide +kernel, by decide +kernel, by decide +kernel, hs,
    deletions_exact hs⟩

/-- A store with a blog by an author whose identifier has no letter. -/
def oneBlogByDigits : Store := (create .empty (.nth 1) "blogs" blogByDigits).1

/-- The blog cannot be deleted, although there are no users whose it could be. -/
theorem delete_blog_by_digits :
    let deleted := delete oneBlogByDigits (.nth 2) "blogs" (.uuid (.drawn 1))
    Reachable oneBlogByDigits ∧ oneBlogByDigits.rows .users = [] ∧
      (oneBlogByDigits.rows .blogs).map Row.id = [.drawn 1] ∧
      deleted.2.result = .error (.fault (.misread false)) ∧
      (deleted.1.rows .blogs).map Row.id = [.drawn 1] := by
  intro deleted
  have hs : Reachable oneBlogByDigits := .write (.empty _) (.nth 1) (.create "blogs" blogByDigits)
  exact ⟨hs, rfl, by decide +kernel, by rfl, by decide +kernel⟩

end Service

end CollectionQuery
