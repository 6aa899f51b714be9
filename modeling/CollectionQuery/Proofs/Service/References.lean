import CollectionQuery.Proofs.Service.Constraints
import CollectionQuery.Proofs.Service.Frame
import CollectionQuery.Proofs.Store.References

/-!
# References over a run of changes

A change *misdirects* a reference if its payload sets the key of a row to an identifier that no row
of the related collection has.  Such a change is not refused, and it is the only way to a reference
that dangles: the stores of a run of changes have none exactly if no change misdirects one.
-/

namespace CollectionQuery

namespace Service

variable {s next : Store} {c : Collection} {occasion : Occasion} {d : Draft} {row changed : Row}
  {r : Relation} {name : String} {id payload : Value} {w : Write} {start named : Uuid} {goal : Cell}

/-- The payload of a change that is written sets a key to an identifier that no row has. -/
inductive Misdirects (s : Store) (occasion : Occasion) (c : Collection) (r : Relation) :
    Write → Uuid → Uuid → Prop where
  /-- The key of a new row. -/
  | create {name : String} {payload : Value} {d : Draft} {next : Store} {row : Row} {named : Uuid}
      (resolved : Collection.resolve name = .ok c)
      (draft : Draft.ofPayload s c false payload = .ok d)
      (adds : s.addRow occasion c d = .ok (next, row)) (sets : d.Sets r.key named)
      (lacks : s.Lacks r.target named) :
      Misdirects s occasion c r (.create name payload) row.id named
  /-- The key of a row that is there. -/
  | update {name : String} {id payload : Value} {d : Draft} {next : Store} {row changed : Row}
      {named : Uuid} (resolved : Collection.resolve name = .ok c)
      (loaded : loadRow s c id = .ok row) (draft : Draft.ofPayload s c true payload = .ok d)
      (changes : s.changeRow occasion c d row = .ok (next, changed)) (sets : d.Sets r.key named)
      (lacks : s.Lacks r.target named) :
      Misdirects s occasion c r (.update name id payload) row.id named

/-! ## One change -/

theorem create_of_addRow (hname : Collection.resolve name = .ok c)
    (hdraft : Draft.ofPayload s c false payload = .ok d)
    (hadd : s.addRow occasion c d = .ok (next, row)) :
    (create s occasion name payload).1 = next := by
  rw [create, hname]
  simp only [bind, Except.bind, hdraft, hadd]
  rfl

theorem update_of_changeRow (hname : Collection.resolve name = .ok c)
    (hload : loadRow s c id = .ok row) (hdraft : Draft.ofPayload s c true payload = .ok d)
    (hchange : s.changeRow occasion c d row = .ok (next, changed)) :
    (update s occasion name id payload).1 = next := by
  rw [update, hname]
  simp only [bind, Except.bind, hload, hdraft, hchange]
  rfl

section

variable (hs : s.WellFormed) (hr : r ∈ c.relations) (hone : r.many = false)
include hs hr hone

/-- A reference that dangles after a change did before, or the change misdirects it. -/
theorem dangles_run (h : (w.run s occasion).1.Dangles c r start goal) :
    s.Dangles c r start goal ∨
      ∃ named, goal = .ofUuid named ∧ Misdirects s occasion c r w start named := by
  cases w with
  | create name payload =>
      rcases create_fst (Eq.refl (create s occasion name payload).1) with
        hsame | ⟨c', d, row, hname, hdraft, hadd⟩
      · rw [Write.run, hsame] at h
        exact Or.inl h
      · refine (Store.dangles_addRow hr hone hadd h).imp_right ?_
        rintro ⟨rfl, rfl, ⟨named, hsets, hgoal⟩, hmisses⟩
        rw [hgoal, Store.misses_ofUuid hs] at hmisses
        exact ⟨named, hgoal, .create hname hdraft hadd hsets hmisses⟩
  | update name id payload =>
      rcases update_fst (Eq.refl (update s occasion name id payload).1) with
        hsame | ⟨c', d, row, changed, hname, hload, hdraft, hchange⟩
      · rw [Write.run, hsame] at h
        exact Or.inl h
      · refine (Store.dangles_changeRow hs (loadRow_eq_ok hload).1 hchange hr hone h).imp_right ?_
        rintro ⟨rfl, rfl, ⟨named, hsets, hgoal⟩, hmisses⟩
        rw [hgoal, Store.misses_ofUuid hs] at hmisses
        exact ⟨named, hgoal, .update hname hload hdraft hchange hsets hmisses⟩
  | delete name id =>
      rcases delete_fst (Eq.refl (delete s occasion name id).1) with
        hsame | ⟨c', row, -, -, hremove⟩
      · rw [Write.run, hsame] at h
        exact Or.inl h
      · exact Or.inl ((Store.removed_removeRow hremove).dangles hr hone h)

/-- A reference that a change misdirects dangles. -/
theorem Misdirects.dangles (h : Misdirects s occasion c r w start named) :
    (w.run s occasion).1.Dangles c r start (.ofUuid named) := by
  cases h with
  | create hname hdraft hadd hsets hlacks =>
      rw [Write.run, create_of_addRow hname hdraft hadd]
      exact Store.dangles_of_addRow hr hone hadd hsets ((Store.misses_ofUuid hs).2 hlacks)
  | update hname hload hdraft hchange hsets hlacks =>
      rw [Write.run, update_of_changeRow hname hload hdraft hchange]
      exact Store.dangles_of_changeRow hs (loadRow_eq_ok hload).1 hchange hr hone hsets
        ((Store.misses_ofUuid hs).2 hlacks)

end

/-! ## A run of changes -/

/-- A reference that dangles after a run did before, or some change of the run misdirected it. -/
theorem exists_misdirects (h : Reachable s) (hr : r ∈ c.relations) (hone : r.many = false)
    (steps : List (Occasion × Write)) (hdangles : (runAll s steps).Dangles c r start goal) :
    s.Dangles c r start goal ∨ ∃ before step after named, steps = before ++ step :: after ∧
      goal = .ofUuid named ∧ Misdirects (runAll s before) step.1 c r step.2 start named := by
  induction steps using List.reverseRecOn with
  | nil => exact Or.inl hdangles
  | append_singleton steps step ih =>
      rw [runAll_append_singleton] at hdangles
      rcases dangles_run (h.runAll steps).wellFormed hr hone hdangles with
        hbefore | ⟨named, hgoal, hstep⟩
      · refine (ih hbefore).imp_right ?_
        rintro ⟨before, step', after, named, rfl, hgoal, hmisdirects⟩
        exact ⟨before, step', after ++ [step], named, by simp, hgoal, hmisdirects⟩
      · exact Or.inr ⟨steps, step, [], named, rfl, hgoal, hstep⟩

/-- Where the references come from that dangle after changes of an empty store. -/
structure ReferencesTraced (empty : Store) (steps : List (Occasion × Write)) : Prop where
  /-- A change misdirected each of them. -/
  origin : ∀ c, ∀ r ∈ c.relations, r.many = false → ∀ start goal,
    (runAll empty steps).Dangles c r start goal →
      ∃ before step after named, steps = before ++ step :: after ∧ goal = .ofUuid named ∧
        Misdirects (runAll empty before) step.1 c r step.2 start named
  /-- All stores on the way are referential exactly if no change misdirects a reference. -/
  referential_iff : (∀ before after, steps = before ++ after → (runAll empty before).Referential) ↔
    ∀ before step after, steps = before ++ step :: after →
      ∀ c, ∀ r ∈ c.relations, r.many = false → ∀ start named,
        ¬ Misdirects (runAll empty before) step.1 c r step.2 start named

/-- No reference dangles but those that payloads misdirect; in particular none does because the row
that it leads to was removed. -/
theorem references_traced (engine : Engine) (steps : List (Occasion × Write)) :
    ReferencesTraced (.empty engine) steps := by
  have hnone {c : Collection} {r : Relation} {start : Uuid} {goal : Cell} :
      ¬ (Store.empty engine).Dangles c r start goal := by
    rintro ⟨⟨-, row, hrow, -⟩, -⟩
    cases hrow
  have hempty : Reachable (.empty engine) := .empty engine
  have hreach (before : List (Occasion × Write)) : Reachable (runAll (.empty engine) before) :=
    hempty.runAll before
  refine ⟨fun c r hr hone start goal hdangles => ?_, fun hall => ?_, fun hall => ?_⟩
  · exact (exists_misdirects hempty hr hone steps hdangles).resolve_left hnone
  · intro before step after hsteps c r hr hone start named hmisdirects
    have hdangles := hmisdirects.dangles (hreach before).wellFormed hr hone
    rw [← runAll_append_singleton] at hdangles
    have hnext := hreach (before ++ [step])
    exact (Store.referential_iff hnext.constrained).1
      (hall (before ++ [step]) after (by simp [hsteps])) c r hr hone start _ hdangles
  · intro before after hsteps
    refine (Store.referential_iff (hreach before).constrained).2 ?_
    intro c r hr hone start goal hdangles
    obtain ⟨earlier, step, later, named, rfl, -, hmisdirects⟩ :=
      (exists_misdirects hempty hr hone before hdangles).resolve_left hnone
    exact hall earlier step (later ++ after) (by simp [hsteps]) c r hr hone start named hmisdirects

/-- A blog by nobody is created in the empty store. -/
theorem blog_by_nobody :
    let payload : Value := .object [("title", .text "T"), ("content", .text "C"),
      ("author_id", .text "9e3779b1-0000-4000-a000-000000000009")]
    let blog : Write := .create "blogs" payload
    let s := (blog.run .empty (.nth 1)).1
    Reachable s ∧ (blog.run .empty (.nth 1)).2.result.isOk = true ∧ s.rows .users = [] ∧
      (s.rows .blogs).map (fun row => row.cell "author_id") = [.uuid (.drawn 9)] ∧
      ¬ s.Referential := by
  intro payload blog s
  have hs : Reachable s := .write (.empty _) _ _
  have hblogs : (s.rows .blogs).map (fun row => row.cell "author_id") = [.uuid (.drawn 9)] := by
    decide +kernel
  refine ⟨hs, by decide +kernel, rfl, hblogs, fun hreferential => ?_⟩
  obtain ⟨blog, hblog⟩ : ∃ blog, blog ∈ s.rows .blogs := by
    refine List.exists_mem_of_ne_nil _ fun hnil => ?_
    rw [hnil] at hblogs
    cases hblogs
  obtain ⟨user, huser, -⟩ := hreferential.author blog hblog
  cases huser

end Service

end CollectionQuery
