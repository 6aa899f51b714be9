import CollectionQuery.Proofs.Store.Writing
import CollectionQuery.Service

/-!
# Reachable stores

The stores that the service comes to from the empty one by creating, changing and removing rows.  A
change leaves the store as it was or runs one statement, so what every statement keeps is kept by
every change.  All reachable stores are well-formed.
-/

namespace CollectionQuery

namespace Service

variable {s next : Store} {occasion : Occasion}

/-- A change that a request asks for. -/
inductive Write where
  /-- A new row of a collection. -/
  | create (name : String) (payload : Value)
  /-- Other values for a row. -/
  | update (name : String) (id payload : Value)
  /-- A row less. -/
  | delete (name : String) (id : Value)

/-- The store after a change, and the outcome. -/
def Write.run (s : Store) (occasion : Occasion) : Write → Store × Outcome Value
  | create name payload => Service.create s occasion name payload
  | update name id payload => Service.update s occasion name id payload
  | delete name id => Service.delete s occasion name id

/-- A store that the service comes to from the empty one. -/
inductive Reachable : Store → Prop where
  /-- The empty store, kept by any storage engine. -/
  | empty (engine : Engine) : Reachable (.empty engine)
  /-- The store after another change, whatever its outcome is. -/
  | write {s : Store} (reached : Reachable s) (occasion : Occasion) (w : Write) :
      Reachable (w.run s occasion).1

/-! ## What a change runs -/

theorem change_fst {α : Type} {result : Except Failure (Store × α)}
    {reread : α → Except Failure Unit} {entry : α → LogEntry} {answer : α → Value}
    (h : (change s result reread entry answer).1 = next) :
    next = s ∨ ∃ a, result = .ok (next, a) := by
  subst h
  cases result with
  | error f => exact Or.inl rfl
  | ok r => exact Or.inr ⟨r.2, rfl⟩

theorem loadRow_eq_ok {c : Collection} {id : Value} {row : Row} (h : loadRow s c id = .ok row) :
    row ∈ s.rows c ∧ row.checkRead c = .ok () := by
  obtain ⟨key, -, h⟩ := bind_eq_ok.1 h
  obtain ⟨-, -, h⟩ := bind_eq_ok.1 h
  split at h
  · next hfind =>
      obtain ⟨_, hread, h⟩ := bind_eq_ok.1 h
      cases h
      exact ⟨List.mem_of_find?_eq_some hfind, hread⟩
  · cases h

/-- Creating a row is a change by a statement that adds one by a draft. -/
theorem create_eq_change (s : Store) (occasion : Occasion) (name : String) (payload : Value) :
    ∃ result : Except Failure (Store × Collection × Row),
      create s occasion name payload = change s result (fun r => r.2.checkRead r.1)
        (fun r => .created r.1.name r.2.id.text) (fun r => displayRow r.1 r.2) ∧
      ∀ next c row, result = .ok (next, c, row) →
        ∃ d, Collection.resolve name = .ok c ∧ Draft.ofPayload s c false payload = .ok d ∧
          s.addRow occasion c d = .ok (next, row) := by
  rw [create]
  refine ⟨_, rfl, fun next c row h => ?_⟩
  obtain ⟨c, hname, h⟩ := bind_eq_ok.1 h
  obtain ⟨d, hdraft, h⟩ := bind_eq_ok.1 h
  obtain ⟨⟨_, row⟩, hadd, h⟩ := bind_eq_ok.1 h
  cases h
  exact ⟨d, hname, hdraft, hadd⟩

/-- Updating a row is a change by a statement that changes it by a draft. -/
theorem update_eq_change (s : Store) (occasion : Occasion) (name : String) (id payload : Value) :
    ∃ result : Except Failure (Store × Collection × Draft × Row),
      update s occasion name id payload = change s result (fun r => r.2.2.checkRead r.1)
        (fun r => .updated r.1.name id.toText (sortTexts r.2.1.names))
        (fun r => displayRow r.1 r.2.2) ∧
      ∀ next c d changed, result = .ok (next, c, d, changed) →
        ∃ row, Collection.resolve name = .ok c ∧ loadRow s c id = .ok row ∧
          Draft.ofPayload s c true payload = .ok d ∧
          s.changeRow occasion c d row = .ok (next, changed) := by
  rw [update]
  refine ⟨_, rfl, fun next c d changed h => ?_⟩
  obtain ⟨c, hname, h⟩ := bind_eq_ok.1 h
  obtain ⟨row, hrow, h⟩ := bind_eq_ok.1 h
  obtain ⟨d, hdraft, h⟩ := bind_eq_ok.1 h
  obtain ⟨⟨_, changed⟩, hchange, h⟩ := bind_eq_ok.1 h
  cases h
  exact ⟨row, hname, hrow, hdraft, hchange⟩

/-- Deleting a row is a change by a statement that removes it, with nothing to read back. -/
theorem delete_eq_change (s : Store) (occasion : Occasion) (name : String) (id : Value) :
    ∃ result : Except Failure (Store × Collection × Row),
      delete s occasion name id = change s result (fun _ => .ok ())
        (fun r => .deleted r.1.name r.2.id.text)
        (fun r => .object [("status", .text "deleted"), ("id", .text r.2.id.text)]) ∧
      ∀ next c row, result = .ok (next, c, row) →
        Collection.resolve name = .ok c ∧ loadRow s c id = .ok row ∧
          s.removeRow occasion c row = .ok next := by
  rw [delete]
  refine ⟨_, rfl, fun next c row h => ?_⟩
  obtain ⟨c, hname, h⟩ := bind_eq_ok.1 h
  obtain ⟨row, hrow, h⟩ := bind_eq_ok.1 h
  obtain ⟨_, hremove, h⟩ := bind_eq_ok.1 h
  cases h
  exact ⟨hname, hrow, hremove⟩

theorem create_fst {name : String} {payload : Value}
    (h : (create s occasion name payload).1 = next) :
    next = s ∨ ∃ c d row, Collection.resolve name = .ok c ∧
      Draft.ofPayload s c false payload = .ok d ∧
      s.addRow occasion c d = .ok (next, row) := by
  obtain ⟨result, hcreate, hadds⟩ := create_eq_change s occasion name payload
  rw [hcreate] at h
  refine (change_fst h).imp_right fun ⟨⟨c, row⟩, hresult⟩ => ?_
  obtain ⟨d, hname, hdraft, hadd⟩ := hadds next c row hresult
  exact ⟨c, d, row, hname, hdraft, hadd⟩

theorem update_fst {name : String} {id payload : Value}
    (h : (update s occasion name id payload).1 = next) :
    next = s ∨ ∃ c d row changed, Collection.resolve name = .ok c ∧ loadRow s c id = .ok row ∧
      Draft.ofPayload s c true payload = .ok d ∧
      s.changeRow occasion c d row = .ok (next, changed) := by
  obtain ⟨result, hupdate, hchanges⟩ := update_eq_change s occasion name id payload
  rw [hupdate] at h
  refine (change_fst h).imp_right fun ⟨⟨c, d, changed⟩, hresult⟩ => ?_
  obtain ⟨row, hname, hrow, hdraft, hchange⟩ := hchanges next c d changed hresult
  exact ⟨c, d, row, changed, hname, hrow, hdraft, hchange⟩

theorem delete_fst {name : String} {id : Value} (h : (delete s occasion name id).1 = next) :
    next = s ∨ ∃ c row, Collection.resolve name = .ok c ∧ loadRow s c id = .ok row ∧
      s.removeRow occasion c row = .ok next := by
  obtain ⟨result, hdelete, hremoves⟩ := delete_eq_change s occasion name id
  rw [hdelete] at h
  exact (change_fst h).imp_right fun ⟨⟨c, row⟩, hresult⟩ =>
    ⟨c, row, hremoves next c row hresult⟩

/-- What a change comes to: it leaves the store alone, or runs one statement. -/
inductive Ran (s : Store) (occasion : Occasion) : Store → Prop where
  | nothing : Ran s occasion s
  /-- A row was added by the draft of a payload. -/
  | added {next : Store} {c : Collection} {d : Draft} {row : Row} {payload : Value}
      (draft : Draft.ofPayload s c false payload = .ok d)
      (adds : s.addRow occasion c d = .ok (next, row)) : Ran s occasion next
  /-- A row was changed by the draft of a payload. -/
  | changed {next : Store} {c : Collection} {d : Draft} {row changed : Row} {payload : Value}
      (draft : Draft.ofPayload s c true payload = .ok d) (mem : row ∈ s.rows c)
      (changes : s.changeRow occasion c d row = .ok (next, changed)) : Ran s occasion next
  | removed {next : Store} {c : Collection} {row : Row}
      (removes : s.removeRow occasion c row = .ok next) : Ran s occasion next

theorem ran_run (s : Store) (occasion : Occasion) (w : Write) :
    Ran s occasion (w.run s occasion).1 := by
  cases w with
  | create name payload =>
      rw [Write.run]
      rcases create_fst (Eq.refl (create s occasion name payload).1) with
        hsame | ⟨c, d, row, -, hdraft, hadd⟩
      · rw [hsame]
        exact .nothing
      · exact .added hdraft hadd
  | update name id payload =>
      rw [Write.run]
      rcases update_fst (Eq.refl (update s occasion name id payload).1) with
        hsame | ⟨c, d, row, changed, -, hrow, hdraft, hchange⟩
      · rw [hsame]
        exact .nothing
      · exact .changed hdraft (loadRow_eq_ok hrow).1 hchange
  | delete name id =>
      rw [Write.run]
      rcases delete_fst (Eq.refl (delete s occasion name id).1) with
        hsame | ⟨c, row, -, -, hremove⟩
      · rw [hsame]
        exact .nothing
      · exact .removed hremove

/-- What holds of the empty store and is kept by every change holds of all reachable stores. -/
theorem Reachable.of_ran {P : Store → Prop} (hempty : ∀ engine, P (.empty engine))
    (hran : ∀ {s occasion next}, Reachable s → P s → Ran s occasion next → P next)
    (h : Reachable s) : P s := by
  induction h with
  | empty engine => exact hempty engine
  | @write s reached occasion w ih => exact hran reached ih (ran_run s occasion w)

/-! ## Well-formed stores -/

/-- No change takes a well-formed store to one that is not. -/
theorem Ran.wellFormed (h : Ran s occasion next) (hs : s.WellFormed) : next.WellFormed := by
  cases h with
  | nothing => exact hs
  | added hdraft hadd =>
      exact Store.wellFormed_addRow hs (Draft.find?_system hdraft (by decide)) hadd
  | changed hdraft hrow hchange =>
      exact Store.wellFormed_changeRow hs hrow (Draft.find?_system hdraft (by decide)) hchange
  | removed hremove => exact Store.wellFormed_removeRow hs hremove

/-- The stores that the service comes to are well-formed. -/
theorem Reachable.wellFormed (h : Reachable s) : s.WellFormed :=
  h.of_ran (fun _ => Store.wellFormed_empty) fun _ hs hran => hran.wellFormed hs

end Service

end CollectionQuery
