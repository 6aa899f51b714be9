import CollectionQuery.Http.Exchange
import CollectionQuery.Proofs.Service.Frame

/-!
# What a request that fails leaves behind

Only three kinds of requests change the store, and the change is over before what was written is
read back and the response is made.  So a failure matters only if it comes then.  A row cannot be
read back if a reference in it is held as a number.  Everything that a row with legible references
may hold can be shown but a floating point number that is not finite, and only the two columns of
numbers of a resource hold floating point numbers.
-/

namespace CollectionQuery

/-- Whether a row holds a number that is not finite in one of the columns of numbers. -/
def Row.HasInfinity (row : Row) : Prop :=
  ∃ name ∈ ["file_size", "download_count"], ∃ x, row.cell name = .real x ∧ x.isFinite = false

namespace Http

/-! ## Rows that can be shown -/

theorem membersAreWritable_iff {members : List (String × Value)} :
    membersAreWritable members = true ↔ ∀ m ∈ members, isWritable m.2 = true := by
  induction members with
  | nil => simp [membersAreWritable]
  | cons m rest ih =>
      rw [membersAreWritable, Bool.and_eq_true, ih, List.forall_mem_cons]

/-- Only floating point numbers that are not finite cannot be written. -/
theorem isWritable_plain_iff (cell : Cell) :
    isWritable cell.toValue.plain = false ↔ ∃ x, cell = .real x ∧ x.isFinite = false := by
  cases cell <;> simp [Cell.toValue, Value.plain, isWritable]

/-- Floating point numbers stand in two columns only, if no reference is one. -/
theorem columns_of_reals {c : Collection} {column : Column} (hcolumn : column ∈ c.columns)
    {x : Number.Binary64} (h : column.kind.admits (.real x) = true)
    (hread : column.kind.misread? (.real x) = none) :
    c = .resources ∧ column.name ∈ ["file_size", "download_count"] := by
  have hall : (c.columns.all fun column => !column.kind.admits (.real x) ||
      (column.kind.misread? (.real x)).isSome ||
      c == .resources && decide (column.name ∈ ["file_size", "download_count"])) = true := by
    cases c <;> rfl
  simpa [h, hread] using List.all_eq_true.1 hall column hcolumn

theorem displayRow_eq (c : Collection) (row : Row) :
    Service.displayRow c row = .object (LoadedRow.full c row).shownColumns := by
  rw [Service.displayRow, RowGraph.display, List.length_singleton, RowGraph.displayAt,
    RowGraph.row?, List.find?_cons]
  simp [LoadedRow.full, LoadedRow.ofColumns]

/-- A legible row cannot be shown exactly if it is a resource with a number that is not finite. -/
theorem not_isWritable_displayRow {c : Collection} {row : Row} (hrow : row.Typed c)
    (hread : row.Legible c) :
    isWritable (Service.displayRow c row) = false ↔ c = .resources ∧ row.HasInfinity := by
  rw [displayRow_eq, isWritable, ← Bool.not_eq_true, membersAreWritable_iff]
  constructor
  · intro h
    push Not at h
    obtain ⟨m, hm, hwritable⟩ := h
    obtain ⟨p, hp, rfl⟩ := List.mem_map.1 hm
    obtain ⟨name, hname, rfl⟩ := List.mem_map.1 (List.mem_filter.1 hp).1
    obtain ⟨column, hcolumn, rfl⟩ := List.mem_map.1 hname
    obtain ⟨x, hx, hfinite⟩ := (isWritable_plain_iff _).1 (by simpa using hwritable)
    obtain ⟨hc, hmem⟩ := columns_of_reals hcolumn (hx ▸ hrow column hcolumn)
      (hx ▸ hread column hcolumn)
    exact ⟨hc, column.name, hmem, x, hx, hfinite⟩
  · rintro ⟨rfl, name, hname, x, hx, hfinite⟩ hall
    have hmem : (name, (row.cell name).toValue.plain) ∈
        (LoadedRow.full .resources row).shownColumns := by
      have hshown : name ∉ Collection.resources.hiddenFields := List.not_mem_nil
      refine List.mem_map.2
        ⟨(name, row.cell name), List.mem_filter.2 ⟨?_, decide_eq_true hshown⟩, rfl⟩
      refine List.mem_map.2 ⟨name, ?_, rfl⟩
      rcases List.mem_cons.1 hname with rfl | hname
      · decide
      · obtain rfl := List.mem_singleton.1 hname
        decide
    have hwritable := hall _ hmem
    rw [(isWritable_plain_iff _).2 ⟨x, hx, hfinite⟩] at hwritable
    cases hwritable

/-! ## Requests that change the store -/

/-- A request leads to an action only with a method that some route has. -/
theorem method_of_action {method path : String} {a : Action}
    (h : Destination.of method path = .action a) : method ≠ "OPTIONS" := by
  rw [Destination.of] at h
  split at h
  · next b hb =>
      obtain ⟨route, hroute, hmethod⟩ := List.exists_of_findSome?_eq_some hb
      rintro rfl
      have hnone : ∀ route ∈ Route.all, "OPTIONS" ∉ route.methods := by decide
      rw [if_neg (hnone route hroute)] at hmethod
      cases hmethod
  · split at h
    · cases h
    · split at h <;> cases h

/-- The change of the store that a request asks for. -/
inductive Request.Asks (settings : Settings) (r : Request) : Service.Write → Prop where
  | create {name : String} {payload : Value}
      (leads : Destination.of r.method r.path = .action (.create name))
      (body : r.object settings = .ok payload) : Asks settings r (.create name payload)
  | update {name id : String} {payload : Value}
      (leads : Destination.of r.method r.path = .action (.update name id))
      (body : r.object settings = .ok payload) : Asks settings r (.update name (.text id) payload)
  | delete {name id : String}
      (leads : Destination.of r.method r.path = .action (.delete name id)) :
      Asks settings r (.delete name (.text id))

variable {settings : Settings} {own : String} {s : Store} {occasion : Occasion}
  {freshRequestId : String} {r : Request} {w : Service.Write}

theorem Request.Asks.not_question (h : r.Asks settings w) : CrossOrigin.isQuestion r = false := by
  have hmethod : r.method ≠ "OPTIONS" := by
    cases h with
    | create leads _ => exact method_of_action leads
    | update leads _ => exact method_of_action leads
    | delete leads => exact method_of_action leads
  simp [CrossOrigin.isQuestion, hmethod]

/-- The status of the response to a change that succeeds. -/
def successStatus : Service.Write → Nat
  | .create _ _ => 201
  | _ => 200

/-- A request that asks for a change leads to it. -/
theorem Request.Asks.dispatch_eq (h : r.Asks settings w) :
    dispatch settings own s occasion r =
      Handled.write (successStatus w) (w.run s occasion) := by
  rw [dispatch]
  cases h with
  | create leads body =>
      rw [leads]
      simp only [Action.run, withObject, body]
      rfl
  | update leads body =>
      rw [leads]
      simp only [Action.run, withObject, body]
      rfl
  | delete leads =>
      rw [leads]
      rfl

/-- Any other request leaves the store alone. -/
theorem dispatch_cases (settings : Settings) (own : String) (s : Store) (occasion : Occasion)
    (r : Request) :
    (∃ w, r.Asks settings w) ∨ (dispatch settings own s occasion r).store = s := by
  rw [dispatch]
  cases leads : Destination.of r.method r.path with
  | action a =>
      cases a with
      | create name =>
          cases body : r.object settings with
          | ok payload => exact Or.inl ⟨_, .create leads body⟩
          | error fault =>
              right
              simp only [Action.run, withObject, body]
      | update name id =>
          cases body : r.object settings with
          | ok payload => exact Or.inl ⟨_, .update leads body⟩
          | error fault =>
              right
              simp only [Action.run, withObject, body]
      | delete name id => exact Or.inl ⟨_, .delete leads⟩
      | _ => exact Or.inr rfl
  | _ => exact Or.inr rfl

/-! ## Exchanges -/

theorem exchange_question (h : CrossOrigin.isQuestion r = true) :
    (exchange settings own s occasion freshRequestId r).store = s := by
  simp only [exchange, h, if_true, Handled.say]

/-- The store and the status of an exchange are those of what the request leads to. -/
theorem exchange_dispatch (settings : Settings) (own : String) (s : Store) (occasion : Occasion)
    (freshRequestId : String) {r : Request} (h : CrossOrigin.isQuestion r = false) :
    (exchange settings own s occasion freshRequestId r).store =
        (dispatch settings own s occasion r).store ∧
      (exchange settings own s occasion freshRequestId r).response.status =
        ((dispatch settings own s occasion r).reply.map Response.status).getD 500 := by
  have hsent (response : Response) : (response.sentFor r).status = response.status := by
    rw [Response.sentFor]
    split <;> rfl
  simp only [exchange, h, Bool.false_eq_true, if_false]
  cases (dispatch settings own s occasion r).reply with
  | none => exact ⟨rfl, hsent _⟩
  | some reply => exact ⟨rfl, hsent _⟩

theorem Request.Asks.exchange_eq (h : r.Asks settings w) :
    (exchange settings own s occasion freshRequestId r).store = (w.run s occasion).1 ∧
      (exchange settings own s occasion freshRequestId r).response.status =
        ((Reply.ofResult (successStatus w) (w.run s occasion).2.result).map
          Response.status).getD 500 := by
  have hexchange := exchange_dispatch settings own s occasion freshRequestId h.not_question
  rw [h.dispatch_eq] at hexchange
  exact hexchange

/-- Requests lead to stores that changes lead to. -/
theorem reachable_exchange (hs : Service.Reachable s) :
    Service.Reachable (exchange settings own s occasion freshRequestId r).store := by
  by_cases hquestion : CrossOrigin.isQuestion r = true
  · rw [exchange_question hquestion]
    exact hs
  · rcases dispatch_cases settings own s occasion r with ⟨w, hasks⟩ | hsame
    · rw [hasks.exchange_eq.1]
      exact hs.write occasion w
    · rw [(exchange_dispatch settings own s occasion freshRequestId
        (Bool.not_eq_true _ ▸ hquestion)).1, hsame]
      exact hs

/-! ## Requests that fail -/

/-- A store in which a resource was written, as a new row or as a changed one, that holds a number
that is not finite. -/
inductive WroteInfinity (occasion : Occasion) (s next : Store) : Prop where
  | added {row : Row} (row_added : Store.Added occasion .resources row s next)
      (infinite : row.HasInfinity)
  | changed {d : Draft} {row changed : Row}
      (row_changed : Store.Changed .resources d row changed s next)
      (infinite : changed.HasInfinity)

/-- A store in which a row was written, as a new one or as a changed one, that cannot be read
back. -/
inductive WroteIllegible (occasion : Occasion) (s next : Store) : Prop where
  | added {c : Collection} {row : Row} (row_added : Store.Added occasion c row s next)
      (illegible : ¬ row.Legible c)
  | changed {c : Collection} {d : Draft} {row changed : Row}
      (row_changed : Store.Changed c d row changed s next) (illegible : ¬ changed.Legible c)

/-- A change that fails leaves the store alone, or writes a row that cannot be read back. -/
theorem unchanged_or_wroteIllegible (hs : Service.Reachable s) {f : Failure}
    (h : (w.run s occasion).2.result = .error f) :
    (w.run s occasion).1 = s ∨
      (∃ real, f = .fault (.misread real)) ∧ WroteIllegible occasion s (w.run s occasion).1 := by
  cases w with
  | create name payload =>
      rw [Service.Write.run] at h ⊢
      refine (Service.create_eq_error h).imp_right ?_
      rintro ⟨c, d, row, -, -, hadd, hread⟩
      obtain ⟨hnot, hfault⟩ := Row.checkRead_eq_error hread
      exact ⟨hfault, .added (Store.added_addRow hadd) hnot⟩
  | update name id payload =>
      rw [Service.Write.run] at h ⊢
      refine (Service.update_eq_error h).imp_right ?_
      rintro ⟨c, d, row, changed, -, hload, -, hchange, hread⟩
      obtain ⟨hnot, hfault⟩ := Row.checkRead_eq_error hread
      have hrow := (Service.loadRow_eq_ok hload).1
      exact ⟨hfault, .changed (Store.changed_changeRow hs.wellFormed hrow hchange) hnot⟩
  | delete name id =>
      rw [Service.Write.run] at h ⊢
      exact Or.inl (Service.delete_fst_of_error h)

/-- The answer to a removal holds no numbers. -/
theorem isWritable_of_delete {name : String} {id v : Value}
    (h : (Service.delete s occasion name id).2.result = .ok v) : isWritable v = true := by
  obtain ⟨row, rfl⟩ := Service.delete_shows h
  rfl

/-- A change whose answer cannot be shown wrote such a resource. -/
theorem wroteInfinity_of_run (hs : Service.Reachable s) {v : Value}
    (h : (w.run s occasion).2.result = .ok v) (hv : isWritable v = false) :
    WroteInfinity occasion s (w.run s occasion).1 := by
  have hnext : (w.run s occasion).1.WellFormed := (hs.write occasion w).wellFormed
  cases w with
  | create name payload =>
      rw [Service.Write.run] at h hnext ⊢
      obtain ⟨c, d, row, -, -, -, hadded, hread, rfl⟩ := Service.create_shows h
      have hrow : row.Typed c := hnext.typed c row (by
        rw [hadded.rows]
        exact List.mem_append_right _ (List.mem_singleton_self row))
      obtain ⟨rfl, hinfinity⟩ := (not_isWritable_displayRow hrow hread).1 hv
      exact .added hadded hinfinity
  | update name id payload =>
      rw [Service.Write.run] at h hnext ⊢
      obtain ⟨c, d, row, changed, -, -, -, -, hchanged, hread, rfl⟩ :=
        Service.update_shows hs.wellFormed h
      have hrow : changed.Typed c := hnext.typed c changed (by
        rw [hchanged.rows]
        exact List.mem_map.2 ⟨row, hchanged.mem, if_pos rfl⟩)
      obtain ⟨rfl, hinfinity⟩ := (not_isWritable_displayRow hrow hread).1 hv
      exact .changed hchanged hinfinity
  | delete name id =>
      rw [Service.Write.run] at h
      rw [isWritable_of_delete h] at hv
      cases hv

/-- The response to a change that succeeds has the status of a success if it can be written. -/
theorem Request.Asks.status_of_ok (h : r.Asks settings w) {v : Value}
    (hv : (w.run s occasion).2.result = .ok v) :
    (exchange settings own s occasion freshRequestId r).response.status =
      if isWritable v then successStatus w else 500 := by
  rw [h.exchange_eq.2, hv, Reply.ofResult]
  split <;> rfl

theorem successStatus_lt (w : Service.Write) : successStatus w < 400 := by
  cases w <;> simp [successStatus]

/-- The response to a change that meets a fault is that of a bare server error. -/
theorem Request.Asks.status_of_fault (h : r.Asks settings w) {cause : Fault}
    (hf : (w.run s occasion).2.result = .error (.fault cause)) :
    (exchange settings own s occasion freshRequestId r).response.status = 500 := by
  rw [h.exchange_eq.2, hf]
  rfl

/-- What requests that fail do to a store. -/
structure FailsCleanly (s : Store) : Prop where
  /-- A request that fails changes nothing, unless it wrote what cannot be read back or shown. -/
  unchanged : ∀ settings own occasion freshRequestId r,
    400 ≤ (exchange settings own s occasion freshRequestId r).response.status →
      (exchange settings own s occasion freshRequestId r).store = s ∨
        ((exchange settings own s occasion freshRequestId r).response.status = 500 ∧
          (WroteInfinity occasion s (exchange settings own s occasion freshRequestId r).store ∨
            WroteIllegible occasion s (exchange settings own s occasion freshRequestId r).store))
  delete_unchanged : ∀ settings own occasion freshRequestId (r : Request) name id,
    r.Asks settings (.delete name id) →
      400 ≤ (exchange settings own s occasion freshRequestId r).response.status →
        (exchange settings own s occasion freshRequestId r).store = s
  /-- A row that was written and cannot be shown stays, although the request fails. -/
  unshown : ∀ settings own occasion freshRequestId (r : Request) w v, r.Asks settings w →
    (w.run s occasion).2.result = .ok v → isWritable v = false →
      (exchange settings own s occasion freshRequestId r).response.status = 500 ∧
        (exchange settings own s occasion freshRequestId r).store = (w.run s occasion).1 ∧
        WroteInfinity occasion s (w.run s occasion).1
  /-- A row that was written and cannot be read back stays, although the request fails. -/
  unread : ∀ settings own occasion freshRequestId (r : Request) w f, r.Asks settings w →
    (w.run s occasion).2.result = .error f → (w.run s occasion).1 ≠ s →
      (exchange settings own s occasion freshRequestId r).response.status = 500 ∧
        (exchange settings own s occasion freshRequestId r).store = (w.run s occasion).1 ∧
        WroteIllegible occasion s (w.run s occasion).1

/-- A change that succeeds fails as a request only if its answer cannot be shown. -/
theorem Request.Asks.not_isWritable (h : r.Asks settings w) {v : Value}
    (hstatus : 400 ≤ (exchange settings own s occasion freshRequestId r).response.status)
    (hresult : (w.run s occasion).2.result = .ok v) : isWritable v = false := by
  rw [h.status_of_ok hresult] at hstatus
  have hsuccess := successStatus_lt w
  cases hv : isWritable v with
  | false => rfl
  | true =>
      rw [hv, if_pos rfl] at hstatus
      omega

theorem exchange_fails_cleanly (hs : Service.Reachable s) : FailsCleanly s where
  unchanged settings own occasion freshRequestId r hstatus := by
    by_cases hquestion : CrossOrigin.isQuestion r = true
    · exact Or.inl (exchange_question hquestion)
    have hdispatch := exchange_dispatch settings own s occasion freshRequestId
      (Bool.not_eq_true _ ▸ hquestion)
    rcases dispatch_cases settings own s occasion r with ⟨w, hasks⟩ | hsame
    · rw [hasks.exchange_eq.1]
      cases hresult : (w.run s occasion).2.result with
      | ok v =>
          have hv := hasks.not_isWritable hstatus hresult
          rw [hasks.status_of_ok hresult, hv]
          exact Or.inr ⟨rfl, Or.inl (wroteInfinity_of_run hs hresult hv)⟩
      | error f =>
          refine (unchanged_or_wroteIllegible hs hresult).imp_right ?_
          rintro ⟨⟨real, rfl⟩, hwrote⟩
          exact ⟨hasks.status_of_fault hresult, Or.inr hwrote⟩
    · exact Or.inl (hdispatch.1.trans hsame)
  delete_unchanged settings own occasion freshRequestId r name id hasks hstatus := by
    cases hresult : ((Service.Write.delete name id).run s occasion).2.result with
    | ok v =>
        have hv := hasks.not_isWritable hstatus hresult
        rw [Service.Write.run] at hresult
        rw [isWritable_of_delete hresult] at hv
        cases hv
    | error f =>
        rw [hasks.exchange_eq.1]
        rw [Service.Write.run] at hresult ⊢
        exact Service.delete_fst_of_error hresult
  unshown settings own occasion freshRequestId r w v hasks hresult hv := by
    rw [hasks.status_of_ok hresult, hv, hasks.exchange_eq.1]
    exact ⟨rfl, rfl, wroteInfinity_of_run hs hresult hv⟩
  unread settings own occasion freshRequestId r w f hasks hresult hchanged := by
    obtain ⟨⟨real, rfl⟩, hwrote⟩ :=
      (unchanged_or_wroteIllegible hs hresult).resolve_left hchanged
    exact ⟨hasks.status_of_fault hresult, hasks.exchange_eq.1, hwrote⟩

/-- A category that is added a second time is refused. -/
theorem exchange_fails_cleanly_one_category :
    let request : Request := {
      method := "POST"
      path := "/api/collections/categories"
      headers := [("content-type", "application/json")]
      body := "\x7b\"name\":\"Guides\"\x7d" }
    let s := (exchange {} "testserver" .empty (.nth 1) "x" request).store
    Service.Reachable s ∧ FailsCleanly s ∧
      (exchange {} "testserver" s (.nth 2) "y" request).response.status = 400 := by
  intro request s
  have hs : Service.Reachable s := reachable_exchange (.empty _)
  exact ⟨hs, exchange_fails_cleanly hs, by decide +kernel⟩

/-- A resource with a size that is read as a number that is not finite. -/
def infiniteSize : Request := {
  method := "POST"
  path := "/api/collections/resources"
  headers := [("content-type", "application/json")]
  body := "\x7b\"title\":\"a\",\"description\":\"d\",\"type\":\"t\",\"file_url\":\"u\"," ++
    "\"file_size\":1e400\x7d" }

/-- The resource is there, although the request that added it failed. -/
theorem exchange_infiniteSize :
    let exchanged := exchange {} "testserver" .empty (.nth 1) "x" infiniteSize
    Service.Reachable .empty ∧ exchanged.response.status = 500 ∧
      (Store.empty.rows .resources).length = 0 ∧
      (exchanged.store.rows .resources).length = 1 := by
  intro exchanged
  exact ⟨.empty _, by decide +kernel⟩

end Http

end CollectionQuery
