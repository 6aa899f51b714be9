import CollectionQuery.Proofs.Service.Frame

/-!
# Changes that end in neither a row nor a refusal

A change that the service answers gives a row or refuses the request.  The reader of payloads checks
only some of the values against the columns: identifiers whatever their kind, and dates if they are
texts.  Every other value goes to the store as it is.  So a change is answered unless a password has
no bytes or there is a draft with a value that its column does not store, and then it ends with a
fault.  A date that is neither a text nor null always is such a value.

An identifier whose digits write a number is stored as that number.  A change that writes one ends
with a fault when it reads the row back, and so does every change of the row from then on.
-/

namespace CollectionQuery

open CollectionQuery.Text CollectionQuery.Calendar

namespace Payload

/-- Whether an object has an identifier or the text of a date that cannot be read. -/
def Unreadable (c : Collection) (members : List (String × Value)) : Prop :=
  ∃ column ∈ c.columns, ∃ v, Value.member? members column.name = some v ∧
    ((column.kind = .uuid ∧ v.isNull = false ∧ v.isUuid = false ∧ Uuid.ofText? v.toText = none) ∨
      ∃ aware text, column.kind = .moment aware ∧ v = .ofText text ∧
        Timestamp.ofIso? (Coercion.zuluAsOffset (strip text.shown)) = none)

/-- Whether an object has a date that is neither a text nor null. -/
def MistypedDate (column : Column) (members : List (String × Value)) : Prop :=
  (∃ aware, column.kind = .moment aware) ∧ ∃ v, Value.member? members column.name = some v ∧
    v.isNull = false ∧ v.isDate = false ∧ ∀ text, v ≠ .ofText text

variable {c : Collection} {column : Column} {members : List (String × Value)} {v w : Value}

/-- Identifiers and dates stand under names of their own. -/
theorem not_derived (hcolumn : column ∈ c.columns)
    (hkind : column.kind = .uuid ∨ ∃ aware, column.kind = .moment aware) :
    column.name ∉ Draft.derivedNames := by
  have hall : (c.columns.all fun column => match column.kind with
      | .uuid => decide (column.name ∉ Draft.derivedNames)
      | .moment _ => decide (column.name ∉ Draft.derivedNames)
      | _ => true) = true := by
    cases c <;> decide
  have hname := List.all_eq_true.1 hall column hcolumn
  rcases hkind with hkind | ⟨aware, hkind⟩
  · rw [hkind] at hname
    exact of_decide_eq_true hname
  · rw [hkind] at hname
    exact of_decide_eq_true hname

end Payload

/-! ## Drafts of such payloads -/

namespace Draft

variable {s : Store} {c : Collection} {isUpdate : Bool} {members : List (String × Value)}
  {d : Draft} {column : Column}

theorem ofPayload_unreadable {payload : Value} (hmembers : Payload.members payload = .ok members)
    (h : Payload.Unreadable c members) : ofPayload s c isUpdate payload ≠ .ok d := by
  intro hd
  obtain rfl : payload = .object members := by
    cases payload with
    | object given =>
        cases hmembers
        rfl
    | mixed given => exact absurd hd (ofPayload_mixed d)
    | _ => cases hmembers
  obtain ⟨column, hcolumn, v, hv, hkind⟩ := h
  have hname := Payload.not_derived hcolumn
    (hkind.imp (fun h => h.1) fun ⟨aware, _, h, _⟩ => ⟨aware, h⟩)
  obtain ⟨other, hother, heq, w, hread, -⟩ := member?_ofPayload hd hname hv
  obtain rfl := Collection.eq_of_name_eq hother hcolumn heq
  rcases hkind with ⟨hkind, hnull, huuid, hnone⟩ | ⟨aware, text, hkind, rfl, hnone⟩
  · rw [Payload.readMember_uuid hkind hnull huuid hnone] at hread
    cases hread
  · rw [Payload.readMember_moment hkind hnone] at hread
    cases hread

/-- A date that is neither a text nor null gets into the draft, where it has the wrong type. -/
theorem exists_mistyped (hcolumn : column ∈ c.columns)
    (h : Payload.MistypedDate column members)
    (hd : ofPayload s c isUpdate (.object members) = .ok d) :
    ∃ v, Value.member? d.values column.name = some v ∧ v.isNull = false ∧ v.isDate = false ∧
      column.kind.bind v = .error .mistyped := by
  obtain ⟨⟨aware, hkind⟩, v, hv, hnull, hdate, htext⟩ := h
  obtain ⟨other, hother, heq, w, hread, hw⟩ :=
    member?_ofPayload hd (Payload.not_derived hcolumn (Or.inr ⟨aware, hkind⟩)) hv
  obtain rfl := Collection.eq_of_name_eq hother hcolumn heq
  rw [Payload.readMember_otherDate hkind hnull htext] at hread
  cases hread
  refine ⟨v, hw, hnull, hdate, ?_⟩
  rw [hkind]
  exact ColumnKind.bind_moment_mistyped (by rw [ColumnKind.stores, hnull, hdate]; rfl)

end Draft

/-- A cell in a column of dates holds nothing but a date or null. -/
theorem Cell.holds_otherDate {aware : Bool} {cell : Cell} {v : Value}
    (hcell : (ColumnKind.moment aware).admits cell = true) (hnull : v.isNull = false)
    (hdate : v.isDate = false) : cell.holds v = false := by
  cases cell with
  | null =>
      cases v with
      | null => cases hnull
      | _ => rfl
  | moment t =>
      cases v with
      | moment other => cases hdate
      | _ => rfl
  | _ => cases hcell

/-! ## Changes -/

namespace Service

variable {s : Store} {occasion : Occasion} {name : String} {id payload : Value}
  {c : Collection} {row : Row} {d : Draft} {members : List (String × Value)}

theorem rowId_fails (id : Value) : FailsOnly Failure.IsClient (Payload.rowId id) := by
  unfold Payload.rowId
  split
  · exact .of_ok _
  · exact .of_error (Failure.isClient_refused _)

theorem resolve_fails (name : String) : FailsOnly Failure.IsClient (Collection.resolve name) := by
  unfold Collection.resolve
  split
  · exact .of_ok _
  · exact .of_error (Failure.isClient_refused _)

/-- A payload is answered for unless its password has no bytes. -/
theorem ofPayload_fails_iff (hs : s.present = true) (hpayload : Payload.FitsHashing payload)
    {isUpdate : Bool} : FailsOnly Failure.IsClient (Draft.ofPayload s c isUpdate payload) ↔
      ¬ Draft.Unhashable c payload := by
  refine ⟨fun h hunhashable => ?_, fun h =>
    (Draft.ofPayload_fails hs hpayload h).mono fun _ hf => hf.isClient⟩
  have hfault := Draft.ofPayload_unhashable hpayload hunhashable s isUpdate
  exact Failure.not_isClient_fault _ (h _ hfault)

/-- Reading a row back is answered for only if it can be read. -/
theorem checkRead_fails_iff : FailsOnly Failure.IsClient (row.checkRead c) ↔ row.Legible c := by
  rw [← Row.checkRead_eq_ok]
  cases hread : row.checkRead c with
  | ok _ => exact iff_of_true (.of_ok _) rfl
  | error f =>
      obtain ⟨-, real, rfl⟩ := Row.checkRead_eq_error hread
      exact iff_of_false (fun h => Failure.not_isClient_fault _ (h _ rfl)) nofun

/-- Loading a row is answered for unless the row that is addressed cannot be read back. -/
theorem loadRow_fails_iff (hs : s.present = true) :
    FailsOnly Failure.IsClient (loadRow s c id) ↔
      ∀ row, Addresses s c id row → row.Legible c := by
  constructor
  · intro h row haddresses
    rwa [loadRow_of_addresses hs haddresses, FailsOnly.map_iff, checkRead_fails_iff] at h
  · intro h
    refine (rowId_fails id).bind fun key hkey => ?_
    rw [Store.checkTables, if_pos hs]
    refine FailsOnly.bind (.of_ok _) fun _ _ => ?_
    split
    · next row hfind =>
        exact (checkRead_fails_iff.2 (h row ⟨key, hkey, hfind⟩)).bind fun _ _ => .of_ok _
    · exact .of_error (Failure.isClient_refused _)

/-- A new row is answered for unless its password has no bytes, or its draft has a value that is not
stored, or names a row by an identifier that is not the same once it was. -/
theorem create_fails_iff (hs : s.present = true) (hpayload : Payload.FitsHashing payload) :
    FailsOnly Failure.IsClient (create s occasion name payload).2.result ↔
      ∀ c, Collection.resolve name = .ok c → ¬ Draft.Unhashable c payload ∧
        ∀ d, Draft.ofPayload s c false payload = .ok d →
          d.Storable c ∧ ∀ r, s.addRow occasion c d = .ok r → ¬ d.Misnames c := by
  rw [result_create, FailsOnly.bind_iff, and_iff_right (resolve_fails name)]
  refine forall₂_congr fun c _ => ?_
  rw [FailsOnly.bind_iff, ofPayload_fails_iff hs hpayload]
  refine and_congr_right fun _ => forall₂_congr fun d _ => ?_
  rw [FailsOnly.bind_iff, Store.addRow_fails_iff hs]
  refine and_congr_right fun _ => forall₂_congr fun r hadd => ?_
  rw [← Store.legible_addRow hadd, ← checkRead_fails_iff, FailsOnly.bind_iff]
  exact and_iff_left fun _ _ => .of_ok _

/-- A change of a row is answered for unless the row cannot be read back, or its password has no
bytes, or its draft has a value that is new and not stored or names a row by an identifier that is
not the same once it was. -/
theorem update_fails_iff (hs : s.WellFormed) (hpresent : s.present = true)
    (hpayload : Payload.FitsHashing payload) :
    FailsOnly Failure.IsClient (update s occasion name id payload).2.result ↔
      ∀ c, Collection.resolve name = .ok c → ∀ row, Addresses s c id row →
        row.Legible c ∧ ¬ Draft.Unhashable c payload ∧
          ∀ d, Draft.ofPayload s c true payload = .ok d →
            d.StorableIn c row ∧ ∀ r, s.changeRow occasion c d row = .ok r → ¬ d.Misnames c := by
  rw [result_update, FailsOnly.bind_iff, and_iff_right (resolve_fails name)]
  refine forall₂_congr fun c _ => ?_
  rw [FailsOnly.bind_iff, loadRow_fails_iff hpresent]
  have hrest (row : Row) (hrow : row ∈ s.rows c) (hlegible : row.Legible c) :
      FailsOnly Failure.IsClient (do
        let d ← Draft.ofPayload s c true payload
        let r ← s.changeRow occasion c d row
        r.2.checkRead c
        pure (displayRow c r.2)) ↔
      ¬ Draft.Unhashable c payload ∧ ∀ d, Draft.ofPayload s c true payload = .ok d →
        d.StorableIn c row ∧ ∀ r, s.changeRow occasion c d row = .ok r → ¬ d.Misnames c := by
    rw [FailsOnly.bind_iff, ofPayload_fails_iff hpresent hpayload]
    refine and_congr_right fun _ => forall₂_congr fun d _ => ?_
    rw [FailsOnly.bind_iff, Store.changeRow_fails_iff]
    refine and_congr_right fun _ => forall₂_congr fun r hchange => ?_
    rw [← Store.legible_changeRow (hs.typed c row hrow) hlegible hchange, ← checkRead_fails_iff,
      FailsOnly.bind_iff]
    exact and_iff_left fun _ _ => .of_ok _
  constructor
  · rintro ⟨hread, hchanged⟩ row haddresses
    have hlegible := hread row haddresses
    exact ⟨hlegible, (hrest row haddresses.mem hlegible).1
      (hchanged row ((loadRow_iff hpresent).2 ⟨haddresses, hlegible⟩))⟩
  · intro h
    refine ⟨fun row haddresses => (h row haddresses).1, fun row hload => ?_⟩
    obtain ⟨haddresses, hlegible⟩ := (loadRow_iff hpresent).1 hload
    exact (hrest row haddresses.mem hlegible).2 (h row haddresses).2

/-! ## Identifiers and dates -/

theorem create_unreadable (hs : s.present = true) (hpayload : Payload.FitsHashing payload)
    (hc : Collection.resolve name = .ok c) (hhashable : ¬ Draft.Unhashable c payload)
    (hmembers : Payload.members payload = .ok members) (h : Payload.Unreadable c members) :
    ∃ f, (create s occasion name payload).2.result = .error f ∧ f.status? = some 400 := by
  cases hd : Draft.ofPayload s c false payload with
  | ok d => exact absurd hd (Draft.ofPayload_unreadable hmembers h)
  | error f =>
      refine ⟨f, ?_, Draft.ofPayload_fails hs hpayload hhashable f hd⟩
      rw [result_create, hc]
      simp only [bind, Except.bind, hd]

theorem update_unreadable (hs : s.present = true) (hpayload : Payload.FitsHashing payload)
    (hc : Collection.resolve name = .ok c) (hhashable : ¬ Draft.Unhashable c payload)
    (hrow : loadRow s c id = .ok row) (hmembers : Payload.members payload = .ok members)
    (h : Payload.Unreadable c members) :
    ∃ f, (update s occasion name id payload).2.result = .error f ∧ f.status? = some 400 := by
  cases hd : Draft.ofPayload s c true payload with
  | ok d => exact absurd hd (Draft.ofPayload_unreadable hmembers h)
  | error f =>
      refine ⟨f, ?_, Draft.ofPayload_fails hs hpayload hhashable f hd⟩
      rw [result_update, hc]
      simp only [bind, Except.bind, hrow, hd]

theorem create_mistyped {column : Column} (hc : Collection.resolve name = .ok c)
    (hd : Draft.ofPayload s c false (.object members) = .ok d) (hcolumn : column ∈ c.columns)
    (h : Payload.MistypedDate column members) :
    (create s occasion name (.object members)).2.result = .error (.fault .columnType) := by
  obtain ⟨v, hv, -, -, hbind⟩ := Draft.exists_mistyped hcolumn h hd
  have hmem : (column, Store.Assignment.value v) ∈
      c.columns.map fun column => (column, Store.initial occasion d column) :=
    List.mem_map.2 ⟨column, hcolumn, by rw [Store.initial_of_member? hv]⟩
  rw [result_create, hc]
  simp only [bind, Except.bind, hd, Store.addRow, Store.checkTypes_mistyped hmem hbind]

theorem update_mistyped (hs : s.WellFormed) {column : Column}
    (hc : Collection.resolve name = .ok c) (hrow : loadRow s c id = .ok row)
    (hd : Draft.ofPayload s c true (.object members) = .ok d) (hcolumn : column ∈ c.columns)
    (h : Payload.MistypedDate column members) :
    (update s occasion name id (.object members)).2.result = .error (.fault .columnType) := by
  obtain ⟨v, hv, hnull, hdate, hbind⟩ := Draft.exists_mistyped hcolumn h hd
  obtain ⟨⟨aware, hkind⟩, -⟩ := h
  have hcell := hs.typed c row (loadRow_eq_ok hrow).1 column hcolumn
  rw [hkind] at hcell
  have hmem := Store.mem_changes_of_member? hcolumn hv (Cell.holds_otherDate hcell hnull hdate)
  have hchanges : (Store.changes c d row).isEmpty = false :=
    List.isEmpty_eq_false_iff.2 (List.ne_nil_of_mem hmem)
  rw [result_update, hc]
  simp only [bind, Except.bind, hrow, hd, Store.changeRow, hchanges,
    Store.checkTypes_mistyped hmem hbind]
  rfl

theorem create_misnamed (hc : Collection.resolve name = .ok c)
    (hd : Draft.ofPayload s c false payload = .ok d) {r : Store × Row}
    (hadd : s.addRow occasion c d = .ok r) (h : d.Misnames c) :
    ∃ real, (create s occasion name payload).2.result = .error (.fault (.misread real)) := by
  obtain ⟨real, hread⟩ :=
    Row.checkRead_misread fun hlegible => (Store.legible_addRow hadd).1 hlegible h
  refine ⟨real, ?_⟩
  rw [result_create, hc]
  simp only [bind, Except.bind, hd, hadd, hread]

theorem update_illegible (hs : s.present = true) (hc : Collection.resolve name = .ok c)
    (hrow : Addresses s c id row) (h : ¬ row.Legible c) (occasion : Occasion) (payload : Value) :
    ∃ real, (update s occasion name id payload).2.result = .error (.fault (.misread real)) := by
  obtain ⟨real, hread⟩ := Row.checkRead_misread h
  refine ⟨real, ?_⟩
  rw [result_update, hc]
  simp only [bind, Except.bind, loadRow_of_addresses hs hrow, hread, Except.map]

/-! ## All changes -/

/-- How the changes of a store end: which ones are answered, and what identifiers and dates that
cannot be read come to. -/
structure Answered (s : Store) : Prop where
  create_iff : ∀ occasion name payload, Payload.FitsHashing payload →
    (FailsOnly Failure.IsClient (create s occasion name payload).2.result ↔
      ∀ c, Collection.resolve name = .ok c → ¬ Draft.Unhashable c payload ∧
        ∀ d, Draft.ofPayload s c false payload = .ok d →
          d.Storable c ∧ ∀ r, s.addRow occasion c d = .ok r → ¬ d.Misnames c)
  update_iff : ∀ occasion name id payload, Payload.FitsHashing payload →
    (FailsOnly Failure.IsClient (update s occasion name id payload).2.result ↔
      ∀ c, Collection.resolve name = .ok c → ∀ row, Addresses s c id row →
        row.Legible c ∧ ¬ Draft.Unhashable c payload ∧
          ∀ d, Draft.ofPayload s c true payload = .ok d →
            d.StorableIn c row ∧ ∀ r, s.changeRow occasion c d row = .ok r → ¬ d.Misnames c)
  create_unreadable : ∀ occasion name c payload members, Payload.FitsHashing payload →
    Collection.resolve name = .ok c → ¬ Draft.Unhashable c payload →
      Payload.members payload = .ok members → Payload.Unreadable c members →
        ∃ f, (create s occasion name payload).2.result = .error f ∧ f.status? = some 400
  update_unreadable : ∀ occasion name id c row payload members, Payload.FitsHashing payload →
    Collection.resolve name = .ok c → ¬ Draft.Unhashable c payload →
      loadRow s c id = .ok row → Payload.members payload = .ok members →
        Payload.Unreadable c members →
          ∃ f, (update s occasion name id payload).2.result = .error f ∧ f.status? = some 400
  /-- A date of another kind is let through to the store. -/
  create_mistyped : ∀ occasion name c d members, ∀ column ∈ c.columns,
    Collection.resolve name = .ok c → Draft.ofPayload s c false (.object members) = .ok d →
      Payload.MistypedDate column members →
        (create s occasion name (.object members)).2.result = .error (.fault .columnType)
  update_mistyped : ∀ occasion name id c row d members, ∀ column ∈ c.columns,
    Collection.resolve name = .ok c → loadRow s c id = .ok row →
      Draft.ofPayload s c true (.object members) = .ok d → Payload.MistypedDate column members →
        (update s occasion name id (.object members)).2.result = .error (.fault .columnType)
  /-- A row that names another by such an identifier is added, and then cannot be shown. -/
  create_misnamed : ∀ occasion name payload c d r, Collection.resolve name = .ok c →
    Draft.ofPayload s c false payload = .ok d → s.addRow occasion c d = .ok r → d.Misnames c →
      ∃ real, (create s occasion name payload).2.result = .error (.fault (.misread real))
  /-- It is not changed any more, whatever to. -/
  update_illegible : ∀ occasion name id payload c row, Collection.resolve name = .ok c →
    Addresses s c id row → ¬ row.Legible c →
      ∃ real, (update s occasion name id payload).2.result = .error (.fault (.misread real))

/-- In every store that the service comes to, a change fails as a request of the client, unless a
password has no bytes, or there is a draft with a value that its column does not store or with an
identifier that it does not keep, or the row to change has such an identifier. -/
theorem changes_answered (h : Reachable s) : Answered s where
  create_iff _ _ _ := create_fails_iff h.present
  update_iff _ _ _ _ := update_fails_iff h.wellFormed h.present
  create_unreadable _ _ _ _ _ := create_unreadable h.present
  update_unreadable _ _ _ _ _ _ _ := update_unreadable h.present
  create_mistyped _ _ _ _ _ _ hcolumn hc hd := create_mistyped hc hd hcolumn
  update_mistyped _ _ _ _ _ _ _ _ hcolumn hc hrow hd :=
    update_mistyped h.wellFormed hc hrow hd hcolumn
  create_misnamed _ _ _ _ _ _ hc hd hadd := create_misnamed hc hd hadd
  update_illegible occasion _ _ payload _ _ hc hrow hnot :=
    update_illegible h.present hc hrow hnot occasion payload

/-- A store with one category. -/
theorem changes_answered_one_category :
    let payload : Value := .object [("name", .text "Guides"), ("slug", .text "guides")]
    let s := ((Write.create "categories" payload).run .empty (.nth 1)).1
    (s.rows .categories).length = 1 ∧ Reachable s ∧ Answered s := by
  intro payload s
  have hs : Reachable s := .write (.empty _) _ _
  exact ⟨by decide +kernel, hs, changes_answered hs⟩

/-- An event that starts at a number is neither created nor refused. -/
theorem create_event_at_number :
    let payload : Value := .object [("title", .text "T"), ("slug", .text "t"),
      ("description", .text "D"), ("start_date", .int 5)]
    Reachable .empty ∧ Payload.FitsHashing payload ∧
      (create .empty (.nth 1) "events" payload).2.result = .error (.fault .columnType) ∧
      ¬ FailsOnly Failure.IsClient (create .empty (.nth 1) "events" payload).2.result := by
  intro payload
  have hresult : (create .empty (.nth 1) "events" payload).2.result =
      .error (.fault .columnType) := by rfl
  refine ⟨.empty _, ?_, hresult, ?_⟩
  · intro members v hmembers hv
    cases hmembers
    simp [Value.member?] at hv
  · rw [hresult]
    exact fun h => Failure.not_isClient_fault _ (h _ rfl)

end Service

end CollectionQuery
