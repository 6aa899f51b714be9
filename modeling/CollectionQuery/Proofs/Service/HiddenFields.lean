import CollectionQuery.Proofs.RowGraph.Keys
import CollectionQuery.Proofs.Service.Listing

/-!
# Hidden fields

The password hash of a user is read into memory with the other columns, but nothing that a request
for rows answers depends on it: neither the rows nor their order, neither the totals nor the
failures.  Nor does it stand under its name in any answer, however deep.
-/

namespace CollectionQuery

open CollectionPlan

/-- Two stores that differ at most in the password hashes of the users. -/
structure Store.SameButHashes (s t : Store) : Prop where
  /-- The tables are there in both or in none. -/
  present_eq : s.present = t.present
  /-- One storage engine keeps both. -/
  engine_eq : s.engine = t.engine
  /-- The rows of every collection agree one by one, in the identifier and in every column but the
  password hash of a user. -/
  rows_same : ∀ c, List.Forall₂ (fun x y : Row => x.id = y.id ∧ ∀ column ∈ c.columns,
    (c = .users → column.name ≠ "password_hash") → x.cell column.name = y.cell column.name)
    (s.rows c) (t.rows c)

variable {s t : Store}

/-- The password hash of a user is the only hidden column. -/
theorem Store.SameButHashes.parallel (h : s.SameButHashes t) : s.Parallel t where
  present_eq := h.present_eq
  engine_eq := h.engine_eq
  rows_alike c := by
    refine (h.rows_same c).imp fun x y hxy => ⟨hxy.1, fun column hcolumn => ?_⟩
    obtain ⟨hmem, hshown⟩ := List.mem_filter.1 hcolumn
    refine hxy.2 column hmem ?_
    rintro rfl hname
    exact of_decide_eq_true hshown (Collection.mem_hiddenFields.2 ⟨rfl, hname⟩)

/-! ## The same answers -/

/-- A call shows the same on parallel stores. -/
theorem shown_execute_parallel (h : s.Parallel t) (hs : s.WellFormed) (ht : t.WellFormed)
    (a : Audience) (c : Collection) (plan : Plan) :
    shown (execute s a c plan false false) = shown (execute t a c plan false false) := by
  cases hread : ofPlan a c plan with
  | error f => rw [execute_of_misfit hread, execute_of_misfit hread]
  | ok p =>
      obtain ⟨-, hfits⟩ := fits_ofPlan hread
      rw [execute_of_ofPlan hread, execute_of_ofPlan hread]
      exact shown_run_eq (h.alike a) ht (RowGraph.targetsAlike_of_parallel h) hfits
        (selection_parallel h hs ht hfits) fun _ => selection_parallel h hs ht hfits

namespace Service

variable {settings : Settings} {a : Audience} {name : String} {q : QueryParams} {id : Value}

/-- The first value that is shown, or the refusal if there is none. -/
def firstOf (o : Outcome (List Value × Int)) : Outcome Value :=
  match o.result with
  | .ok (v :: _, _) => ⟨o.log, .ok v⟩
  | .ok ([], _) => ⟨o.log, .error (.refused .noRow)⟩
  | .error f => ⟨o.log, .error f⟩

/-- Reading one row depends on the store only through what a call shows. -/
theorem get_eq (s : Store) : get s name id q = (do
    let c ← .ofExcept (Collection.resolve name)
    let key ← .ofExcept (Payload.rowId id)
    let relations ← RelationPath.requested q.relations q.loadAll
      (some (Audience.staff.relationNames c))
    firstOf (shown (execute s .staff c (rowPlan c key relations) false false))) := by
  rw [get]
  congr 1
  funext c
  congr 1
  funext key
  dsimp only
  congr 1
  funext relations
  obtain ⟨log, result⟩ := execute s .staff c (rowPlan c key relations) false false
  rcases result with f | ⟨_ | ⟨row, rest⟩, total⟩
  · rfl
  · simp [bind, Outcome.bind, shown, firstOf, Except.map, Outcome.fail]
  · simp [bind, Outcome.bind, shown, firstOf, Except.map, pure, Outcome.ok]

/-- A row that was read is one that a plan shows. -/
theorem get_eq_ok {row : Value} (h : (get s name id q).result = .ok row) :
    ∃ c plan p rows total, ofPlan .staff c plan = .ok p ∧
      (p.run s .staff).result = .ok (rows, total) ∧ row ∈ rows.map PageRow.display := by
  rw [get_eq] at h
  obtain ⟨c, -, h⟩ := Outcome.result_bind_eq_ok.1 h
  obtain ⟨key, -, h⟩ := Outcome.result_bind_eq_ok.1 h
  obtain ⟨relations, -, h⟩ := Outcome.result_bind_eq_ok.1 h
  rw [firstOf] at h
  split at h
  · next v rest total hshown =>
      cases h
      obtain ⟨rows, hresult, hrows⟩ := shown_eq_ok.1 hshown
      obtain ⟨p, hread, hrun⟩ := execute_eq_ok hresult
      exact ⟨c, _, p, rows, total, hread, hrun, hrows ▸ List.mem_cons_self⟩
  · cases h
  · cases h

theorem list_parallel (h : s.Parallel t) (hs : s.WellFormed) (ht : t.WellFormed) :
    list settings s a name q = list settings t a name q := by
  rcases list_cases settings a name q with ⟨p, log, hp, -, hlist⟩ | ⟨-, log, f, hlist⟩
  · obtain ⟨c, plan, -, -, hread⟩ := listPlan_eq_ok.1 hp
    rw [hlist, hlist, ← execute_of_ofPlan hread, ← execute_of_ofPlan hread,
      shown_execute_parallel h hs ht]
  · rw [hlist, hlist]

theorem get_parallel (h : s.Parallel t) (hs : s.WellFormed) (ht : t.WellFormed) :
    get s name id q = get t name id q := by
  rw [get_eq, get_eq]
  simp only [shown_execute_parallel h hs ht]

/-! ## No hidden names -/

/-- What a run shows has no concealed name as a key. -/
theorem not_hasKey_run {name : String} (hname : RowGraph.Concealed name) {p : CollectionPlan}
    (hp : p.Fits a) {rows : List PageRow} {total : Int}
    (h : (p.run s a).result = .ok (rows, total)) :
    ∀ v ∈ rows.map PageRow.display, ¬ v.HasKey name := by
  obtain ⟨found, -, rfl, -⟩ := run_eq_ok.1 h
  intro v hv
  obtain ⟨row, hrow, rfl⟩ := List.mem_map.1 hv
  obtain ⟨_, -, rfl⟩ := List.mem_map.1 hrow
  exact RowGraph.not_hasKey_displayAt hname
    (RowGraph.named_load hp.columns_known hp.paths_lead _) _ _ _

/-- On stores that differ only in the password hashes of the users, every list of rows and every
single row that is asked for is the same, or the failure is; and no object in it has the password
hash. -/
theorem password_hash_stays_hidden (hs : s.WellFormed) (ht : t.WellFormed)
    (h : s.SameButHashes t) (settings : Settings) (a : Audience) (name : String) (id : Value)
    (q : QueryParams) :
    list settings s a name q = list settings t a name q ∧ get s name id q = get t name id q ∧
      (∀ page, (list settings s a name q).result = .ok page →
        ∀ row ∈ page.data, ¬ row.HasKey "password_hash") ∧
      ∀ row, (get s name id q).result = .ok row → ¬ row.HasKey "password_hash" := by
  refine ⟨list_parallel h.parallel hs ht, get_parallel h.parallel hs ht, ?_, ?_⟩
  · intro page hpage
    obtain ⟨p, rows, total, hp, hrun, hdata, -⟩ := list_eq_ok hpage
    obtain ⟨c, plan, -, -, hread⟩ := listPlan_eq_ok.1 hp
    rw [← hdata]
    exact not_hasKey_run RowGraph.concealed_password_hash (fits_ofPlan hread).2 hrun
  · intro row hrow
    obtain ⟨c, plan, p, rows, total, hread, hrun, hmem⟩ := get_eq_ok hrow
    exact not_hasKey_run RowGraph.concealed_password_hash (fits_ofPlan hread).2 hrun row hmem

/-- Two stores with one user each, whose passwords differ. -/
theorem password_hash_stays_hidden_one_user :
    let user (password : String) : Row := ⟨.drawn 1, fun column =>
      if column = "id" then .uuid (.drawn 1)
      else if column = "password_hash" then .hash (.of password)
      else .null⟩
    let s := Store.empty.insert .users (user "one")
    let t := Store.empty.insert .users (user "two")
    let q : QueryParams := ⟨1, 10, some "email", none, some "o", [], none, [], [], ["blogs"], false⟩
    s.WellFormed ∧ t.WellFormed ∧ s.SameButHashes t ∧
      list {} s .staff "users" q = list {} t .staff "users" q ∧
      get s "users" (.uuid (.drawn 1)) q = get t "users" (.uuid (.drawn 1)) q ∧
      (∀ page, (list {} s .staff "users" q).result = .ok page →
        ∀ row ∈ page.data, ¬ row.HasKey "password_hash") ∧
      ∀ row, (get s "users" (.uuid (.drawn 1)) q).result = .ok row →
        ¬ row.HasKey "password_hash" := by
  intro user s t q
  have hwell : ∀ password, (Store.empty.insert .users (user password)).WellFormed := by
    intro password
    refine Store.wellFormed_empty.insert (fun other h => by cases h) rfl ?_
    simp [Row.Typed, Collection.columns, Collection.ownColumns, Collection.shortText,
      Collection.flag, systemColumns, user, ColumnKind.admits, Uuid.isLegible_drawn]
  have hsame : s.SameButHashes t := by
    refine ⟨rfl, rfl, fun c => ?_⟩
    rw [Store.rows_insert, Store.rows_insert]
    refine List.rel_append .nil ?_
    split
    · refine .cons ⟨rfl, fun column _ hname => ?_⟩ .nil
      have hne : column.name ≠ "password_hash" := hname (by assumption)
      simp [user, hne]
    · exact .nil
  exact ⟨hwell "one", hwell "two", hsame,
    password_hash_stays_hidden (hwell "one") (hwell "two") hsame {} .staff "users" _ q⟩

end Service

end CollectionQuery
