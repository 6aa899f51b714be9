import CollectionQuery.Proofs.Payload.UserFields
import CollectionQuery.Proofs.Service.Reachable
import CollectionQuery.Proofs.Store.Constraints
import CollectionQuery.Proofs.Store.Reading

/-!
# What holds of the rows of reachable stores

The rows of every reachable store obey the constraints of the tables.  Every user has an e-mail
address that is stripped and lowered and one of the roles: a draft sets these columns to nothing
else, an e-mail address has no default but null, and what is removed from other rows touches no
user.

With the constraint on the column, addresses that agree after stripping and lowering are never
stored together.
-/

namespace CollectionQuery

open CollectionQuery.Text

variable {s next : Store} {c : Collection} {occasion : Occasion} {d : Draft} {row changed : Row}
  {payload : Value}

/-- Whether a cell holds a text of some form. -/
def Cell.HoldsText (form : String → Prop) (cell : Cell) : Prop :=
  ∃ text, cell = .text text ∧ form text

/-- A user as it is stored. -/
structure Row.IsUser (row : Row) : Prop where
  email : (row.cell "email").HoldsText Payload.IsEmail
  role : (row.cell "role").HoldsText (· ∈ Payload.roles)

namespace Store

/-! ## Columns that a draft sets to texts of one form -/

section

variable {column : Column} {length : Option Nat} {form : String → Prop}

theorem holdsText_bind {v : Value} {cell : Cell} (hkind : column.kind = .text length)
    (hv : v.IsTextIn form) (h : column.kind.bind v = .ok cell) : cell.HoldsText form := by
  obtain ⟨text, rfl, htext⟩ := hv
  rw [hkind] at h
  cases text with
  | whole text => exact ⟨text, (Except.ok.inj h).symm, htext text rfl⟩
  | unpaired t => cases h

/-- A new row holds such a text, if its draft sets the column. -/
theorem holdsText_addRow (hcolumn : column ∈ c.columns) (hkind : column.kind = .text length)
    (hvalues : ∀ v ∈ d.values, v.1 = column.name → v.2.IsTextIn form)
    (h : s.addRow occasion c d = .ok (next, row)) :
    (row.cell column.name).HoldsText form ∨
      d.values.find? (fun v => v.1 == column.name) = none := by
  have hcell := cell_addRow h hcolumn
  rw [initial] at hcell
  split at hcell
  · next v hv =>
      have hname : v.1 = column.name := by simpa using List.find?_some hv
      exact Or.inl
        (holdsText_bind hkind (hvalues v (List.mem_of_find?_eq_some hv) hname) hcell)
  · next hnone => exact Or.inr hnone

/-- A changed row holds what it held or a text of its draft. -/
theorem holdsText_changeRow (hcolumn : column ∈ c.columns) (hkind : column.kind = .text length)
    (hvalues : ∀ v ∈ d.values, v.1 = column.name → v.2.IsTextIn form)
    (hupdated : column.name ≠ "updated_at") (hhash : column.name ≠ "password_hash")
    (hrow : (row.cell column.name).HoldsText form)
    (h : s.changeRow occasion c d row = .ok (next, changed)) :
    (changed.cell column.name).HoldsText form := by
  rcases cell_changeRow hcolumn hupdated hhash h with ⟨hsame, -⟩ | ⟨v, hv, hcell⟩
  · rwa [hsame]
  · have hmem := List.mem_of_find?_eq_some (find?_eq_some_of_member? hv)
    exact holdsText_bind hkind (hvalues _ hmem rfl) hcell

end

/-! ## Users -/

/-- The column of the e-mail addresses. -/
def emailColumn : Column := Collection.shortText "email" false true

/-- The column of the roles. -/
def roleColumn : Column :=
  { name := "role", kind := .text (some 20), default := .fixed (.text "USER") }

theorem emailColumn_mem : emailColumn ∈ Collection.users.columns := by
  simp [emailColumn, Collection.columns, Collection.ownColumns]

theorem roleColumn_mem : roleColumn ∈ Collection.users.columns := by
  simp [roleColumn, Collection.columns, Collection.ownColumns]

/-- A new user starts with the address and the role of its draft.  Without a role it has the default
one, and without an address the column would be null. -/
theorem isUser_addRow (hdraft : Draft.ofPayload s .users false payload = .ok d)
    (h : s.addRow occasion .users d = .ok (next, row)) : row.IsUser := by
  have htexts := Draft.texts_ofUser hdraft
  constructor
  · rcases holdsText_addRow emailColumn_mem rfl (fun v hv => (htexts v hv).1) h with htext | hnone
    · exact htext
    · have hcell := cell_addRow h emailColumn_mem
      obtain ⟨-, -, -, -, hfits, -⟩ := addRow_eq_ok h
      have hne := isComplete_iff.1 (fits_iff.1 hfits).1 emailColumn emailColumn_mem rfl
      rw [initial, hnone] at hcell
      exact absurd (Except.ok.inj hcell).symm hne
  · rcases holdsText_addRow roleColumn_mem rfl (fun v hv => (htexts v hv).2) h with htext | hnone
    · exact htext
    · have hcell := cell_addRow h roleColumn_mem
      rw [initial, hnone] at hcell
      exact ⟨"USER", (Except.ok.inj hcell).symm, by decide⟩

theorem isUser_changeRow (hdraft : Draft.ofPayload s .users true payload = .ok d)
    (hrow : row.IsUser) (h : s.changeRow occasion .users d row = .ok (next, changed)) :
    changed.IsUser where
  email := holdsText_changeRow emailColumn_mem rfl
    (fun v hv => (Draft.texts_ofUser hdraft v hv).1) (by decide) (by decide) hrow.email h
  role := holdsText_changeRow roleColumn_mem rfl
    (fun v hv => (Draft.texts_ofUser hdraft v hv).2) (by decide) (by decide) hrow.role h

/-- Removing a row takes its identifier out of no user. -/
theorem users_removeRow (h : s.removeRow occasion c row = .ok next) :
    ∀ x ∈ next.rows .users, x ∈ s.rows .users := by
  obtain ⟨mid, hmid, rfl⟩ := removeRow_eq_ok h
  have hsame : mid.rows .users = s.rows .users := by
    refine foldlM_release_eq_ok (P := fun mid => mid.rows .users = s.rows .users) ?_ rfl hmid
    intro mid next r hr hmid hnext
    rcases release_eq_ok hnext with rfl | ⟨hmany, -, rfl⟩
    · exact hmid
    · rw [rows_onRows_of_ne mid (Collection.target_ne_users hr hmany).symm]
      exact hmid
  intro x hx
  rw [← hsame]
  rw [erase, rows_onRows] at hx
  split at hx
  · exact (List.mem_filter.1 hx).1
  · exact hx

end Store

namespace Service

theorem Ran.isUser (h : Ran s occasion next) (hwell : s.WellFormed)
    (hs : ∀ row ∈ s.rows .users, row.IsUser) : ∀ row ∈ next.rows .users, row.IsUser := by
  intro x hx
  cases h with
  | nothing => exact hs x hx
  | @added _ c d row payload hdraft hadd =>
      have hadded := Store.added_addRow hadd
      by_cases hc : c = .users
      · subst hc
        rw [hadded.rows] at hx
        rcases List.mem_append.1 hx with hx | hx
        · exact hs x hx
        · exact List.mem_singleton.1 hx ▸ Store.isUser_addRow hdraft hadd
      · exact hs x (hadded.onlyIn.rows _ (Ne.symm hc) ▸ hx)
  | @changed _ c d row changed payload hdraft hrow hchange =>
      have hchanged := Store.changed_changeRow hwell hrow hchange
      by_cases hc : c = .users
      · subst hc
        rw [hchanged.rows] at hx
        obtain ⟨y, hy, rfl⟩ := List.mem_map.1 hx
        split
        · exact Store.isUser_changeRow hdraft (hs row hrow) hchange
        · exact hs y hy
      · exact hs x (hchanged.onlyIn.rows _ (Ne.symm hc) ▸ hx)
  | removed hremove => exact hs x (Store.users_removeRow hremove x hx)

theorem Reachable.isUser (h : Reachable s) : ∀ row ∈ s.rows .users, row.IsUser :=
  h.of_ran (P := fun s => ∀ row ∈ s.rows .users, row.IsUser) (fun _ _ hrow => by cases hrow)
    fun hreach hs hran => hran.isUser hreach.wellFormed hs

/-! ## The constraints -/

theorem Ran.constrained (h : Ran s occasion next) (hwell : s.WellFormed) (hs : s.Constrained) :
    next.Constrained := by
  cases h with
  | nothing => exact hs
  | added _ hadd => exact Store.constrained_addRow hs hadd
  | changed _ _ hchange => exact Store.constrained_changeRow hwell hs hchange
  | removed hremove => exact Store.constrained_removeRow hs hremove

theorem Reachable.constrained (h : Reachable s) : s.Constrained :=
  h.of_ran Store.constrained_empty fun hreach hs hran => hran.constrained hreach.wellFormed hs

/-! ## The invariant -/

/-- What holds of the rows of a store besides the types of their cells. -/
structure Consistent (s : Store) : Prop where
  /-- The e-mail addresses are not empty, and are texts that were stripped and lowered. -/
  emails : ∀ row ∈ s.rows .users, ∃ raw,
    row.cell "email" = .text (lower (strip raw)) ∧ lower (strip raw) ≠ ""
  emails_nodup : ((s.rows .users).map fun row => row.cell "email").Nodup
  roles : ∀ row ∈ s.rows .users, ∃ role ∈ ["USER", "ADMIN", "EDITOR"],
    row.cell "role" = .text role
  /-- The phone numbers that are given are distinct. -/
  phones_nodup :
    (((s.rows .users).map fun row => row.cell "phone").filter fun cell => !cell.isNull).Nodup
  names_nodup : ((s.rows .categories).map fun row => row.cell "name").Nodup
  slugs_nodup : ∀ c ∈ [Collection.categories, .events, .resources],
    ((s.rows c).map fun row => row.cell "slug").Nodup
  /-- No column is null that may not be. -/
  complete : ∀ c, ∀ row ∈ s.rows c, ∀ column ∈ c.columns, column.nullable = false →
    row.cell column.name ≠ .null

/-- The rows of every store that the service comes to are consistent, whatever the payloads were and
whichever of the changes failed. -/
theorem reachable_consistent (h : Reachable s) : Consistent s where
  emails row hrow := by
    obtain ⟨text, hcell, hne, raw, rfl⟩ := (h.isUser row hrow).email
    exact ⟨raw, hcell, hne⟩
  emails_nodup := h.constrained.nodup_required Store.emailColumn_mem rfl rfl
  roles row hrow := by
    obtain ⟨role, hcell, hmem⟩ := (h.isUser row hrow).role
    exact ⟨role, hmem, hcell⟩
  phones_nodup := by
    have hmem : ⟨"phone", .text (some 20), true, true, .none⟩ ∈ Collection.users.columns := by
      simp [Collection.columns, Collection.ownColumns]
    exact h.constrained.nodup_cells hmem rfl
  names_nodup := by
    have hmem : Collection.shortText "name" false true ∈ Collection.categories.columns := by
      simp [Collection.columns, Collection.ownColumns]
    exact h.constrained.nodup_required hmem rfl rfl
  slugs_nodup c hc := by
    have hmem : Collection.shortText "slug" false true ∈ c.columns := by
      simp only [List.mem_cons, List.not_mem_nil, or_false] at hc
      rcases hc with rfl | rfl | rfl <;> simp [Collection.columns, Collection.ownColumns]
    exact h.constrained.nodup_required hmem rfl rfl
  complete c row hrow := Store.isComplete_iff.1 (h.constrained.complete c row hrow)

/-- Of two users whose addresses agree once stripped and lowered only the first is stored. -/
theorem reachable_consistent_one_address :
    let user (email : String) : Write :=
      .create "users" (.object [("email", .text email), ("password", .text "secret")])
    let s := ((user "ada@x.ORG").run ((user " Ada@x.org").run .empty (.nth 1)).1 (.nth 2)).1
    (s.rows .users).map (fun row => row.cell "email") = [.text "ada@x.org"] ∧
      Reachable s ∧ Consistent s := by
  intro user s
  have hs : Reachable s := .write (.write (.empty _) _ _) _ _
  exact ⟨by rfl, hs, reachable_consistent hs⟩

end Service

end CollectionQuery
