import CollectionQuery.Draft
import CollectionQuery.Proofs.Lists
import CollectionQuery.Proofs.Outcome

/-!
# What a draft sets

The members of a payload keep their names while they are read, and only those that a request may set
get through.  So a draft sets neither an identifier nor the time of a row.
-/

namespace CollectionQuery

variable {s : Store} {c : Collection} {isUpdate : Bool} {payload : Value}

namespace Payload

variable {given values : List (String × Value)}

/-- Every value that was read comes from a member, by the column of its name. -/
theorem readMembers_eq_ok (h : readMembers c given = .ok values) :
    List.Forall₂ (fun m v => m.1 = v.1 ∧ ∃ column ∈ c.columns, column.name = v.1 ∧
      readMember column m.2 = .ok v.2) given values := by
  induction given generalizing values with
  | nil =>
      rw [readMembers] at h
      cases h
      exact .nil
  | cons m rest ih =>
      obtain ⟨name, v⟩ := m
      rw [readMembers] at h
      split at h
      · next column hcolumn =>
          obtain ⟨first, hfirst, h⟩ := bind_eq_ok.1 h
          obtain ⟨more, hmore, h⟩ := bind_eq_ok.1 h
          cases h
          have hname : column.name = name := by simpa using List.find?_some hcolumn
          exact .cons ⟨rfl, column, List.mem_of_find?_eq_some hcolumn, hname, hfirst⟩ (ih hmore)
      · cases h

/-- A payload is read if all its members are columns that a request may set. -/
theorem sanitize_eq_ok (h : sanitize c isUpdate (.object given) = .ok values) :
    readMembers c given = .ok values ∧ ∀ m ∈ given, c.isSettable m.1 = true := by
  obtain ⟨_, hgiven, h⟩ := bind_eq_ok.1 h
  cases hgiven
  dsimp only at h
  split at h
  · next hknown =>
      obtain ⟨read, hread, h⟩ := bind_eq_ok.1 h
      refine ⟨?_, fun m hm => ?_⟩
      · split at h <;> split at h <;> cases h <;> exact hread
      · have hmem := List.filter_eq_nil_iff.1 hknown m hm
        rw [decide_eq_true_eq, not_not] at hmem
        exact (List.mem_filter.1 hmem).2
  · cases h

/-- What is left of a payload are columns that a request may set. -/
theorem settable_sanitize (h : sanitize c isUpdate (.object given) = .ok values) :
    ∀ v ∈ values, v.1 ∈ c.columns.map (·.name) ∧ c.isSettable v.1 = true := by
  obtain ⟨hread, hsettable⟩ := sanitize_eq_ok h
  intro v hv
  obtain ⟨m, hm, hname, column, hcolumn, hcname, -⟩ :=
    (readMembers_eq_ok hread).exists_of_mem_right v hv
  exact ⟨hcname ▸ List.mem_map_of_mem hcolumn, hname ▸ hsettable m hm⟩

end Payload

namespace Draft

variable {d : Draft}

/-- What a draft sets in a user was read from the fields of the payload, if there were any. -/
theorem ofUser_eq_ok (h : ofUser isUpdate payload = .ok d) :
    ∃ given fields, Payload.userFields given = .ok fields ∧
      (d.values = [] ∨
        Payload.sanitize .users isUpdate (.object fields.members) = .ok d.values) := by
  rw [ofUser] at h
  obtain ⟨given, -, h⟩ := bind_eq_ok.1 h
  obtain ⟨fields, hfields, h⟩ := bind_eq_ok.1 h
  refine ⟨given, fields, hfields, ?_⟩
  dsimp only at h
  split at h
  · cases h
  · obtain ⟨-, -, h⟩ := bind_eq_ok.1 h
    split at h
    all_goals
      obtain ⟨values, hvalues, h⟩ := bind_eq_ok.1 h
      split at h
      · cases h
      · cases h
        first
        | exact Or.inl (pure_eq_ok.1 hvalues).symm
        | exact Or.inr hvalues

/-- An object with half a surrogate pair in a name makes no draft. -/
theorem ofPayload_mixed {members : List (Text.AnyText × Value)} (d : Draft) :
    ofPayload s c isUpdate (.mixed members) ≠ .ok d := by
  intro h
  cases c with
  | users =>
      obtain ⟨_, -, h⟩ := bind_eq_ok.1 h
      obtain ⟨_, -, h⟩ := bind_eq_ok.1 h
      dsimp only at h
      split at h
      · cases h
      · cases h
  | _ =>
      obtain ⟨_, -, h⟩ := bind_eq_ok.1 h
      dsimp only at h
      split at h
      all_goals
        obtain ⟨_, -, h⟩ := bind_eq_ok.1 h
        cases h

/-- What a draft sets was read from members of a payload, if there were any. -/
theorem ofPayload_eq_ok (h : ofPayload s c isUpdate payload = .ok d) :
    d.values = [] ∨ ∃ members, Payload.sanitize c isUpdate (.object members) = .ok d.values := by
  cases c with
  | users =>
      obtain ⟨_, fields, -, hvalues⟩ := ofUser_eq_ok h
      exact hvalues.imp_right fun hvalues => ⟨fields.members, hvalues⟩
  | _ =>
      obtain ⟨given, -, h⟩ := bind_eq_ok.1 h
      dsimp only at h
      split at h
      all_goals
        obtain ⟨members, -, h⟩ := bind_eq_ok.1 h
        obtain ⟨-, -, h⟩ := bind_eq_ok.1 h
        obtain ⟨values, hvalues, h⟩ := bind_eq_ok.1 h
        cases h
        exact Or.inr ⟨_, hvalues⟩

/-- A draft sets columns that a request may set. -/
theorem settable_ofPayload (h : ofPayload s c isUpdate payload = .ok d) :
    ∀ v ∈ d.values, v.1 ∈ c.columns.map (·.name) ∧ c.isSettable v.1 = true := by
  rcases ofPayload_eq_ok h with hnone | ⟨members, hvalues⟩
  · intro v hv
    rw [hnone] at hv
    cases hv
  · exact Payload.settable_sanitize hvalues

/-- A draft leaves the columns of the system alone. -/
theorem find?_system (h : ofPayload s c isUpdate payload = .ok d) {name : String}
    (hname : name ∈ systemFields) : d.values.find? (fun v => v.1 == name) = none := by
  refine List.find?_eq_none.2 fun v hv heq => ?_
  obtain ⟨-, hsettable⟩ := settable_ofPayload h v hv
  rw [beq_iff_eq.1 heq] at hsettable
  simp [Collection.isSettable, hname] at hsettable

theorem not_mem_names_of_system (h : ofPayload s c isUpdate payload = .ok d) {name : String}
    (hname : name ∈ systemFields) : name ∉ d.names := by
  rw [names, List.mem_append, not_or]
  constructor
  · intro hmem
    obtain ⟨v, hv, rfl⟩ := List.mem_map.1 hmem
    simpa using List.find?_eq_none.1 (find?_system h hname) v hv
  · intro hmem
    obtain rfl : name = "password_hash" := by
      cases hhash : d.passwordHash <;> simp_all
    exact absurd hname (by decide)

end Draft

end CollectionQuery
