import CollectionQuery.Proofs.Draft
import CollectionQuery.Proofs.Schema

/-!
# The texts of users

The e-mail address and the role in a payload are replaced by texts in one form before anything else
looks at them, and a text is stored as it is.  So a draft for a user sets these columns to nothing
else that can be stored.
-/

namespace CollectionQuery

open CollectionQuery.Text

namespace Value

variable {members : List (String × Value)} {name : String} {value : Value} {m : String × Value}

/-- A member that was set has the value that it was set to, and the others are as before. -/
theorem mem_setMember (h : m ∈ setMember members name value) :
    m = (name, value) ∨ (m ∈ members ∧ m.1 ≠ name) := by
  rw [setMember] at h
  split at h
  · obtain ⟨given, hgiven, rfl⟩ := List.mem_map.1 h
    split
    · exact Or.inl rfl
    · next hne => exact Or.inr ⟨hgiven, by simpa using hne⟩
  · next hnone =>
      rcases List.mem_append.1 h with h | h
      · refine Or.inr ⟨h, fun heq => hnone (List.any_eq_true.2 ⟨m, h, ?_⟩)⟩
        exact beq_iff_eq.2 heq
      · exact Or.inl (List.mem_singleton.1 h)

/-- Whether a value is a text, of a form if it has no half of a surrogate pair. -/
def IsTextIn (form : String → Prop) (v : Value) : Prop :=
  ∃ text : AnyText, v = .ofText text ∧ ∀ s, text = .whole s → form s

end Value

namespace Payload

/-! ## Texts in one form -/

/-- Whether a text is an e-mail address as it is stored: not empty, and stripped and lowered. -/
def IsEmail (text : String) : Prop := text ≠ "" ∧ ∃ raw, text = lower (strip raw)

theorem email_eq_ok {v : Value} {text : AnyText} (h : email v = .ok text) {s : String}
    (hs : text = .whole s) : IsEmail s := by
  subst hs
  unfold email at h
  split at h
  · cases h
  · dsimp only at h
    split at h
    · cases h
    · next hne => exact AnyText.whole.inj (Except.ok.inj h) ▸ ⟨hne, _, rfl⟩

theorem role_eq_ok {v : Value} {text : AnyText} (h : role v = .ok text) {s : String}
    (hs : text = .whole s) : s ∈ roles := by
  subst hs
  rw [role] at h
  split at h
  · next hmem => exact AnyText.whole.inj (Except.ok.inj h) ▸ hmem
  · cases h

/-- What is left of members when one is replaced by a text made from it. -/
theorem replaceMember_eq_ok {name : String} {read : Value → Except Failure AnyText}
    {members out : List (String × Value)} (h : replaceMember name read members = .ok out) :
    ∀ m ∈ out, (m.1 = name ∧ ∃ v text, read v = .ok text ∧ m.2 = .ofText text) ∨
      (m ∈ members ∧ m.1 ≠ name) := by
  rw [replaceMember] at h
  intro m hm
  split at h
  · obtain ⟨text, htext, h⟩ := bind_eq_ok.1 h
    cases h
    refine (Value.mem_setMember hm).imp_left ?_
    rintro rfl
    exact ⟨rfl, _, text, htext, rfl⟩
  · next hnone =>
      cases h
      refine Or.inr ⟨hm, fun hname => ?_⟩
      simp only [Value.member?, Option.map_eq_none_iff, List.find?_eq_none] at hnone
      exact hnone m hm (beq_iff_eq.2 hname)

/-- The e-mail address and the role of a user have one form. -/
theorem userFields_eq_ok {members : List (String × Value)} {fields : UserFields}
    (h : userFields members = .ok fields) :
    ∀ m ∈ fields.members,
      (m.1 = "email" → m.2.IsTextIn IsEmail) ∧ (m.1 = "role" → m.2.IsTextIn (· ∈ roles)) := by
  obtain ⟨withRole, hrole, hemail⟩ : ∃ withRole,
      replaceMember "role" role (Value.eraseMember members "password") = .ok withRole ∧
        replaceMember "email" email withRole = .ok fields.members := by
    rw [userFields] at h
    dsimp only at h
    split at h
    · cases h
    · split at h
      all_goals
        obtain ⟨hash, -, h⟩ := bind_eq_ok.1 h
        obtain ⟨withRole, hrole, h⟩ := bind_eq_ok.1 h
        obtain ⟨withEmail, hemail, h⟩ := bind_eq_ok.1 h
        cases h
        exact ⟨withRole, hrole, hemail⟩
  intro m hm
  rcases replaceMember_eq_ok hemail m hm with ⟨hname, v, text, htext, hm⟩ | ⟨hm, hne⟩
  · refine ⟨fun _ => ⟨text, hm, fun _ => email_eq_ok htext⟩, fun hrole => ?_⟩
    rw [hname] at hrole
    exact absurd hrole (by decide)
  · refine ⟨fun hemail => absurd hemail hne, fun hname => ?_⟩
    rcases replaceMember_eq_ok hrole m hm with ⟨-, v, text, htext, hm⟩ | ⟨-, hne⟩
    · exact ⟨text, hm, fun _ => role_eq_ok htext⟩
    · exact absurd hname hne

/-- A text is read as it is in a column of texts. -/
theorem readMember_text {column : Column} {length : Option Nat} (hkind : column.kind = .text length)
    (text : AnyText) : readMember column (.ofText text) = .ok (.ofText text) := by
  obtain ⟨name, kind, nullable, unique, default⟩ := column
  obtain rfl : kind = .text length := hkind
  cases text <;> rfl

end Payload

/-! ## Drafts of users -/

namespace Draft

variable {isUpdate : Bool} {payload : Value} {d : Draft}

/-- A draft sets a user's e-mail address and role to texts in one form. -/
theorem texts_ofUser (h : ofUser isUpdate payload = .ok d) :
    ∀ v ∈ d.values,
      (v.1 = "email" → v.2.IsTextIn Payload.IsEmail) ∧
      (v.1 = "role" → v.2.IsTextIn (· ∈ Payload.roles)) := by
  obtain ⟨given, fields, hfields, hnone | hvalues⟩ := ofUser_eq_ok h
  · intro v hv
    rw [hnone] at hv
    cases hv
  · intro v hv
    obtain ⟨m, hm, hname, column, hcolumn, hcname, hvalue⟩ :=
      (Payload.readMembers_eq_ok (Payload.sanitize_eq_ok hvalues).1).exists_of_mem_right v hv
    obtain ⟨hemail, hrole⟩ := Payload.userFields_eq_ok hfields m hm
    have hkept : ∀ text, m.2 = .ofText text → v.1 ∈ ["email", "role"] → v.2 = .ofText text := by
      intro text hm hmem
      obtain ⟨length, hkind⟩ := Collection.kind_of_userText hcolumn (hcname ▸ hmem)
      rw [hm, Payload.readMember_text hkind] at hvalue
      exact (Except.ok.inj hvalue).symm
    constructor
    · intro hv
      obtain ⟨text, hm, htext⟩ := hemail (hname.trans hv)
      exact ⟨text, hkept text hm (by simp [hv]), htext⟩
    · intro hv
      obtain ⟨text, hm, htext⟩ := hrole (hname.trans hv)
      exact ⟨text, hkept text hm (by simp [hv]), htext⟩

end Draft

end CollectionQuery
