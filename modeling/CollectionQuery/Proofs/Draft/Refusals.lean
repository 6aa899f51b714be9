import CollectionQuery.Proofs.Cell.Binding
import CollectionQuery.Proofs.Draft
import CollectionQuery.Proofs.Failure
import CollectionQuery.Proofs.Json.Members
import CollectionQuery.Proofs.Schema

/-!
# Why a payload makes no draft

A payload that makes no draft is refused, as long as its password is not too long to be hashed and
has bytes: the names of its members, what may not be null, identifiers and the texts of dates are
all checked.  A
draft has a value for every column that the payload has a member for, and each was read by the kind
of its column.  So an identifier or the text of a date that cannot be read leaves no draft at all.
-/

namespace CollectionQuery

open CollectionQuery.Text CollectionQuery.Calendar

variable {s : Store} {c : Collection} {isUpdate : Bool} {payload : Value}

/-- Whether a failure is answered as a bad request. -/
def Failure.IsBadRequest (f : Failure) : Prop := f.status? = some 400

theorem Failure.IsBadRequest.isClient {f : Failure} (h : f.IsBadRequest) : f.IsClient := Or.inl h

namespace Payload

variable {α : Type}

theorem refuse_fails {cause : Refusal} (h : cause.status = 400) :
    FailsOnly Failure.IsBadRequest (refuse cause : Except Failure α) :=
  .of_error (congrArg some h)

theorem members_fails : FailsOnly Failure.IsBadRequest (members payload) := by
  cases payload with
  | object members => exact .of_ok _
  | mixed members => exact .of_ok _
  | _ => exact refuse_fails rfl

theorem checkNames_fails (c : Collection) (read : List String) :
    FailsOnly Failure.IsBadRequest (checkNames c read payload) := by
  cases payload with
  | mixed members => exact refuse_fails rfl
  | _ => exact .of_ok _

/-! ## Reading members -/

theorem readMember_of_isNull {column : Column} {v : Value} (h : v.isNull = false) :
    readMember column v = readValue column v := by
  rw [readMember, h]
  exact if_neg Bool.false_ne_true

theorem readValue_uuid {column : Column} (hkind : column.kind = .uuid) (v : Value) :
    readValue column v = (identifier column.name v).map .uuid := by
  obtain ⟨name, kind, nullable, unique, default⟩ := column
  obtain rfl : kind = .uuid := hkind
  rfl

theorem readValue_text {column : Column} {aware : Bool} (hkind : column.kind = .moment aware)
    (text : AnyText) :
    readValue column (.ofText text) = temporal (.moment aware) column.name text.shown := by
  obtain ⟨name, kind, nullable, unique, default⟩ := column
  obtain rfl : kind = .moment aware := hkind
  cases text <;> rfl

/-- A value that is no identifier is refused where one is wanted. -/
theorem readMember_uuid {column : Column} (hkind : column.kind = .uuid) {v : Value}
    (hnull : v.isNull = false) (huuid : v.isUuid = false) (hread : Uuid.ofText? v.toText = none) :
    readMember column v = refuse (.notIdentifier column.name) := by
  have hidentifier : identifier column.name v = refuse (.notIdentifier column.name) := by
    unfold identifier
    split
    · cases huuid
    · rw [hread]
  rw [readMember_of_isNull hnull, readValue_uuid hkind, hidentifier]
  rfl

/-- A text that is no date is refused where one is wanted. -/
theorem readMember_moment {column : Column} {aware : Bool} (hkind : column.kind = .moment aware)
    {text : AnyText}
    (hread : Timestamp.ofIso? (Coercion.zuluAsOffset (strip text.shown)) = none) :
    readMember column (.ofText text) = refuse (.notDate column.name) := by
  have hnull : (Value.ofText text).isNull = false := by cases text <;> rfl
  rw [readMember_of_isNull hnull, readValue_text hkind, temporal, timestamp, hread]
  rfl

/-- What is neither a text nor null is left as it is in a column of dates. -/
theorem readMember_otherDate {column : Column} {aware : Bool} (hkind : column.kind = .moment aware)
    {v : Value} (hnull : v.isNull = false) (htext : ∀ text, v ≠ .ofText text) :
    readMember column v = .ok v := by
  rw [readMember_of_isNull hnull]
  obtain ⟨name, kind, nullable, unique, default⟩ := column
  obtain rfl : kind = .moment aware := hkind
  cases v with
  | text text => exact absurd rfl (htext text)
  | unpaired text => exact absurd rfl (htext text)
  | _ => rfl

theorem identifier_fails (name : String) (v : Value) :
    FailsOnly Failure.IsBadRequest (identifier name v) := by
  unfold identifier
  split
  · exact .of_ok _
  · split
    · exact .of_ok _
    · exact refuse_fails rfl

theorem timestamp_fails (name text : String) :
    FailsOnly Failure.IsBadRequest (timestamp name text) := by
  unfold timestamp
  split
  · exact .of_ok _
  · exact refuse_fails rfl

theorem readMember_fails (column : Column) (v : Value) :
    FailsOnly Failure.IsBadRequest (readMember column v) := by
  unfold readMember
  refine .ite (fun _ => .ite (fun _ => .of_ok _) fun _ => refuse_fails rfl) fun _ => ?_
  have htemporal (kind : ColumnKind) (text : String) :
      FailsOnly Failure.IsBadRequest (temporal kind column.name text) :=
    (timestamp_fails _ _).bind fun t _ => .of_ok _
  unfold readValue
  split
  · exact (identifier_fails _ _).map _
  · exact htemporal _ _
  · exact htemporal _ _
  · exact htemporal _ _
  · exact htemporal _ _
  · exact .of_ok _

theorem readMembers_fails (given : List (String × Value)) :
    FailsOnly Failure.IsBadRequest (readMembers c given) := by
  induction given with
  | nil => exact .of_ok _
  | cons m rest ih =>
      obtain ⟨name, v⟩ := m
      rw [readMembers]
      split
      · exact (readMember_fails _ v).bind fun first _ => ih.bind fun more _ => .of_ok _
      · exact refuse_fails rfl

theorem sanitize_fails : FailsOnly Failure.IsBadRequest (sanitize c isUpdate payload) := by
  refine members_fails.bind fun given _ => ?_
  dsimp only
  split
  · refine (readMembers_fails given).bind fun read _ => .ite (fun _ => ?_) fun _ => ?_
    · exact .ite (fun _ => refuse_fails rfl) fun _ => .of_ok _
    · split
      · exact .of_ok _
      · exact refuse_fails rfl
  · exact refuse_fails rfl

/-- A member is read by the column of its name. -/
theorem member?_readMembers {given values : List (String × Value)} {name : String} {v : Value}
    (h : readMembers c given = .ok values) (hv : Value.member? given name = some v) :
    ∃ column ∈ c.columns, column.name = name ∧ ∃ w, readMember column v = .ok w ∧
      Value.member? values name = some w := by
  have hread := readMembers_eq_ok h
  clear h
  induction hread with
  | nil => cases hv
  | @cons m w given values hm _ ih =>
      obtain ⟨first, value⟩ := m
      obtain ⟨other, w⟩ := w
      obtain ⟨rfl, column, hcolumn, rfl, hw⟩ := hm
      rw [Value.member?_cons] at hv ⊢
      by_cases hname : column.name = name
      · rw [if_pos hname] at hv ⊢
        cases hv
        exact ⟨column, hcolumn, hname, w, hw, rfl⟩
      · rw [if_neg hname] at hv ⊢
        exact ih hv

end Payload

/-! ## Users -/

namespace Value

variable {members : List (String × Value)} {name other : String}

theorem member?_eraseMember_of_ne (h : other ≠ name) :
    member? (eraseMember members name) other = member? members other := by
  induction members with
  | nil => rfl
  | cons m rest ih =>
      obtain ⟨first, value⟩ := m
      rw [member?_cons, ← ih, eraseMember, eraseMember]
      by_cases hfirst : first = name
      · subst hfirst
        simp [h.symm]
      · simp [member?_cons, hfirst]

end Value

namespace Payload

variable {members : List (String × Value)}

/-- Whether the password of a payload, if there is one, is short enough to be hashed. -/
def FitsHashing (payload : Value) : Prop :=
  ∀ given v, Payload.members payload = .ok given → Value.member? given "password" = some v →
    v.anyText.strip.shown.length ≤ maxPasswordLength

/-- Whether members ask for the hash of a password that has no bytes. -/
def AsksUnhashable (members : List (String × Value)) : Prop :=
  Value.member? members "password_hash" = none ∧
    ∃ v, Value.member? members "password" = some v ∧ v.anyText.strip.isWhole = false

theorem passwordHash_fails {v : Value} (hfits : v.anyText.strip.shown.length ≤ maxPasswordLength)
    (h : v.anyText.strip.isWhole = true) : FailsOnly Failure.IsBadRequest (passwordHash v) := by
  unfold passwordHash
  refine .ite (fun _ => refuse_fails rfl) fun _ => .ite (fun hlong => ?_) fun _ => ?_
  · exact absurd hfits (Nat.not_le.2 hlong)
  · split
    · exact .of_ok _
    · next hunpaired =>
        rw [hunpaired] at h
        cases h

theorem passwordHash_unpaired {v : Value}
    (hfits : v.anyText.strip.shown.length ≤ maxPasswordLength)
    (h : v.anyText.strip.isWhole = false) : passwordHash v = .error (.fault .unencodable) := by
  unfold passwordHash
  cases htext : v.anyText.strip with
  | whole text =>
      rw [htext] at h
      cases h
  | unpaired t =>
      rw [htext] at hfits
      simp only [reduceCtorEq, if_false, if_neg (Nat.not_lt.2 hfits)]

theorem replaceMember_fails {name : String} {read : Value → Except Failure AnyText}
    (h : ∀ v, FailsOnly Failure.IsBadRequest (read v)) :
    FailsOnly Failure.IsBadRequest (replaceMember name read members) := by
  unfold replaceMember
  split
  · exact (h _).bind fun text _ => .of_ok _
  · exact .of_ok _

theorem role_fails (v : Value) : FailsOnly Failure.IsBadRequest (role v) := by
  rw [role]
  split
  · exact .of_ok _
  · exact refuse_fails rfl

theorem email_fails (v : Value) : FailsOnly Failure.IsBadRequest (email v) := by
  unfold email
  split
  · exact .of_ok _
  · exact .ite (fun _ => refuse_fails rfl) fun _ => .of_ok _

/-- The fields of a user are there or refused, unless the password has no bytes. -/
theorem userFields_fails (hfits : ∀ v, Value.member? members "password" = some v →
    v.anyText.strip.shown.length ≤ maxPasswordLength) (h : ¬ AsksUnhashable members) :
    FailsOnly Failure.IsBadRequest (userFields members) := by
  unfold userFields
  refine .ite (fun _ => refuse_fails rfl) fun hhash => ?_
  have hrest (hash : Option PasswordHash) : FailsOnly Failure.IsBadRequest (do
      let members ← replaceMember "role" role (Value.eraseMember members "password")
      let members ← replaceMember "email" email members
      pure (⟨members, hash⟩ : UserFields)) :=
    (replaceMember_fails role_fails).bind fun _ _ =>
      (replaceMember_fails email_fails).bind fun _ _ => .of_ok _
  dsimp only
  split
  · next v hv =>
      have hwhole : v.anyText.strip.isWhole = true := by
        by_contra hunpaired
        exact h ⟨by simpa using hhash, v, hv, Bool.eq_false_iff.2 hunpaired⟩
      exact ((passwordHash_fails (hfits v hv) hwhole).map some).bind fun hash _ => hrest hash
  · exact hrest none

theorem userFields_unhashable (hfits : ∀ v, Value.member? members "password" = some v →
    v.anyText.strip.shown.length ≤ maxPasswordLength) (h : AsksUnhashable members) :
    userFields members = .error (.fault .unencodable) := by
  obtain ⟨hnone, v, hv, hunpaired⟩ := h
  rw [userFields, hnone]
  simp only [Option.isSome_none, Bool.false_eq_true, if_false, hv, bind, Except.bind,
    passwordHash_unpaired (hfits v hv) hunpaired, Except.map]

theorem member?_replaceMember {name other : String} {read : Value → Except Failure AnyText}
    {out : List (String × Value)} (h : replaceMember name read members = .ok out)
    (hother : other ≠ name) : Value.member? out other = Value.member? members other := by
  rw [replaceMember] at h
  split at h
  · obtain ⟨text, -, h⟩ := bind_eq_ok.1 h
    cases h
    exact Value.member?_setMember_of_ne hother _
  · cases h
    rfl

/-- The fields of a user keep all members but three. -/
theorem member?_userFields {fields : UserFields} (h : userFields members = .ok fields)
    {name : String} (hname : name ∉ ["password", "role", "email"]) :
    Value.member? fields.members name = Value.member? members name := by
  simp only [List.mem_cons, List.not_mem_nil, or_false, not_or] at hname
  obtain ⟨hpassword, hrole, hemail⟩ := hname
  rw [userFields] at h
  dsimp only at h
  split at h
  · cases h
  · split at h
    all_goals
      obtain ⟨hash, -, h⟩ := bind_eq_ok.1 h
      obtain ⟨withRole, hwithRole, h⟩ := bind_eq_ok.1 h
      obtain ⟨withEmail, hwithEmail, h⟩ := bind_eq_ok.1 h
      cases h
      rw [member?_replaceMember hwithEmail hemail, member?_replaceMember hwithRole hrole,
        Value.member?_eraseMember_of_ne hpassword]

end Payload

/-! ## Drafts -/

namespace Draft

variable {d : Draft} {members : List (String × Value)}

theorem withSlug_fails (hs : s.present = true) :
    FailsOnly Failure.IsBadRequest (withSlug s c members) := by
  unfold withSlug
  split
  · refine .ite (fun _ => .of_ok _) fun _ => ?_
    have hslug (source : Value) (fallback : String) :
        FailsOnly Failure.IsBadRequest (freshSlug s c source fallback) := by
      unfold freshSlug
      rw [Store.checkTables, if_pos hs]
      refine FailsOnly.bind (.of_ok _) fun _ _ => ?_
      split
      · exact .of_ok _
      · exact Payload.refuse_fails rfl
    exact (hslug _ _).bind fun slug _ => .of_ok _
  · exact .of_ok _

theorem ofMembers_fails : FailsOnly Failure.IsBadRequest (do
    Payload.checkNames c [] payload
    pure { values := ← Payload.sanitize c isUpdate (.object members) } : Except Failure Draft) :=
  (Payload.checkNames_fails _ _).bind fun _ _ =>
    Payload.sanitize_fails.bind fun _ _ => .of_ok _

theorem ofUser_fails (hfits : Payload.FitsHashing payload)
    (h : ∀ given, Payload.members payload = .ok given → ¬ Payload.AsksUnhashable given) :
    FailsOnly Failure.IsBadRequest (ofUser isUpdate payload) := by
  unfold ofUser
  refine Payload.members_fails.bind fun given hgiven => ?_
  refine (Payload.userFields_fails (fun v => hfits given v hgiven) (h given hgiven)).bind
    fun fields _ => ?_
  dsimp only
  refine .ite (fun _ => Payload.refuse_fails rfl) fun _ => ?_
  have hrest (values : List (String × Value)) : FailsOnly Failure.IsBadRequest
      (if values.isEmpty && fields.passwordHash.isNone then Payload.refuse .noFields
        else (pure ⟨values, fields.passwordHash⟩ : Except Failure Draft)) :=
    .ite (fun _ => Payload.refuse_fails rfl) fun _ => .of_ok _
  refine (Payload.checkNames_fails _ _).bind fun _ _ => ?_
  split
  · exact hrest []
  · exact Payload.sanitize_fails.bind fun values _ => hrest values

/-- Whether a payload for a collection asks for the hash of a password that has no bytes. -/
def Unhashable (c : Collection) (payload : Value) : Prop :=
  c = .users ∧ ∃ given, Payload.members payload = .ok given ∧ Payload.AsksUnhashable given

/-- A payload that makes no draft is refused, unless its password has no bytes. -/
theorem ofPayload_fails (hs : s.present = true) (hfits : Payload.FitsHashing payload)
    (h : ¬ Unhashable c payload) :
    FailsOnly Failure.IsBadRequest (ofPayload s c isUpdate payload) := by
  cases c with
  | users => exact ofUser_fails hfits fun given hgiven hasks => h ⟨rfl, given, hgiven, hasks⟩
  | _ =>
      refine Payload.members_fails.bind fun given _ => ?_
      dsimp only
      split
      · exact FailsOnly.bind (.of_ok _) fun members _ => ofMembers_fails
      · exact (withSlug_fails hs).bind fun members _ => ofMembers_fails

theorem ofPayload_unhashable (hfits : Payload.FitsHashing payload) (h : Unhashable c payload)
    (s : Store) (isUpdate : Bool) :
    ofPayload s c isUpdate payload = .error (.fault .unencodable) := by
  obtain ⟨rfl, given, hgiven, hasks⟩ := h
  rw [ofPayload, ofUser, hgiven]
  simp only [bind, Except.bind, Payload.userFields_unhashable (fun v => hfits given v hgiven) hasks]

theorem member?_withSlug {out : List (String × Value)} (h : withSlug s c members = .ok out)
    {name : String} (hname : name ≠ "slug") :
    Value.member? out name = Value.member? members name := by
  rw [withSlug] at h
  split at h
  · split at h
    · cases h
      rfl
    · obtain ⟨slug, -, h⟩ := bind_eq_ok.1 h
      cases h
      exact Value.member?_setMember_of_ne hname _
  · cases h
    rfl

theorem member?_sanitize {given values : List (String × Value)}
    (h : Payload.sanitize c isUpdate (.object given) = .ok values) {name : String} {v : Value}
    (hv : Value.member? given name = some v) :
    ∃ column ∈ c.columns, column.name = name ∧ ∃ w, Payload.readMember column v = .ok w ∧
      Value.member? values name = some w :=
  Payload.member?_readMembers (Payload.sanitize_eq_ok h).1 hv

/-- The columns whose values are not simply those of the members of their names. -/
def derivedNames : List String := ["password", "role", "email", "slug"]

theorem member?_ofUser (h : ofUser isUpdate (.object members) = .ok d) {name : String}
    (hname : name ∉ ["password", "role", "email"]) {v : Value}
    (hv : Value.member? members name = some v) :
    ∃ column ∈ Collection.users.columns, column.name = name ∧
      ∃ w, Payload.readMember column v = .ok w ∧ Value.member? d.values name = some w := by
  obtain ⟨_, hgiven, h⟩ := bind_eq_ok.1 h
  cases hgiven
  obtain ⟨fields, hfields, h⟩ := bind_eq_ok.1 h
  rw [← Payload.member?_userFields hfields hname] at hv
  dsimp only at h
  split at h
  · cases h
  · obtain ⟨-, -, h⟩ := bind_eq_ok.1 h
    split at h
    · next hempty =>
        rw [Bool.and_eq_true, List.isEmpty_iff] at hempty
        rw [hempty.1] at hv
        cases hv
    · obtain ⟨values, hvalues, h⟩ := bind_eq_ok.1 h
      split at h
      · cases h
      · cases h
        exact member?_sanitize hvalues hv

/-- A draft has what was read from a member in the column of its name. -/
theorem member?_ofPayload (h : ofPayload s c isUpdate (.object members) = .ok d) {name : String}
    (hname : name ∉ derivedNames) {v : Value} (hv : Value.member? members name = some v) :
    ∃ column ∈ c.columns, column.name = name ∧ ∃ w, Payload.readMember column v = .ok w ∧
      Value.member? d.values name = some w := by
  simp only [derivedNames, List.mem_cons, List.not_mem_nil, or_false, not_or] at hname
  obtain ⟨hpassword, hrole, hemail, hslug⟩ := hname
  cases c with
  | users => exact member?_ofUser h (by simp [hpassword, hrole, hemail]) hv
  | _ =>
      obtain ⟨_, hgiven, h⟩ := bind_eq_ok.1 h
      cases hgiven
      dsimp only at h
      split at h
      · obtain ⟨given, hgiven, h⟩ := bind_eq_ok.1 h
        obtain ⟨-, -, h⟩ := bind_eq_ok.1 h
        obtain ⟨values, hvalues, h⟩ := bind_eq_ok.1 h
        cases h
        rw [← pure_eq_ok.1 hgiven] at hvalues
        exact member?_sanitize hvalues hv
      · obtain ⟨given, hgiven, h⟩ := bind_eq_ok.1 h
        obtain ⟨-, -, h⟩ := bind_eq_ok.1 h
        obtain ⟨values, hvalues, h⟩ := bind_eq_ok.1 h
        cases h
        rw [← member?_withSlug hgiven hslug] at hv
        exact member?_sanitize hvalues hv

end Draft

end CollectionQuery
