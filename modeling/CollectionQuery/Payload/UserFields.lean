import CollectionQuery.Cell
import CollectionQuery.Payload
import CollectionQuery.Text.LetterCase

/-!
# The fields of users

A payload for a user gives a password, never its hash.  The password is stripped and hashed, the
role is written in capitals, and the e-mail address in small letters.
-/

namespace CollectionQuery.Payload

open CollectionQuery.Text

/-- A user's payload with the password taken out. -/
structure UserFields where
  /-- The other members. -/
  members : List (String × Value)
  /-- The hash of the password, if one was given. -/
  passwordHash : Option PasswordHash

/-- The greatest length of a password. -/
def maxPasswordLength : Nat := 4096

/-- The roles of users. -/
def roles : List String := ["USER", "ADMIN", "EDITOR"]

/-- The hash of a password that a payload gives. -/
def passwordHash (v : Value) : Except Failure PasswordHash :=
  let text := v.anyText.strip
  if text = .whole "" then refuse .emptyPassword
  else if maxPasswordLength < text.shown.length then .error (.fault .passwordSize)
  else match text with
    | .whole text => .ok (.of text)
    | .unpaired _ => .error (.fault .unencodable)

/-- Whether a password is the one of a hash; one that is too long is refused. -/
def verify (h : PasswordHash) (password : String) : Except Failure Bool :=
  if maxPasswordLength < password.length then .error (.fault .passwordSize)
  else .ok (h.verifies password)

/-- The role that a payload gives. -/
def role (v : Value) : Except Failure AnyText :=
  let text := upper (strip v.textOrEmpty)
  if text ∈ roles then .ok text else refuse .role

/-- The e-mail address that a payload gives.  One with half a surrogate pair cannot be stored, in
letters of either case. -/
def email : Value → Except Failure AnyText
  | .unpaired t => .ok t
  | v =>
    let text := lower (strip v.textOrEmpty)
    if text = "" then refuse .emptyEmail else .ok text

/-- The members with one of them, if it is there, replaced by a text that is made from it. -/
def replaceMember (name : String) (read : Value → Except Failure AnyText)
    (members : List (String × Value)) : Except Failure (List (String × Value)) :=
  match Value.member? members name with
  | some v => return Value.setMember members name (.ofText (← read v))
  | none => .ok members

/-- The fields of a user. -/
def userFields (members : List (String × Value)) : Except Failure UserFields := do
  if (Value.member? members "password_hash").isSome then refuse (.readOnly "password_hash")
  else
    let hash ← match Value.member? members "password" with
      | some v => (passwordHash v).map some
      | none => pure none
    let members ← replaceMember "role" role (Value.eraseMember members "password")
    let members ← replaceMember "email" email members
    pure ⟨members, hash⟩

end CollectionQuery.Payload
