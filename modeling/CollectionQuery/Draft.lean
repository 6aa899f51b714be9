import CollectionQuery.Payload.UserFields
import CollectionQuery.Slug
import CollectionQuery.Store

/-!
# Drafts

A draft is what a payload sets in a row: values for columns, and for a user perhaps a new password
hash.  A new row without a slug gets one that no stored row of its collection has.
-/

namespace CollectionQuery

open CollectionQuery.Text

/-- What a payload sets in a row. -/
structure Draft where
  /-- The values of columns. -/
  values : List (String × Value)
  /-- The hash of a new password. -/
  passwordHash : Option PasswordHash := none

namespace Draft

/-- The names of the columns that are set. -/
def names (d : Draft) : List String :=
  d.values.map (·.1) ++ (d.passwordHash.map fun _ => "password_hash").toList

/-- The draft of a user. -/
def ofUser (isUpdate : Bool) (payload : Value) : Except Failure Draft := do
  let fields ← Payload.userFields (← Payload.members payload)
  if fields.passwordHash.isNone && !isUpdate then Payload.refuse .noPassword
  else
    Payload.checkNames .users ["password"] payload
    let values ←
      if fields.members.isEmpty && isUpdate then pure []
      else Payload.sanitize .users isUpdate (.object fields.members)
    if values.isEmpty && fields.passwordHash.isNone then Payload.refuse .noFields
    else pure ⟨values, fields.passwordHash⟩

/-- The column that a slug is made from, and what a slug is made of if nothing is left of that. -/
def slugSource? : Collection → Option (String × String)
  | .users => none
  | .categories => some ("name", "categorie")
  | .blogs => some ("title", "blog")
  | .events => some ("title", "event")
  | .resources => some ("title", "resource")

/-- The slugs of the stored rows of a collection. -/
def storedSlugs (s : Store) (c : Collection) : List String :=
  (s.rows c).filterMap fun row => match row.cell "slug" with
    | .text slug => some slug
    | _ => none

/-- A slug for a new row, made from a value. -/
def freshSlug (s : Store) (c : Collection) (source : Value) (fallback : String) :
    Except Failure String := do
  s.checkTables
  match Slug.unique? (storedSlugs s c) (Slug.ofValue source fallback) with
  | some slug => pure slug
  | none => Payload.refuse .noSlug

/-- Whether members give a slug that is not blank. -/
def givesSlug (members : List (String × Value)) : Bool :=
  strip (((Value.member? members "slug").getD .null).textOrEmpty) ≠ ""

/-- The members for a new row, with a slug. -/
def withSlug (s : Store) (c : Collection) (members : List (String × Value)) :
    Except Failure (List (String × Value)) :=
  match slugSource? c with
  | some (source, fallback) =>
    if givesSlug members then .ok members
    else do
      let slug ← freshSlug s c ((Value.member? members source).getD .null) fallback
      pure (Value.setMember members "slug" (.text slug))
  | none => .ok members

/-- The draft that a payload makes. -/
def ofPayload (s : Store) (c : Collection) (isUpdate : Bool) (payload : Value) :
    Except Failure Draft :=
  match c with
  | .users => ofUser isUpdate payload
  | c => do
    let given ← Payload.members payload
    let members ← if isUpdate then pure given else withSlug s c given
    Payload.checkNames c [] payload
    pure { values := ← Payload.sanitize c isUpdate (.object members) }

end Draft

end CollectionQuery
