import CollectionQuery.Failure
import CollectionQuery.Schema
import CollectionQuery.SortKey
import CollectionQuery.Text.Alphanumeric
import CollectionQuery.Text.LetterCase

/-!
# Names of collections

A collection may be named in words joined by dashes or by capitals: dashes become underscores, a
capital behind a letter or digit is set off by an underscore, and all letters become small ones.
-/

namespace CollectionQuery.Collection

open CollectionQuery.Text

/-- The characters of a name, each with the one in front of it. -/
def nameChars : (before : Option Char) → List Char → List Char
  | _, [] => []
  | before, c :: rest =>
    let setOff := isUpper c && (before.map isAlphanumeric).getD false
    (if setOff then ['_'] else []) ++ lowerChar c ++ nameChars (some c) rest

/-- The form of a name under which collections are known. -/
def normalizeName (name : String) : String :=
  String.ofList (nameChars none (replaceChar '-' ['_'] (strip name).toList))

def ofName? (name : String) : Option Collection :=
  let known := normalizeName name
  all.find? fun c => c.name == known

/-- The collection of a name, or the refusal if there is none. -/
def resolve (name : String) : Except Failure Collection :=
  match ofName? name with
  | some c => .ok c
  | none => .error (.refused .noCollection)

/-- The order of rows if a query gives none: the latest first, where the time is known. -/
def defaultOrder (columns : List Column) : List SortKey :=
  if columns.any fun column => column.name == "created_at" then [⟨[], "created_at", .descending⟩]
  else []

end CollectionQuery.Collection
