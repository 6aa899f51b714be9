import CollectionQuery.Value

/-!
# The collections

The five collections with their columns and relations.  Some columns are never shown.  A collection
is either private or has a public scope, the conditions that a row has to meet to be shown to
everyone.

A relation leads from a row to the rows of another collection by a key: to one row whose identifier
is in a column of this row, or to the many rows that hold this row's identifier in a column.
-/

namespace CollectionQuery

/-- The type of a column. -/
inductive ColumnKind where
  /-- Text, at most so many characters long if a length is given. -/
  | text (length : Option Nat)
  | boolean
  /-- An integer of so many bits, the sign included. -/
  | integer (bits : Nat)
  | float
  | numeric
  | date
  /-- A date with a time, with an offset from universal time if it is aware. -/
  | moment (aware : Bool)
  | uuid
  | json
deriving DecidableEq

/-- The name of a type in the description of a collection. -/
def ColumnKind.label : ColumnKind → String
  | .text _ => "text"
  | .boolean => "boolean"
  | .integer _ => "number"
  | .float => "number"
  | .numeric => "number"
  | .date => "date"
  | .moment _ => "datetime"
  | .uuid => "uuid"
  | .json => "json"

/-- Whether a column holds texts. -/
def ColumnKind.isText : ColumnKind → Bool
  | .text _ => true
  | _ => false

/-- Whether a column holds dates with times. -/
def ColumnKind.isMoment : ColumnKind → Bool
  | .moment _ => true
  | _ => false

/-- What a new row has in a column if nothing is given. -/
inductive ColumnDefault where
  | none
  | fixed (value : Value)
  | freshId
  /-- The time of the operation. -/
  | now
deriving Inhabited

/-- Whether there is a default other than null. -/
def ColumnDefault.isSome : ColumnDefault → Bool
  | .none => false
  | _ => true

/-- A column. -/
structure Column where
  name : String
  kind : ColumnKind
  /-- Whether the column may be null. -/
  nullable : Bool := false
  /-- Whether no two rows may have the same value. -/
  unique : Bool := false
  /-- What a new row has if nothing is given. -/
  default : ColumnDefault := .none

/-- A collection. -/
inductive Collection where
  /-- The people who sign in. -/
  | users
  /-- The categories of resources. -/
  | categories
  /-- Articles, each by one user. -/
  | blogs
  | events
  /-- Files to download, each in at most one category. -/
  | resources
deriving DecidableEq, Inhabited

/-- A relation to the rows of a collection. -/
structure Relation where
  name : String
  /-- The collection that it leads to. -/
  target : Collection
  /-- Whether it leads to many rows. -/
  many : Bool
  /-- The column with the identifier: of the target if it leads to many rows, else of this row. -/
  key : String
deriving DecidableEq

/-- The relations that lead to many rows hold no column of this row but its identifier. -/
def Relation.localColumn (r : Relation) : String := if r.many then "id" else r.key

/-- The columns that every collection has at the end. -/
def systemColumns : List Column := [
  { name := "id", kind := .uuid, default := .freshId },
  { name := "created_at", kind := .moment true, default := .now },
  { name := "updated_at", kind := .moment true, default := .now }]

/-- The names of the columns that no request sets. -/
def systemFields : List String := ["id", "created_at", "updated_at"]

namespace Collection

def all : List Collection := [users, categories, blogs, events, resources]

def name : Collection → String
  | users => "users"
  | categories => "categories"
  | blogs => "blogs"
  | events => "events"
  | resources => "resources"

/-- A text column of at most 255 characters. -/
def shortText (name : String) (nullable unique : Bool) : Column :=
  { name, kind := .text (some 255), nullable, unique }

/-- A truth value with a default. -/
def flag (name : String) (default : Bool) : Column :=
  { name, kind := .boolean, default := .fixed (.bool default) }

/-- The columns of a collection apart from those that all have. -/
def ownColumns : Collection → List Column
  | users => [
      shortText "email" false true,
      shortText "password_hash" false false,
      shortText "name" true false,
      shortText "avatar" true false,
      { name := "phone", kind := .text (some 20), nullable := true, unique := true },
      shortText "bio" true false,
      flag "verified" false,
      { name := "role", kind := .text (some 20), default := .fixed (.text "USER") },
      { name := "last_login_at", kind := .moment true, nullable := true }]
  | categories => [
      shortText "name" false true,
      shortText "slug" false true,
      { name := "description", kind := .text none, nullable := true }]
  | blogs => [
      shortText "title" false false,
      { name := "content", kind := .text none },
      shortText "slug" true false,
      flag "published" true,
      { name := "author_id", kind := .uuid }]
  | events => [
      shortText "title" false false,
      shortText "slug" false true,
      { name := "description", kind := .text none },
      shortText "location" true false,
      { name := "start_date", kind := .moment false },
      { name := "end_date", kind := .moment false, nullable := true },
      shortText "registration_url" true false,
      flag "published" true,
      flag "featured" false]
  | resources => [
      shortText "title" false false,
      shortText "slug" false true,
      { name := "description", kind := .text none },
      { name := "type", kind := .text (some 100) },
      { name := "file_url", kind := .text (some 500) },
      shortText "thumbnail_url" true false,
      { name := "file_size", kind := .integer 64, nullable := true },
      { name := "category_id", kind := .uuid, nullable := true },
      flag "published" true,
      { name := "download_count", kind := .integer 32, default := .fixed (.int 0) }]

def columns (c : Collection) : List Column := c.ownColumns ++ systemColumns

def relations : Collection → List Relation
  | users => [⟨"blogs", blogs, true, "author_id"⟩]
  | categories => [⟨"resources", resources, true, "category_id"⟩]
  | blogs => [⟨"author", users, false, "author_id"⟩]
  | events => []
  | resources => [⟨"category", categories, false, "category_id"⟩]

/-- The columns that are never shown, searched or sorted by. -/
def hiddenFields : Collection → List String
  | users => ["password_hash"]
  | _ => []

/-- The fields that are searched if a query names none. -/
def searchFields : Collection → List String
  | events => ["title", "description", "location"]
  | resources => ["title", "description"]
  | _ => []

/-- The values that a row has to have to be shown to everyone, or nothing for a private
collection. -/
def publicScope : Collection → Option (List (String × Bool))
  | users => none
  | categories => some []
  | blogs => some [("published", true)]
  | events => some [("published", true)]
  | resources => some [("published", true)]

/-- Whether a collection has a public scope. -/
def isPublic (c : Collection) : Bool := c.publicScope.isSome

/-- The columns that are shown. -/
def visibleColumns (c : Collection) : List Column :=
  c.columns.filter fun column => column.name ∉ c.hiddenFields

def visibleColumn? (c : Collection) (name : String) : Option Column :=
  c.visibleColumns.find? fun column => column.name == name

def column? (c : Collection) (name : String) : Option Column :=
  c.columns.find? fun column => column.name == name

def relation? (c : Collection) (name : String) : Option Relation :=
  c.relations.find? fun relation => relation.name == name

end Collection

end CollectionQuery
