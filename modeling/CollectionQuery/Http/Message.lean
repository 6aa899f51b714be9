import CollectionQuery.Json.Writer
import CollectionQuery.Number.Binary64
import CollectionQuery.Value

/-!
# Requests and responses

A request has a decoded path, the text of its query, headers with names in small letters, and a text
as its body.  A response has a status, headers, and a JSON document or a plain text as its content.
-/

namespace CollectionQuery.Http

/-- The headers of a message, names in small letters. -/
abbrev Headers := List (String × String)

/-- The value of a header. -/
def Headers.get? (headers : Headers) (name : String) : Option String :=
  (headers.find? fun h => h.1 == name).map (·.2)

/-- Headers with one of them set: in its place if it is there, else at the end. -/
def Headers.set (headers : Headers) (name value : String) : Headers :=
  if headers.any fun h => h.1 == name then
    headers.map fun h => if h.1 == name then (name, value) else h
  else headers ++ [(name, value)]

/-- A request. -/
structure Request where
  /-- The method, in capitals. -/
  method : String
  /-- The path, with escaped characters read. -/
  path : String
  /-- The text of the query, without the question mark. -/
  query : String := ""
  headers : Headers := []
  body : String := ""

/-- What a response holds. -/
inductive Content where
  /-- A JSON document. -/
  | document (v : Value)
  /-- A plain text. -/
  | text (s : String)

/-- A response. -/
structure Response where
  status : Nat
  headers : Headers
  content : Content

namespace Response

/-- A response with a JSON document. -/
def json (status : Nat) (v : Value) : Response :=
  ⟨status, [("content-type", "application/json")], .document v⟩

/-- A response with a page to look at, whose content is not told. -/
def page (status : Nat) : Response :=
  ⟨status, [("content-type", "text/html; charset=utf-8")], .text ""⟩

/-- A response with a plain text. -/
def plain (status : Nat) (s : String) : Response :=
  ⟨status, [("content-type", "text/plain; charset=utf-8")], .text s⟩

/-- A response that says in one text why a request failed. -/
def detail (status : Nat) (s : String) : Response := json status (.object [("detail", .text s)])

/-- The response to a request that met a fault. -/
def serverError : Response := plain 500 "Internal Server Error"

/-- A response with several headers set. -/
def withHeaders (r : Response) (headers : Headers) : Response :=
  { r with headers := headers.foldl (fun all h => all.set h.1 h.2) r.headers }

end Response

mutual

/-- Whether a value can be written as JSON: no floating point number in it is an infinity or nan,
and no text has half a surrogate pair. -/
def isWritable : Value → Bool
  | .float x => x.isFinite
  | .list items => areWritable items
  | .tuple items => areWritable items
  | .object members => membersAreWritable members
  | .null => true
  | .bool _ => true
  | .int _ => true
  | .decimal _ => true
  | .text _ => true
  | .unpaired _ => false
  | .mixed _ => false
  | .date _ => true
  | .moment _ => true
  | .uuid _ => true

/-- Whether all values of a list can be written as JSON. -/
def areWritable : List Value → Bool
  | [] => true
  | v :: rest => isWritable v && areWritable rest

/-- Whether all members of an object can be written as JSON. -/
def membersAreWritable : List (String × Value) → Bool
  | [] => true
  | (_, v) :: rest => isWritable v && membersAreWritable rest

end

mutual

/-- A value with null in place of every number that is not finite. -/
def finiteOrNull : Value → Value
  | .float x => if x.isFinite then .float x else .null
  | .list items => .list (finiteItems items)
  | .tuple items => .tuple (finiteItems items)
  | .object members => .object (finiteMembers members)
  | .null => .null
  | .bool b => .bool b
  | .int n => .int n
  | .decimal d => .decimal d
  | .text s => .text s
  | .unpaired t => .unpaired t
  | .mixed members => .mixed members
  | .date d => .date d
  | .moment t => .moment t
  | .uuid u => .uuid u

/-- The items of a list with null in place of every number that is not finite. -/
def finiteItems : List Value → List Value
  | [] => []
  | v :: rest => finiteOrNull v :: finiteItems rest

/-- The members of an object with null in place of every number that is not finite. -/
def finiteMembers : List (String × Value) → List (String × Value)
  | [] => []
  | (name, v) :: rest => (name, finiteOrNull v) :: finiteMembers rest

end

end CollectionQuery.Http
