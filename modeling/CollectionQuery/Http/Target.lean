import CollectionQuery.RawQuery.UrlText

/-!
# Targets

A target is the text with which a client says what it asks a server for: a path, perhaps a query
behind `?`, perhaps a mark behind `#` that stays with the client.  The path leads through its pieces
from the root of the server, so slashes in front of it say nothing, `.` stays where it is and `..`
goes back by one piece.  A name of a server in front of the path is passed over.

What is escaped in a path is read twice, once where the path is sent and once where it arrives.
-/

namespace CollectionQuery.Http

open CollectionQuery.Text

/-- What a client asks a server for. -/
structure Target where
  /-- The path, with escaped characters read. -/
  path : String
  /-- The text of the query, without the question mark. -/
  query : String
deriving DecidableEq

namespace Target

/-- The pieces of a path that were passed, the last one first, after one more.  The first piece of a
path, which is empty, is never left. -/
def step (passed : List (List Char)) : List Char → List (List Char)
  | ['.'] => passed
  | ['.', '.'] => if passed = [[]] then passed else passed.tail
  | piece => piece :: passed

/-- A path without the pieces `.` and `..`. -/
def resolve (path : List Char) : List Char :=
  ['/'].intercalate ((splitChars '/' path).foldl step []).reverse

/-- A path without the name of a server in front of it. -/
def behindServer (path : List Char) : List Char :=
  match path with
  | '/' :: '/' :: rest => resolve (rest.dropWhile (· ≠ '/'))
  | _ => path

/-- The path that a path written by a client leads to.  The root is a slash. -/
def pathOf (written : List Char) : List Char :=
  match resolve ('/' :: (behindServer written).dropWhile (· = '/')) with
  | [] => ['/']
  | path => UrlText.unescape (UrlText.unescape path)

/-- The target that a text says. -/
def ofText (text : String) : Target :=
  let sent := text.toList.takeWhile (· ≠ '#')
  { path := String.ofList (pathOf (sent.takeWhile (· ≠ '?')))
    query := String.ofList ((sent.dropWhile (· ≠ '?')).drop 1) }

end Target

end CollectionQuery.Http
