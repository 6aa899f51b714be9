import CollectionQuery.FieldPath
import CollectionQuery.Failure
import CollectionQuery.Text.LetterCase

/-!
# Sort keys

A sort specification is a list of paths and a list of directions, both separated by commas.  The
path in the n-th place has the n-th direction, or the last one if there are fewer; without any it is
descending.  A blank path keeps its place in the list, and a path that was there before is dropped.
-/

namespace CollectionQuery

open CollectionQuery.Text

/-- The direction of a sort key. -/
inductive Direction where
  /-- Least first. -/
  | ascending
  /-- Greatest first. -/
  | descending
deriving DecidableEq, Inhabited

def Direction.name : Direction → String
  | ascending => "ASC"
  | descending => "DESC"

def Direction.ofName? (text : String) : Option Direction :=
  if text = "ASC" then some .ascending
  else if text = "DESC" then some .descending
  else none

/-- A field to sort by. -/
structure SortKey where
  /-- The relations on the way to the field. -/
  relations : List String
  field : String
  direction : Direction := .descending
deriving DecidableEq, Inhabited

namespace SortKey

/-- The names of the relations and of the field. -/
def names (k : SortKey) : List String := k.relations ++ [k.field]

/-- The path as a text. -/
def path (k : SortKey) : String := joinWith "." k.names

def ofPath (text : String) (direction : Direction) : SortKey :=
  let names := FieldPath.names text
  ⟨names.dropLast, names.getLastD "", direction⟩

/-- The directions of a list, blank entries left out. -/
def directions (text : String) : Except Failure (List Direction) :=
  (((splitOnChar ',' text).map fun t => upper (strip t)).filter (· ≠ "")).mapM fun token =>
    match Direction.ofName? token with
    | some d => .ok d
    | none => .error (.rejected (.sortDirection token))

/-- The keys of the paths that follow: `last` is the direction of the place before, `ahead` holds
the directions from this place on, and `seen` the paths so far. -/
def keysFrom (last : Direction) (ahead : List Direction) (seen : List String) :
    List String → Except Failure (List SortKey)
  | [] => .ok []
  | part :: rest => do
    let direction := ahead.headD last
    if part = "" then keysFrom direction ahead.tail seen rest
    else if !FieldPath.isPath part then .error (.rejected (.sortField part))
    else if part ∈ seen then keysFrom direction ahead.tail seen rest
    else pure (ofPath part direction :: (← keysFrom direction ahead.tail (part :: seen) rest))

/-- The keys of a sort specification. -/
def ofTexts (fields : String) (order : String) : Except Failure (List SortKey) :=
  if fields = "" then .ok []
  else do
    keysFrom .descending (← directions order) [] ((splitOnChar ',' fields).map strip)

end SortKey

end CollectionQuery
