import CollectionQuery.Value

/-!
# Raw queries

A query comes as a mapping from keys to values, or as a sequence of pairs in which a key may occur
several times.  A key stands where it occurs first.  For a parameter that is a single value the last
occurrence counts, and for a list all of them do.  A key may be written with brackets behind it;
both spellings of a list are read one after the other.
-/

namespace CollectionQuery

/-- A query as it comes. -/
inductive RawQuery where
  /-- Each key once. -/
  | mapping (members : List (String × Value))
  /-- Keys that may occur several times. -/
  | pairs (items : List (String × Value))

namespace RawQuery

/-- The parameters that are lists. -/
def listNames : List String := ["searchFields", "select", "exclude", "relations"]

/-- A key with all its values in order. -/
structure Entry where
  key : String
  /-- The values, at least one. -/
  values : List Value

/-- Adds a value to the entry of its key, or a new entry at the end. -/
def addTo (key : String) (value : Value) : List Entry → List Entry
  | [] => [⟨key, [value]⟩]
  | e :: rest =>
    if e.key = key then ⟨key, e.values ++ [value]⟩ :: rest else e :: addTo key value rest

/-- The entries of pairs, in the order of the first occurrences. -/
def grouped (items : List (String × Value)) : List Entry :=
  items.foldl (fun entries item => addTo item.1 item.2 entries) []

/-- The values that a single value stands for in a list parameter. -/
def spread : Value → List Value
  | .list items => items
  | .tuple items => items
  | v => [v]

/-- A key without brackets behind it. -/
def baseName (key : String) : String :=
  if "[]".toList.isSuffixOf key.toList then String.ofList key.toList.dropLast.dropLast
  else key

/-- Reads one key into the members of a document: `values` are those of a list parameter, and
`single` the one that counts otherwise. -/
def gather (document : List (String × Value)) (key : String) (values : List Value)
    (single : Value) :
    List (String × Value) :=
  let name := baseName key
  if name ∈ listNames then
    let before := ((Value.member? document name).map spread).getD []
    Value.setMember document name (.list (before ++ values))
  else Value.setMember document name single

/-- The document that a query denotes: every list parameter is a list. -/
def document : RawQuery → List (String × Value)
  | mapping members =>
    members.foldl (fun document m => gather document m.1 (spread m.2) m.2) []
  | pairs items =>
    (grouped items).foldl (fun document e =>
      gather document e.key e.values (e.values.getLastD .null)) []

end RawQuery

end CollectionQuery
