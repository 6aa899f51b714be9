import CollectionQuery.Value

/-!
# JSON documents

A `Json` is the syntax tree of a document: an object lists its members as they stand in the text, a
name possibly more than once.  As a value it has each name once, in the place of the first member of
that name and with the value of the last.  Texts and names may have halves of surrogate pairs.

`depth` is the deepest nesting of lists and objects, overridden members included.
-/

namespace CollectionQuery

open CollectionQuery.Number CollectionQuery.Text

/-- The syntax tree of a JSON document. -/
inductive Json where
  | null
  | bool (b : Bool)
  /-- A number without point and exponent. -/
  | int (n : Int)
  /-- A number with a point or an exponent, or the name of one that is not finite. -/
  | float (x : Binary64)
  | text (s : AnyText)
  | list (items : List Json)
  | object (members : List (AnyText × Json))
deriving Inhabited

namespace Json

mutual

/-- The deepest nesting of lists and objects. -/
def depth : Json → Nat
  | list items => depthOfItems items + 1
  | object members => depthOfMembers members + 1
  | _ => 0

/-- The deepest nesting in the items of a list. -/
def depthOfItems : List Json → Nat
  | [] => 0
  | j :: rest => max (depth j) (depthOfItems rest)

/-- The deepest nesting in the members of an object. -/
def depthOfMembers : List (AnyText × Json) → Nat
  | [] => 0
  | (_, j) :: rest => max (depth j) (depthOfMembers rest)

end

mutual

/-- The value that a document denotes. -/
def toValue : Json → Value
  | null => .null
  | bool b => .bool b
  | int n => .int n
  | float x => .float x
  | text s => .ofText s
  | list items => .list (itemsToValues items)
  | object members => .ofMembers (membersToValues [] members)

def itemsToValues : List Json → List Value
  | [] => []
  | j :: rest => toValue j :: itemsToValues rest

/-- The members of an object, added to those before them. -/
def membersToValues (before : List (AnyText × Value)) :
    List (AnyText × Json) → List (AnyText × Value)
  | [] => before
  | (name, j) :: rest => membersToValues (Value.setMember before name (toValue j)) rest

end

end Json

end CollectionQuery
