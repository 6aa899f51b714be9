import CollectionQuery.Value.Text
import CollectionQuery.Text.Blank

/-!
# Operators

An operator compares a field with a value of a fixed shape: none, a single value, a list or a pair
of bounds.  `Operator.normalize` checks the shape and gives the value its canonical form.  Bounds
are not compared: an inverted pair matches nothing.
-/

namespace CollectionQuery

open CollectionQuery.Text

/-- The shape of the value that an operator takes. -/
inductive Arity where
  /-- No value; one that is given is ignored. -/
  | none
  /-- A single value. -/
  | unary
  /-- A list; a single value counts as a list of one. -/
  | list
  /-- Exactly two values. -/
  | pair
deriving DecidableEq

def Arity.name : Arity → String
  | .none => "none"
  | .unary => "unary"
  | .list => "list"
  | .pair => "pair"

/-- An operator. -/
inductive Operator where
  /-- Equal, or both missing. -/
  | eq
  /-- Different, or not missing if compared with nothing. -/
  | ne
  | gt
  | gte
  | lt
  | lte
  /-- Contains a pattern. -/
  | like
  /-- Contains a pattern, letters of either case taken as the same. -/
  | ilike
  /-- Equal to one of a list. -/
  | oneOf
  /-- Different from all of a list. -/
  | noneOf
  /-- Between two bounds, both included. -/
  | between
  | isNull
  | notNull
  | startsWith
  | endsWith
  /-- Contains a text, letters of either case taken as the same. -/
  | contains
deriving DecidableEq, Inhabited

namespace Operator

def all : List Operator :=
  [eq, ne, gt, gte, lt, lte, like, ilike, oneOf, noneOf, between, isNull, notNull, startsWith,
    endsWith, contains]

/-- The name of an operator in a filter. -/
def name : Operator → String
  | eq => "eq"
  | ne => "ne"
  | gt => "gt"
  | gte => "gte"
  | lt => "lt"
  | lte => "lte"
  | like => "like"
  | ilike => "ilike"
  | oneOf => "in"
  | noneOf => "nin"
  | between => "between"
  | isNull => "null"
  | notNull => "notNull"
  | startsWith => "startsWith"
  | endsWith => "endsWith"
  | contains => "contains"

def ofName? (text : String) : Option Operator := all.find? fun op => op.name == text

/-- The operator that a text names, blanks around the name left out. -/
def ofText? : AnyText → Option Operator
  | .whole s => ofName? (strip s)
  | .unpaired _ => none

/-- The operator that a value names. -/
def ofValue? (v : Value) : Option Operator := ofText? v.anyText

/-- The shape of the value. -/
def arity : Operator → Arity
  | oneOf => .list
  | noneOf => .list
  | between => .pair
  | isNull => .none
  | notNull => .none
  | _ => .unary

/-- Whether the operator compares with null in a way of its own. -/
def isNullAware : Operator → Bool
  | eq => true
  | ne => true
  | _ => false

/-- Whether the value takes the type of the field.  The operators that match text compare with the
text as it is given. -/
def coerces : Operator → Bool
  | like => false
  | ilike => false
  | startsWith => false
  | endsWith => false
  | contains => false
  | _ => true

/-- Whether the operator asks for an order. -/
def isOrdering : Operator → Bool
  | gt => true
  | gte => true
  | lt => true
  | lte => true
  | _ => false

end Operator

/-- What is wrong with the shape of a value. -/
inductive ShapeFault where
  /-- A value is missing. -/
  | missing
  /-- An object stands for a list. -/
  | notList
  /-- The value is no pair. -/
  | notPair
  /-- The value is a list or an object. -/
  | notSingle
deriving DecidableEq

/-- The wording of a fault in the value of an operator. -/
def ShapeFault.message (op : Operator) : ShapeFault → String
  | .missing => "\"" ++ op.name ++ "\" requires a value"
  | .notList => "\"" ++ op.name ++ "\" requires a list of values"
  | .notPair => "\"" ++ op.name ++ "\" requires exactly two values"
  | .notSingle => "\"" ++ op.name ++ "\" requires a single value"

/-- The canonical form of a value for an operator: null, a single value, or a tuple. -/
def Operator.normalize (op : Operator) (v : Value) : Except ShapeFault Value :=
  match op.arity with
  | .none => .ok .null
  | .list =>
    match v with
    | .null => .error .missing
    | .list items => .ok (.tuple items)
    | .tuple items => .ok (.tuple items)
    | .object _ => .error .notList
    | .mixed _ => .error .notList
    | v => .ok (.tuple [v])
  | .pair =>
    match v with
    | .list [low, high] => .ok (.tuple [low, high])
    | .tuple [low, high] => .ok (.tuple [low, high])
    | _ => .error .notPair
  | .unary =>
    match v with
    | .null => if op.isNullAware then .ok .null else .error .missing
    | .list _ => .error .notSingle
    | .tuple _ => .error .notSingle
    | .object _ => .error .notSingle
    | .mixed _ => .error .notSingle
    | v => .ok v

end CollectionQuery
