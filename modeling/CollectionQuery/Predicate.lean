import CollectionQuery.Operator
import CollectionQuery.Truth

/-!
# Predicates

A predicate is a tree of comparisons joined by conjunction and disjunction.  `always` is the
condition that everything meets: it is dropped from a conjunction, and from a disjunction too, where
it stands for a condition that was not given.

`allOf` and `anyOf` join predicates and flatten one level.  `conjoin` pushes a conjunction inside
disjunctions, so that the result lists the alternatives.
-/

namespace CollectionQuery

/-- The comparison of a field with a value. -/
structure Comparison where
  /-- The path of the field. -/
  field : String
  /-- How it is compared. -/
  operator : Operator
  value : Value
deriving Inhabited

/-- A predicate. -/
inductive Predicate where
  /-- Everything meets it. -/
  | always
  | leaf (comparison : Comparison)
  /-- All of several predicates. -/
  | and (items : List Predicate)
  /-- One of several predicates. -/
  | or (items : List Predicate)
deriving Inhabited

namespace Predicate

/-- Whether a predicate is the one that everything meets. -/
def isAlways : Predicate → Bool
  | always => true
  | _ => false

/-- The members of a conjunction, or the predicate alone. -/
def conjuncts : Predicate → List Predicate
  | and items => items
  | p => [p]

/-- The members of a disjunction, or the predicate alone. -/
def disjuncts : Predicate → List Predicate
  | or items => items
  | p => [p]

/-- One predicate for several: nothing becomes `always`, and one stays alone. -/
def collect (join : List Predicate → Predicate) : List Predicate → Predicate
  | [] => always
  | [p] => p
  | items => join items

/-- The conjunction of several predicates. -/
def allOf (items : List Predicate) : Predicate :=
  collect and ((items.filter fun p => !p.isAlways).flatMap conjuncts)

/-- The disjunction of several predicates. -/
def anyOf (items : List Predicate) : Predicate :=
  collect or ((items.filter fun p => !p.isAlways).flatMap disjuncts)

mutual

/-- The conjunction of a predicate that is no disjunction and any other. -/
def conjoinRight (left : Predicate) : Predicate → Predicate
  | always => left
  | or branches => if left.isAlways then or branches else anyOf (conjoinRights left branches)
  | leaf c => if left.isAlways then leaf c else allOf [left, leaf c]
  | and items => if left.isAlways then and items else allOf [left, and items]

/-- The conjunctions of a predicate with each of several others. -/
def conjoinRights (left : Predicate) : List Predicate → List Predicate
  | [] => []
  | branch :: rest => conjoinRight left branch :: conjoinRights left rest

end

mutual

/-- The conjunction of two predicates.  A disjunction on either side is distributed over the other,
the left one first. -/
def conjoin : Predicate → Predicate → Predicate
  | or branches, right =>
    if right.isAlways then or branches else anyOf (conjoinLefts branches right)
  | always, right => conjoinRight always right
  | leaf c, right => conjoinRight (leaf c) right
  | and items, right => conjoinRight (and items) right

/-- The conjunctions of each of several predicates with another. -/
def conjoinLefts : List Predicate → Predicate → List Predicate
  | [], _ => []
  | branch :: rest, right => conjoin branch right :: conjoinLefts rest right

end

/-- The alternatives of a disjunction, each joined with another predicate. -/
def distribute (branches : List Predicate) (other : Predicate) (otherFirst : Bool) : Predicate :=
  if otherFirst then anyOf (branches.map fun branch => conjoin other branch)
  else anyOf (branches.map fun branch => conjoin branch other)

mutual

/-- The truth value of a predicate, given those of its comparisons. -/
def eval (truth : Comparison → Truth) : Predicate → Truth
  | always => .yes
  | leaf c => truth c
  | and items => evalAll truth items
  | or items => evalAny truth items

/-- The least truth value of several predicates. -/
def evalAll (truth : Comparison → Truth) : List Predicate → Truth
  | [] => .yes
  | p :: rest => (eval truth p).and (evalAll truth rest)

/-- The greatest truth value of several predicates. -/
def evalAny (truth : Comparison → Truth) : List Predicate → Truth
  | [] => .no
  | p :: rest => (eval truth p).or (evalAny truth rest)

end

end Predicate

/-- A condition that a caller adds to a query. -/
inductive Mandatory where
  | none
  /-- Fields with the values they have to equal. -/
  | equals (fields : List (String × Value))
  | given (predicate : Predicate)

/-- The predicate of a caller's condition. -/
def Mandatory.predicate : Mandatory → Predicate
  | none => .always
  | equals fields => .allOf (fields.map fun f => .leaf ⟨f.1, .eq, f.2⟩)
  | given p => p

/-- The conjunction of a caller's condition, a filter and a search, in this order. -/
def Predicate.merge (filter search : Predicate) (mandatory : Mandatory) : Predicate :=
  conjoin (conjoin mandatory.predicate filter) search

end CollectionQuery
