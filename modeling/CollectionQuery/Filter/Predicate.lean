import CollectionQuery.Filter
import CollectionQuery.Outcome
import CollectionQuery.Predicate

/-!
# The predicate of a filter

A condition becomes a comparison if its operator exists and its value has the shape that the
operator takes.  A malformed condition is refused in a strict reading; otherwise it is recorded and
dropped.  A group becomes the conjunction or disjunction of its conditions and then its subgroups,
in their order, repeated fields included.

A group deeper than the limit is refused where the reading enters it.
-/

namespace CollectionQuery

/-- The comparison that a condition makes, or what is wrong with it. -/
def FilterCondition.comparison (c : FilterCondition) : Except MalformedCondition Comparison :=
  match Operator.ofText? c.operator with
  | none => .error (.unknownOperator c.operator c.field)
  | some op =>
    match op.normalize c.value with
    | .ok v => .ok ⟨c.field, op, v⟩
    | .error fault => .error (.shape c.field op fault)

/-- The predicate of a condition; a malformed one is refused if `strict`, else dropped. -/
def FilterCondition.predicate (strict : Bool) (c : FilterCondition) : Outcome Predicate :=
  match c.comparison with
  | .ok comparison => .ok (.leaf comparison)
  | .error cause =>
    if strict then .fail (.rejected (.condition cause))
    else do
      Outcome.record (.conditionDropped cause)
      pure .always

/-- The predicates of several conditions. -/
def FilterCondition.predicates (strict : Bool) : List FilterCondition → Outcome (List Predicate)
  | [] => pure []
  | c :: rest => do
    let first ← c.predicate strict
    pure (first :: (← predicates strict rest))

/-- The join of the members of a group. -/
def Connective.join : Connective → List Predicate → Predicate
  | .and => .allOf
  | .or => .anyOf

namespace FilterGroup

mutual

/-- The predicate of a group on level `level`, at most `most` levels deep. -/
def predicateAt (most : Int) (strict : Bool) (level : Nat) : FilterGroup → Outcome Predicate
  | mk connective conditions groups =>
    if most < (level : Int) then .fail (.rejected (.nesting most))
    else do
      let front ← FilterCondition.predicates strict conditions
      let back ← predicatesAt most strict (level + 1) groups
      pure (connective.join (front ++ back))

/-- The predicates of several groups on one level. -/
def predicatesAt (most : Int) (strict : Bool) (level : Nat) :
    List FilterGroup → Outcome (List Predicate)
  | [] => pure []
  | g :: rest => do
    let first ← predicateAt most strict level g
    pure (first :: (← predicatesAt most strict level rest))

end

/-- The predicate of a group. -/
def predicate (most : Int) (strict : Bool) (g : FilterGroup) : Outcome Predicate :=
  predicateAt most strict 1 g

end FilterGroup

def filterPredicate (most : Int) (strict : Bool) : Option FilterGroup → Outcome Predicate
  | none => pure .always
  | some g => g.predicate most strict

end CollectionQuery
