import CollectionQuery.Clause
import CollectionQuery.Row

/-!
# The wording of clauses

A clause reaches the storage engine as a phrase of its query language.  The engine reads a phrase
from left to right and holds the symbols that it cannot put together yet, of which there may not be
too many; and it refuses a phrase with too many levels of operators.

The items of a conjunction or disjunction are put together one after the other, so each of them
meets no more symbols than the second.  A conjunction or disjunction inside one of the same kind is
part of it.  A disjunction in a conjunction stands in parentheses, and so does a subquery in either.
-/

namespace CollectionQuery

/-- A condition as it is worded. -/
inductive Phrase where
  /-- A condition on a column: the symbols that are held at most, and the levels of operators. -/
  | simple (symbols levels : Nat)
  /-- Phrases joined by `AND`. -/
  | all (items : List Phrase)
  /-- Phrases joined by `OR`. -/
  | any (items : List Phrase)
  /-- A phrase in parentheses. -/
  | enclosed (inner : Phrase)
  /-- The rows of a table that meet a condition exist. -/
  | subquery (condition : Phrase)

namespace Phrase

/-! ## Joining -/

/-- A phrase as an item of a conjunction. -/
def insideAll : Phrase → Phrase
  | any items => enclosed (any items)
  | subquery condition => enclosed (subquery condition)
  | p => p

/-- A phrase as an item of a disjunction. -/
def insideAny : Phrase → Phrase
  | subquery condition => enclosed (subquery condition)
  | p => p

/-- The items that a phrase contributes to a conjunction. -/
def allItems : Phrase → List Phrase
  | all items => items
  | p => [p]

/-- The items that a phrase contributes to a disjunction. -/
def anyItems : Phrase → List Phrase
  | any items => items
  | p => [p]

/-- The conjunction of phrases; a single one stays alone. -/
def joinAll (items : List Phrase) : Phrase :=
  match items.flatMap allItems with
  | [p] => p
  | items => all (items.map insideAll)

/-- The disjunction of phrases; a single one stays alone. -/
def joinAny (items : List Phrase) : Phrase :=
  match items.flatMap anyItems with
  | [p] => p
  | items => any (items.map insideAny)

/-! ## Measures -/

/-- The symbols of a subquery that stand in front of its condition. -/
def subqueryFront : Nat := 5

/-- The symbols that are held at most in front of the condition of a subquery. -/
def subqueryHead : Nat := 9

mutual

/-- The greatest number of symbols that are held while a phrase is read. -/
def symbols : Phrase → Nat
  | simple symbols _ => symbols
  | all items => chainSymbols 0 items
  | any items => chainSymbols 0 items
  | enclosed inner => symbols inner + 1
  | subquery condition => 2 + max subqueryHead (subqueryFront + symbols condition)

/-- The greatest number of symbols for the items of a chain, `front` of which stand in front of the
next item: what was put together before, and the connective. -/
def chainSymbols (front : Nat) : List Phrase → Nat
  | [] => 0
  | p :: rest => max (front + symbols p) (chainSymbols 2 rest)

end

mutual

/-- The levels of operators of a phrase. -/
def levels : Phrase → Nat
  | simple _ levels => levels
  | all items => chainLevels 0 items
  | any items => chainLevels 0 items
  | enclosed inner => levels inner
  | subquery condition => levels condition + 1

/-- The levels of a chain whose items so far have `before` levels, none if there are no items. -/
def chainLevels (before : Nat) : List Phrase → Nat
  | [] => before
  | p :: rest =>
    chainLevels (if before = 0 then levels p else max before (levels p) + 1) rest

end

mutual

/-- The levels of the subqueries of a phrase, those of a subquery and of its own subqueries added
up. -/
def innerLevels : Phrase → Nat
  | simple _ _ => 0
  | all items => innerLevelsOf items
  | any items => innerLevelsOf items
  | enclosed inner => innerLevels inner
  | subquery condition => levels condition + innerLevels condition

/-- The greatest of the levels of the subqueries of several phrases. -/
def innerLevelsOf : List Phrase → Nat
  | [] => 0
  | p :: rest => max (innerLevels p) (innerLevelsOf rest)

end

/-- The number of symbols that the storage engine can hold. -/
def symbolLimit : Nat := 99

/-- The number of levels that the storage engine allows. -/
def levelLimit : Nat := 1000

/-- The symbols in front of the condition of a statement that counts rows. -/
def countFront : Nat := 11

/-- Whether the storage engine reads a phrase as the condition of a statement that counts rows. -/
def isReadable (p : Phrase) : Bool :=
  decide (countFront + p.symbols ≤ symbolLimit ∧ p.levels + p.innerLevels ≤ levelLimit)

end Phrase

/-! ## Clauses -/

/-- The wording of a test on a pattern. -/
def CellTest.patternPhrase (fold escaped : Bool) : Phrase :=
  match fold, escaped with
  | false, false => .simple 3 3
  | true, false => .simple 7 4
  | false, true => .simple 6 3
  | true, true => .simple 10 5

/-- The wording of a test.  A list without operands is worded as a list of null, joined with a
condition that no row or every row meets. -/
def CellTest.phrase {α : Type} : CellTest α → Phrase
  | isNull => .simple 3 3
  | notNull => .simple 4 3
  | relates _ _ => .simple 3 3
  | oneOf [] => .all [.simple 5 3, .simple 4 2]
  | oneOf [_] => .simple 5 3
  | oneOf _ => .simple 6 3
  | noneOf [] => .simple 7 5
  | noneOf [_] => .simple 6 4
  | noneOf _ => .simple 7 4
  | between _ _ => .simple 5 3
  | onDay _ _ => .all [.simple 3 3, .simple 3 3]
  | offDay _ _ => .simple 7 5
  | matching fold escape _ => patternPhrase fold escape.isSome
  | matchingHalf fold escape _ => patternPhrase fold escape.isSome

/-- The wording of the condition that a row is related to another. -/
def Relation.phrase : Phrase := .simple 5 3

/-- The wording of the scope of a collection. -/
def Audience.scopePhrases (a : Audience) (c : Collection) : List Phrase :=
  (a.scope c).map fun _ => .simple 3 3

namespace Clause

mutual

/-- The wording of a clause for a reader. -/
def phrase {α : Type} (a : Audience) : Clause α → Phrase
  | test _ t => t.phrase
  | related r inner =>
    .subquery (.joinAll (Relation.phrase :: phrase a inner :: a.scopePhrases r.target))
  | all items => .joinAll (phrases a items)
  | any items => .joinAny (phrases a items)

/-- The wordings of several clauses. -/
def phrases {α : Type} (a : Audience) : List (Clause α) → List Phrase
  | [] => []
  | item :: rest => phrase a item :: phrases a rest

end

end Clause

end CollectionQuery
