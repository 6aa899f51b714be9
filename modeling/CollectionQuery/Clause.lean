import CollectionQuery.Cell.Operand
import CollectionQuery.Text.LetterCase
import CollectionQuery.Text.Pattern

/-!
# Clauses

A clause is a condition on the rows of one collection, with every column and relation found.  Its
tests ask something of one cell; a clause on a relation asks for a related row, within the scope of
the reader, that meets another clause.

A clause holds operands of any type.  `Clause.bind` replaces the values in it by cells, from left to
right.
-/

namespace CollectionQuery

open CollectionQuery.Text

/-- What is asked of one cell. -/
inductive CellTest (α : Type) where
  | isNull
  | notNull
  /-- A relation to an operand by the order of cells. -/
  | relates (accepts : Ordering → Bool) (operand : α)
  /-- Equal to one of several operands. -/
  | oneOf (operands : List α)
  /-- Different from all of several operands. -/
  | noneOf (operands : List α)
  /-- Not less than one operand and not greater than another. -/
  | between (low high : α)
  /-- Not before the start of a day, and before the start of the next. -/
  | onDay (start next : α)
  | offDay (start next : α)
  /-- A text that matches a pattern; `fold` says whether letters of either case are the same. -/
  | matching (fold : Bool) (escape : Option Char) (pattern : List Char)
  /-- A text that matches a pattern in which a half of a surrogate pair stands alone.  No text does,
  and the pattern has no form in the storage engine. -/
  | matchingHalf (fold : Bool) (escape : Option Char) (pattern : α)

namespace CellTest

/-- The test with its operands replaced, from left to right. -/
def bind {α β ε : Type} (f : α → Except ε β) : CellTest α → Except ε (CellTest β)
  | isNull => .ok isNull
  | notNull => .ok notNull
  | relates accepts x => return relates accepts (← f x)
  | oneOf xs => return oneOf (← xs.mapM f)
  | noneOf xs => return noneOf (← xs.mapM f)
  | between low high => return between (← f low) (← f high)
  | onDay start next => return onDay (← f start) (← f next)
  | offDay start next => return offDay (← f start) (← f next)
  | matching fold escape pattern => .ok (matching fold escape pattern)
  | matchingHalf fold escape x => return matchingHalf fold escape (← f x)

/-- Whether a text matches a pattern, with capitals of ASCII taken as small letters if `fold`. -/
def textMatches (fold : Bool) (escape : Option Char) (pattern text : List Char) : Bool :=
  if fold then matchPattern escape (asciiLower pattern) (asciiLower text)
  else matchPattern escape pattern text

/-- Whether the pattern of a test is too long for the storage engine. -/
def isOverlong {α : Type} : CellTest α → Bool
  | matching _ _ pattern => decide (patternLimit < (String.ofList pattern).utf8ByteSize)
  | _ => false

/-- Whether a cell lies in a day. -/
def inDay (start next c : Cell) : Truth :=
  (c.relate (· != .lt) start).and (c.relate (· == .lt) next)

/-- The truth value of a test on a cell. -/
def truth (c : Cell) : CellTest Cell → Truth
  | isNull => .ofBool c.isNull
  | notNull => .ofBool !c.isNull
  | relates accepts x => c.relate accepts x
  | oneOf xs => .any (xs.map (c.relate (· == .eq)))
  | noneOf xs => .all (xs.map (c.relate (· != .eq)))
  | between low high => (c.relate (· != .lt) low).and (c.relate (· != .gt) high)
  | onDay start next => inDay start next c
  | offDay start next => (inDay start next c).not
  | matching fold escape pattern =>
    match c with
    | .null => .unknown
    | .text s => .ofBool (textMatches fold escape pattern s.toList)
    | _ => .no
  | matchingHalf _ _ _ => if c.isNull then .unknown else .no

end CellTest

/-- A condition on the rows of one collection. -/
inductive Clause (α : Type) where
  | test (column : String) (t : CellTest α)
  /-- A related row meets a clause. -/
  | related (relation : Relation) (inner : Clause α)
  /-- All of several clauses. -/
  | all (items : List (Clause α))
  /-- One of several clauses. -/
  | any (items : List (Clause α))

namespace Clause

mutual

/-- The clause with its operands replaced, from left to right. -/
def bind {α β ε : Type} (f : α → Except ε β) : Clause α → Except ε (Clause β)
  | test column t => (t.bind f).map (test column)
  | related r inner => (bind f inner).map (related r)
  | all items => (bindAll f items).map all
  | any items => (bindAll f items).map any

/-- Several clauses with their operands replaced. -/
def bindAll {α β ε : Type} (f : α → Except ε β) : List (Clause α) → Except ε (List (Clause β))
  | [] => .ok []
  | item :: rest => do
    let first ← bind f item
    pure (first :: (← bindAll f rest))

end

mutual

/-- The tests in a clause, from the left. -/
def tests {α : Type} : Clause α → List (CellTest α)
  | test _ t => [t]
  | related _ inner => tests inner
  | all items => testsOf items
  | any items => testsOf items

/-- The tests in several clauses. -/
def testsOf {α : Type} : List (Clause α) → List (CellTest α)
  | [] => []
  | item :: rest => tests item ++ testsOf rest

end

/-- Whether a pattern in a clause is too long for the storage engine. -/
def isOverlong {α : Type} (c : Clause α) : Bool := c.tests.any CellTest.isOverlong

section

variable {α : Type}

theorem any_testsOf (items : List (Clause α)) :
    (testsOf items).any CellTest.isOverlong = items.any isOverlong := by
  induction items with
  | nil => rw [testsOf, List.any_nil, List.any_nil]
  | cons item rest ih => rw [testsOf, List.any_append, ih, List.any_cons, isOverlong]

@[simp] theorem isOverlong_test (column : String) (t : CellTest α) :
    (test column t).isOverlong = t.isOverlong := by
  rw [isOverlong, tests, List.any_cons, List.any_nil, Bool.or_false]

@[simp] theorem isOverlong_related (r : Relation) (inner : Clause α) :
    (related r inner).isOverlong = inner.isOverlong := by
  rw [isOverlong, tests, isOverlong]

@[simp] theorem isOverlong_all (items : List (Clause α)) :
    (all items).isOverlong = items.any isOverlong := by
  rw [isOverlong, tests, any_testsOf]

@[simp] theorem isOverlong_any (items : List (Clause α)) :
    (any items).isOverlong = items.any isOverlong := by
  rw [isOverlong, tests, any_testsOf]

end

end Clause

/-- The clause with the cells of its operands.  Operands of the wrong type are found before any
other fault. -/
def Clause.cells (c : Clause Operand) : Except BindFault (Clause Cell) := do
  discard (c.bind Operand.checkType)
  c.bind Operand.bind

end CollectionQuery
