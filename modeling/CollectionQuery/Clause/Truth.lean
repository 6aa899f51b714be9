import CollectionQuery.Clause
import CollectionQuery.Store

/-!
# Truth values of clauses

`Clause.truth` is the truth value of a clause with cells on a row.  A related row that meets a
clause counts only in the scope of the reader.
-/

namespace CollectionQuery.Clause

mutual

/-- The truth value of a clause on a row, for a reader of a store. -/
def truth (s : Store) (a : Audience) (row : Row) : Clause Cell → Truth
  | test column t => t.truth (row.cell column)
  | related r inner => .ofBool ((s.related r row).any fun other =>
      (truth s a other inner).holds && a.inScope r.target other)
  | all items => truthAll s a row items
  | any items => truthAny s a row items

/-- The least truth value of several clauses. -/
def truthAll (s : Store) (a : Audience) (row : Row) : List (Clause Cell) → Truth
  | [] => .yes
  | item :: rest => (truth s a row item).and (truthAll s a row rest)

/-- The greatest truth value of several clauses. -/
def truthAny (s : Store) (a : Audience) (row : Row) : List (Clause Cell) → Truth
  | [] => .no
  | item :: rest => (truth s a row item).or (truthAny s a row rest)

end

end CollectionQuery.Clause
