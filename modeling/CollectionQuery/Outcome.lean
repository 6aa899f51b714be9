import CollectionQuery.LogEntry

/-!
# Outcomes

What an operation records in the log and what it ends with, a result or a failure.  Operations in
sequence record one after the other up to the first failure.
-/

namespace CollectionQuery

/-- The log of an operation and its end. -/
structure Outcome (α : Type) where
  /-- What was recorded, oldest first. -/
  log : List LogEntry
  result : Except Failure α

namespace Outcome

variable {α β : Type}

/-- A result, with nothing recorded. -/
def ok (a : α) : Outcome α := ⟨[], .ok a⟩

/-- A failure, with nothing recorded. -/
def fail (f : Failure) : Outcome α := ⟨[], .error f⟩

/-- Something recorded. -/
def record (e : LogEntry) : Outcome Unit := ⟨[e], .ok ()⟩

/-- The outcome of something that records nothing. -/
def ofExcept (r : Except Failure α) : Outcome α := ⟨[], r⟩

/-- One operation, and another on its result. -/
def bind (o : Outcome α) (next : α → Outcome β) : Outcome β :=
  match o.result with
  | .ok a => let rest := next a; ⟨o.log ++ rest.log, rest.result⟩
  | .error f => ⟨o.log, .error f⟩

instance : Monad Outcome where
  pure := ok
  bind := bind

end Outcome

end CollectionQuery
