import CollectionQuery.Page
import CollectionQuery.Plan

/-!
# Pagination

A query runs once.  Rows and total come from the same execution of one plan.  An execution that
takes too long or whose caller goes away is cancelled and not tried again.
-/

namespace CollectionQuery

open CollectionQuery.Number

/-- How the execution of a plan ends. -/
inductive Execution (ρ : Type) where
  /-- With rows and a total, or with a failure. -/
  | finished (outcome : Outcome (List ρ × Int))
  /-- Never by itself. -/
  | stalled
  /-- By the caller's wish. -/
  | interrupted

/-- What happened to the plan of a query. -/
structure PageRun (α : Type) where
  /-- The plans that were started. -/
  plans : List Plan
  /-- How often the execution was cancelled. -/
  cancellations : Nat
  /-- What the query ends with. -/
  outcome : Outcome (Page α)

/-- Shows every row. -/
def showRows {ρ α : Type} (shown : ρ → Except Failure α) : List ρ → Except Failure (List α)
  | [] => .ok []
  | row :: rest => do
    let first ← shown row
    pure (first :: (← showRows shown rest))

/-- Whether a time limit leaves any time. -/
def leavesTime : Binary64 → Bool
  | .finite negative mantissa _ => !negative && mantissa != 0
  | .infinity negative => !negative
  | .nan => true

/-- The page that a finished execution makes. -/
def Page.ofRows {ρ α : Type} (q : QueryParams) (shown : ρ → Except Failure α) (rows : List ρ)
    (total : Int) : Except Failure (Page α) := do
  let data ← showRows shown rows
  pure ⟨data, ← PageMeta.of q.page q.limit total⟩

/-- Runs a query: makes its plan, executes it within `timeout` seconds and makes a page of the rows.
Without time left nothing is executed. -/
def paginate {ρ α : Type} (settings : Settings) (context : PlanContext) (timeout : Option Binary64)
    (execute : Plan → Execution ρ) (shown : ρ → Except Failure α) (q : QueryParams) : PageRun α :=
  let compiled := Plan.of settings context q
  match compiled.result with
  | .error f => ⟨[], 0, ⟨compiled.log, .error f⟩⟩
  | .ok plan =>
    let seconds := timeout.getD settings.timeoutSeconds
    let timedOut : Outcome (Page α) :=
      ⟨compiled.log ++ [.timedOut context.collection seconds],
        .error (.timedOut context.collection)⟩
    if !leavesTime seconds then ⟨[], 1, timedOut⟩
    else match execute plan with
      | .stalled => ⟨[plan], 1, timedOut⟩
      | .interrupted =>
        ⟨[plan], 1, ⟨compiled.log ++ [.cancelledByCaller context.collection], .error .cancelled⟩⟩
      | .finished outcome =>
        ⟨[plan], 0, do
          let _ ← (⟨compiled.log, .ok ()⟩ : Outcome Unit)
          let (rows, total) ← outcome
          .ofExcept (Page.ofRows q shown rows total)⟩

end CollectionQuery
