import CollectionQuery.Failure
import CollectionQuery.Number.Shortest

/-!
# Log entries

What the service records, by occasion.
-/

namespace CollectionQuery

open CollectionQuery.Number CollectionQuery.Text

/-- How grave a log entry is. -/
inductive LogLevel where
  /-- Something was done. -/
  | info
  /-- Something was not done as asked. -/
  | warning
  /-- Something failed. -/
  | error
deriving DecidableEq

def LogLevel.name : LogLevel → String
  | .info => "INFO"
  | .warning => "WARNING"
  | .error => "ERROR"

/-- The level at which a response is recorded. -/
def LogLevel.ofStatus (status : Int) : LogLevel :=
  if 500 ≤ status then .error else if 400 ≤ status then .warning else .info

/-- A log entry. -/
inductive LogEntry where
  /-- A malformed condition was dropped. -/
  | conditionDropped (cause : MalformedCondition)
  /-- All relations were asked for and none are known. -/
  | relationsUnknown
  /-- A query took too long. -/
  | timedOut (collection : String) (seconds : Binary64)
  /-- The caller cancelled a query. -/
  | cancelledByCaller (collection : String)
  /-- The storage engine did not take a value of a query. -/
  | valueOutOfRange (collection : String)
  /-- The storage engine failed in a query. -/
  | queryFailed (collection : String)
  /-- A row was created. -/
  | created (collection id : String)
  /-- A row was updated. -/
  | updated (collection id : String) (fields : List String)
  /-- A row was deleted. -/
  | deleted (collection id : String)
  /-- A request was answered. -/
  | answered (method path : String) (status : Nat) (requestId : String)

namespace LogEntry

/-- How grave an entry is. -/
def level : LogEntry → LogLevel
  | conditionDropped _ => .warning
  | relationsUnknown => .warning
  | timedOut .. => .warning
  | cancelledByCaller _ => .info
  | valueOutOfRange _ => .warning
  | queryFailed _ => .error
  | created .. => .info
  | updated .. => .info
  | deleted .. => .info
  | answered _ _ status _ => .ofStatus status

/-- The part of the service that an entry comes from. -/
def source : LogEntry → String
  | created .. => "app.crud"
  | updated .. => "app.crud"
  | deleted .. => "app.crud"
  | answered .. => "app.http"
  | _ => "app.query"

/-- The wording of an entry.  The duration of a request is not part of it. -/
def message : LogEntry → String
  | conditionDropped cause => "filter condition dropped: " ++ cause.message
  | relationsUnknown => "loadAll requested without collection metadata; no relations loaded"
  | timedOut collection seconds =>
    "query on " ++ collection ++ " timed out after " ++ seconds.fixed 2 ++ "s"
  | cancelledByCaller collection => "query on " ++ collection ++ " cancelled by caller"
  | valueOutOfRange collection =>
    "query on " ++ collection ++ " rejected by the driver: value out of range"
  | queryFailed collection => "query on " ++ collection ++ " failed"
  | created collection id => "created " ++ collection ++ " " ++ id
  | updated collection id fields =>
    "updated " ++ collection ++ " " ++ id ++ " fields=" ++ joinWith "," fields
  | deleted collection id => "deleted " ++ collection ++ " " ++ id
  | answered method path status requestId =>
    method ++ " " ++ path ++ " status=" ++ Value.intText status ++ " duration_ms=* request_id=" ++
      requestId

def line (e : LogEntry) : String := e.level.name ++ " " ++ e.source ++ ": " ++ e.message

end LogEntry

end CollectionQuery
