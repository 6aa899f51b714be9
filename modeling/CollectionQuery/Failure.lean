import CollectionQuery.Operator
import CollectionQuery.SchemaFault

/-!
# Failures

Every way in which an operation can fail, by cause.  `Failure.message?` gives the wording and
`Failure.status?` the status of the response; a wording with half a surrogate pair cannot be sent.
A `Fault` has no status: no part of the service expects it, so a request that meets one ends with a
bare server error.
-/

namespace CollectionQuery

open CollectionQuery.Text

/-- A text in double quotes, nothing in it escaped. -/
def inQuotes (text : String) : String := "\"" ++ text ++ "\""

/-! ## Queries that are refused before anything runs -/

/-- What is wrong with a condition whose field is a path. -/
inductive MalformedCondition where
  /-- There is no such operator. -/
  | unknownOperator (operator : AnyText) (field : String)
  /-- The value does not have the shape that the operator takes. -/
  | shape (field : String) (operator : Operator) (fault : ShapeFault)

/-- The wording of a malformed condition. -/
def MalformedCondition.message : MalformedCondition → String
  | unknownOperator operator field =>
    "unsupported operator " ++ inQuotes operator.shown ++ " on field " ++ inQuotes field
  | shape field operator fault => "field " ++ inQuotes field ++ ": " ++ fault.message operator

/-- What a filter value should have been. -/
inductive ValueKind where
  | boolean
  | number
  /-- A number that the column can hold. -/
  | numberInRange
  | date
  | dateTime
deriving DecidableEq

/-- The wording of a kind of value. -/
def ValueKind.name : ValueKind → String
  | .boolean => "boolean"
  | .number => "number"
  | .numberInRange => "number out of range"
  | .date => "date"
  | .dateTime => "datetime"

/-- Why a query is refused. -/
inductive Rejection where
  /-- Its parameters do not fit. -/
  | parameters (faults : List SchemaFault)
  /-- Its filter is nested too deep. -/
  | nesting (most : Int)
  | condition (cause : MalformedCondition)
  /-- A search field is no path. -/
  | searchField (field : String)
  /-- A sort direction is neither ascending nor descending. -/
  | sortDirection (token : String)
  /-- A sort field is no path. -/
  | sortField (field : String)
  /-- A relation is not named by a path. -/
  | relationPath (path : String)
  /-- A filter value does not have the type of its column. -/
  | filterValue (column : String) (kind : ValueKind)
  /-- A filter value is no identifier. -/
  | filterIdentifier (column : String)
  /-- A value or a page is too large for the storage engine. -/
  | outOfRange

/-- The wording of a refusal. -/
def Rejection.message : Rejection → String
  | parameters faults => SchemaFault.messages faults
  | nesting most => SchemaFault.nestingMessage most
  | condition cause => cause.message
  | searchField field => "invalid search field " ++ inQuotes field
  | sortDirection token => "sortOrder must be ASC or DESC, got " ++ inQuotes token
  | sortField field => "invalid sort field " ++ inQuotes field
  | relationPath path => "invalid relation path " ++ inQuotes path
  | filterValue column kind =>
    "Invalid filter value for field " ++ inQuotes column ++ " (" ++ kind.name ++ ")"
  | filterIdentifier column => "Invalid UUID in filter for field " ++ inQuotes column
  | outOfRange => "Filter value out of range"

/-! ## Queries that do not fit the collection -/

/-- Why a plan cannot run on a collection. -/
inductive Misfit where
  /-- There is no such field. -/
  | field (path : String)
  /-- There is no such relation. -/
  | relation (name path : String)
  /-- The operator matches text and the field is none. -/
  | textOperator (operator : Operator) (path : String)
  /-- The predicate that everything meets stands inside another. -/
  | nestedAlways
  /-- A to-many relation gives no order. -/
  | sortRelation (name : String)
  /-- There is no such field to sort by. -/
  | sortField (path : String)
  /-- There are no such fields to select. -/
  | selection (names : List String)
  /-- The engine gives another reason. -/
  | other (detail : String)

/-- The wording of a misfit. -/
def Misfit.message : Misfit → String
  | field path => "Unknown field " ++ inQuotes path
  | relation name path => "Unknown relation " ++ inQuotes name ++ " in " ++ inQuotes path
  | textOperator operator path =>
    "Operator " ++ inQuotes operator.name ++ " needs a text field, " ++ inQuotes path ++
      " is not one"
  | nestedAlways => "Unsupported predicate TRUE"
  | sortRelation name => "Cannot sort by to-many relation " ++ inQuotes name
  | sortField path => "Unknown sort field " ++ inQuotes path
  | selection names => "Unknown select fields: " ++ joinWith ", " names
  | other detail => detail

/-! ## Requests that are refused -/

/-- Why a request for rows is refused. -/
inductive Refusal where
  /-- There is no such collection. -/
  | noCollection
  /-- There is no such row. -/
  | noRow
  /-- The text is no identifier. -/
  | identifier
  | compoundKey
  | notObject
  /-- The body has members that cannot be set. -/
  | unknownFields (names : List AnyText)
  /-- The field needs a value. -/
  | nullField (name : String)
  /-- The field takes an identifier. -/
  | notIdentifier (name : String)
  /-- The field takes a date. -/
  | notDate (name : String)
  | noFields
  | missingFields (names : List String)
  /-- The field is derived and cannot be set. -/
  | readOnly (name : String)
  | noPassword
  | emptyPassword
  /-- There is no such role. -/
  | role
  /-- The e-mail address is blank. -/
  | emptyEmail
  /-- No free slug was found. -/
  | noSlug
  /-- The row breaks a constraint of the table. -/
  | constraint
  /-- Other rows need the row. -/
  | referenced
  /-- The body is no JSON document, for another reason than its grammar. -/
  | unreadableBody
deriving DecidableEq

/-- The wording of a refusal. -/
def Refusal.message : Refusal → String
  | noCollection => "Collection not found"
  | noRow => "Row not found"
  | identifier => "Invalid identifier"
  | compoundKey => "Only single-column primary keys are supported"
  | notObject => "Request body must be a JSON object"
  | unknownFields names => "Unknown fields: " ++ joinWith ", " (names.map AnyText.shown)
  | nullField name => "Field " ++ inQuotes name ++ " cannot be null"
  | notIdentifier name => "Field " ++ inQuotes name ++ " must be a UUID"
  | notDate name => "Field " ++ inQuotes name ++ " must be an ISO date"
  | noFields => "No fields to update"
  | missingFields names => "Missing required fields: " ++ joinWith ", " names
  | readOnly name => "Field " ++ inQuotes name ++ " is read-only"
  | noPassword => "Field \"password\" is required"
  | emptyPassword => "Password cannot be empty"
  | role => "Invalid role"
  | emptyEmail => "Email cannot be empty"
  | noSlug => "Could not generate a unique slug"
  | constraint => "Data constraint violation"
  | referenced => "Row cannot be deleted because related rows reference it"
  | unreadableBody => "There was an error parsing the body"

def Refusal.status : Refusal → Nat
  | noCollection => 404
  | noRow => 404
  | _ => 400

/-! ## Failures that nothing expects -/

/-- A failure that no part of the service expects. -/
inductive Fault where
  /-- A date would lie outside the calendar. -/
  | dateRange
  /-- An integer has more bits than a column holds. -/
  | integerRange
  /-- A quotient is too large for a floating point number. -/
  | quotientRange
  | divisionByZero
  /-- A row does not have the key that is asked for. -/
  | missingKey (name : String)
  /-- A comparison by order has no meaning for the value. -/
  | comparison
  /-- A value does not have the type of its column. -/
  | columnType
  /-- A value has no form in the storage engine. -/
  | unstorable
  /-- A text has half a surrogate pair, so it has no bytes. -/
  | unencodable
  /-- An identifier was stored as a number, a floating point number or not, and cannot be read
  back. -/
  | misread (real : Bool)
  /-- The tables are gone. -/
  | noTables
  /-- A password is too long to be hashed. -/
  | passwordSize
  /-- A value cannot be shown in a response. -/
  | unshowable
  /-- A signaling nan has no floating point number. -/
  | signalingNan
deriving DecidableEq

/-- The wording of a fault, where it has one. -/
def Fault.message? : Fault → Option String
  | dateRange => some "date value out of range"
  | integerRange => some "Python int too large to convert to SQLite INTEGER"
  | quotientRange => some "integer division result too large for a float"
  | divisionByZero => some "division by zero"
  | missingKey name => some (quoted name)
  | misread false => some "'int' object has no attribute 'replace'"
  | misread true => some "'float' object has no attribute 'replace'"
  | unshowable => some "Out of range float values are not JSON compliant"
  | signalingNan => some "cannot convert signaling NaN to float"
  | _ => none

/-- A failure of an operation. -/
inductive Failure where
  /-- A query is refused. -/
  | rejected (cause : Rejection)
  /-- A plan does not fit its collection. -/
  | misfit (cause : Misfit)
  /-- A query took too long. -/
  | timedOut (collection : String)
  /-- A query was cancelled. -/
  | cancelled
  /-- The storage engine failed. -/
  | engine (detail : String)
  /-- A request is refused. -/
  | refused (cause : Refusal)
  /-- A document does not fit its schema. -/
  | malformed (faults : List SchemaFault)
  | fault (cause : Fault)

namespace Failure

/-- What is said of a failure of the storage engine. -/
def engineDetail : String := "Storage engine failure"

/-- The wording of a failure, where it has one. -/
def message? : Failure → Option String
  | rejected cause => some cause.message
  | misfit cause => some cause.message
  | timedOut collection => some ("Query on " ++ inQuotes collection ++ " timed out")
  | cancelled => some "Query cancelled"
  | engine detail => some detail
  | refused cause => some cause.message
  | malformed faults => some (SchemaFault.messages faults)
  | fault cause => cause.message?

/-- The status of the response, where the failure has one. -/
def status? : Failure → Option Nat
  | rejected _ => some 400
  | misfit _ => some 400
  | timedOut _ => some 504
  | cancelled => some 499
  | engine _ => some 500
  | refused cause => some cause.status
  | malformed _ => none
  | fault _ => none

/-- Whether the wording of a failure has no half of a surrogate pair. -/
def isWritable : Failure → Bool
  | rejected (.condition (.unknownOperator operator _)) => operator.isWhole
  | refused (.unknownFields names) => names.all AnyText.isWhole
  | _ => true

end Failure

end CollectionQuery
