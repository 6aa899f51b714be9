import CollectionQuery.SchemaFault.Scalars

/-!
# Settings

The settings of the service and how they are read from the environment.  Every faulty variable is
reported, in the order of the settings.
-/

namespace CollectionQuery

open CollectionQuery.Number CollectionQuery.Text

/-- How deep documents may be nested.  The reader of JSON and the check of a document go down level
by level, and each has a bound of its own. -/
structure NestingLimits where
  /-- The most lists and objects that may be open at once in the text of a filter. -/
  filterText : Nat := 985
  /-- The most that may be open at once in a body. -/
  body : Nat := 960
  /-- The most levels of a document that is checked.  The parameters of a query are one, and so is
  each group of a filter. -/
  levels : Nat := 255
  /-- A query with a filter is checked. -/
  two_le_levels : 2 ≤ levels := by decide
  /-- The reader has room for every filter that is checked. -/
  levels_le_filterText : 2 * levels + 2 ≤ filterText := by decide

instance : Inhabited NestingLimits := ⟨{}⟩

/-- The most groups of a filter that may stand inside each other, the outermost included. -/
def NestingLimits.groups (limits : NestingLimits) : Nat := limits.levels - 1

/-- The settings of the service. -/
structure Settings where
  /-- Where the service runs. -/
  environment : String := "local"
  serviceName : String := "collection-query-backend"
  /-- The least level of log entries. -/
  logLevel : String := "INFO"
  /-- The origins whose pages may call the service, separated by commas. -/
  origins : String := "http://localhost:3000,http://localhost:8081"
  databaseUrl : String := "sqlite+pysqlite:///./app.db"
  /-- The length of a page if a query does not give it. -/
  defaultLimit : Int := 10
  /-- The greatest length of a page. -/
  maxLimit : Int := 100
  /-- The greatest number of levels of a filter. -/
  filterMaxDepth : Int := 5
  /-- How many seconds a query may take. -/
  timeoutSeconds : Binary64 := .ofDecimal false 10 0
  /-- Whether a malformed condition is refused instead of dropped. -/
  strictConditions : Bool := false
  /-- How deep documents may be nested, which no variable changes. -/
  nesting : NestingLimits := default

/-- The origins, without blanks around them. -/
def Settings.originList (s : Settings) : List String :=
  ((splitOnChar ',' s.origins).map strip).filter (· ≠ "")

/-! ## The environment -/

/-- A variable of the environment, read if it is there. -/
def Settings.fromVariable {α : Type} (env : List (String × String)) (name : String) (default : α)
    (read : String → Checked α) : Checked α :=
  match env.find? fun e => e.1 == name with
  | some e => Checked.within name (read e.2)
  | none => .ok default

/-- The settings that an environment gives. -/
def Settings.ofEnvironment (env : List (String × String)) : Checked Settings :=
  let base : Settings := {}
  let text (name fallback : String) := ((env.find? fun e => e.1 == name).map (·.2)).getD fallback
  let limits := Checked.both
    (fromVariable env "QUERY_DEFAULT_LIMIT" base.defaultLimit Checked.integerText)
    (Checked.both (fromVariable env "QUERY_MAX_LIMIT" base.maxLimit Checked.integerText)
      (fromVariable env "QUERY_FILTER_MAX_DEPTH" base.filterMaxDepth Checked.integerText))
  let rest := Checked.both
    (fromVariable env "QUERY_TIMEOUT_SECONDS" base.timeoutSeconds Checked.numberText)
    (fromVariable env "QUERY_STRICT_CONDITIONS" base.strictConditions Checked.boolText)
  (Checked.both limits rest).map fun r => {
    environment := text "APP_ENV" base.environment
    serviceName := text "APP_NAME" base.serviceName
    logLevel := text "LOG_LEVEL" base.logLevel
    origins := text "CORS_ORIGINS" base.origins
    databaseUrl := text "DATABASE_URL" base.databaseUrl
    defaultLimit := r.1.1
    maxLimit := r.1.2.1
    filterMaxDepth := r.1.2.2
    timeoutSeconds := r.2.1
    strictConditions := r.2.2 }

/-- Whether the database is a file that only one thread may open by default. -/
def Settings.isFileDatabase (url : String) : Bool := "sqlite".toList.isPrefixOf url.toList

end CollectionQuery
