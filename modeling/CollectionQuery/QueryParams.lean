import CollectionQuery.Failure
import CollectionQuery.Filter
import CollectionQuery.Json.Reader
import CollectionQuery.RawQuery
import CollectionQuery.Settings

/-!
# Query parameters

The parameters of a query: the page, the order, the search, the filter, the selected fields and the
relations to load.  All faults of the parameters are reported together, in the order of the
parameters; the bounds of the page length and of the filter depth are checked if there are none.

A filter comes as a JSON text or as an object.  A text with more brackets open at once than a filter
of the greatest depth can have is refused before it is read.
-/

namespace CollectionQuery

open CollectionQuery.Text

/-- The parameters of a query. -/
structure QueryParams where
  /-- The number of the page, from 1. -/
  page : Int
  /-- The length of a page. -/
  limit : Int
  /-- The fields to sort by. -/
  sortBy : Option String
  /-- The directions to sort in. -/
  sortOrder : Option String
  /-- The search term. -/
  search : Option AnyText
  searchFields : List String
  filter : Option FilterGroup
  /-- The fields to return. -/
  select : List String
  /-- The fields not to return. -/
  exclude : List String
  /-- The relations to load. -/
  relations : List String
  /-- Whether to load all relations. -/
  loadAll : Bool

/-! ## Reading one parameter -/

/-- A text or null. -/
def Checked.optionalText : Value → Checked (Option String)
  | .null => .ok none
  | v => (Checked.text v).map some

/-- A search term or null. -/
def Checked.searchTerm : Value → Checked (Option AnyText)
  | .unpaired t => .ok (some t)
  | v => (Checked.optionalText v).map fun term => term.map .whole

/-- The entries of a list: a text is split at commas, and blank pieces are left out. -/
def splitEntry : Value → List Value
  | .text s => (((splitOnChar ',' s).map strip).filter (· ≠ "")).map Value.text
  | .unpaired t => (((splitOnChar ',' t.shown).map strip).filter (· ≠ "")).map Value.text
  | v => [v]

/-- Texts, numbered from `index`. -/
def Checked.textItems : (index : Nat) → List Value → Checked (List String)
  | _, [] => .ok []
  | index, v :: rest =>
    Checked.cons (Checked.within (Value.intText index) (Checked.text v))
      (textItems (index + 1) rest)

/-- A list of texts.  A single text is a list of its pieces, and null is the empty list. -/
def Checked.texts : Value → Checked (List String)
  | .null => .ok []
  | .text s => textItems 0 (splitEntry (.text s))
  | .unpaired t => textItems 0 (splitEntry (.unpaired t))
  | .list items => textItems 0 (items.flatMap splitEntry)
  | .tuple items => textItems 0 (items.flatMap splitEntry)
  | _ => .fault .listKind

/-- The most brackets that may be open at once in the text of a filter.  A level of groups takes
two, and a condition on the last one up to four more. -/
def bracketLimit (filterMaxDepth : Int) : Int := 2 * filterMaxDepth + 4

/-- A filter in a JSON text. -/
def Checked.filterText (settings : Settings) (text : AnyText) : Checked (Option FilterGroup) :=
  let text := text.strip
  if text = .whole "" then .ok none
  else if bracketLimit settings.filterMaxDepth < (Json.nesting text.shown : Int) then
    .fault (.nesting settings.filterMaxDepth)
  else match Json.readWithin settings.nesting.filterText text with
    | .ok document => FilterGroup.read? settings.nesting.groups document.toValue
    | .error _ => .fault .filterJson

def Checked.filter (settings : Settings) : Value → Checked (Option FilterGroup)
  | .text s => filterText settings s
  | .unpaired t => filterText settings t
  | v => FilterGroup.read? settings.nesting.groups v

/-! ## Reading all parameters -/

/-- A parameter that has two names; the first one counts if both are there. -/
def Checked.parameter {α : Type} (document : List (String × Value)) (name second : String)
    (absent : α) (read : Value → Checked α) : Checked α :=
  match Value.member? document name with
  | some v => within name (read v)
  | none => match Value.member? document second with
    | some v => within second (read v)
    | none => .ok absent

namespace QueryParams

/-- The parameters of a document, apart from the bounds. -/
def ofDocument (settings : Settings) (document : List (String × Value)) : Checked QueryParams :=
  let page := Checked.parameter document "page" "page" 1 Checked.positive
  let limit := Checked.parameter document "limit" "limit" settings.defaultLimit Checked.positive
  let sortBy := Checked.parameter document "sortBy" "sort_by" none Checked.optionalText
  let sortOrder := Checked.parameter document "sortOrder" "sort_order" none Checked.optionalText
  let search := Checked.parameter document "search" "search" none Checked.searchTerm
  let searchFields := Checked.parameter document "searchFields" "search_fields" [] Checked.texts
  let filter := Checked.parameter document "filter" "filter" none
    (Checked.filter settings)
  let select := Checked.parameter document "select" "select" [] Checked.texts
  let exclude := Checked.parameter document "exclude" "exclude" [] Checked.texts
  let relations := Checked.parameter document "relations" "relations" [] Checked.texts
  let loadAll := Checked.parameter document "loadAll" "load_all" false Checked.bool
  let texts := Checked.both sortBy (Checked.both sortOrder search)
  let lists := Checked.both select (Checked.both exclude (Checked.both relations loadAll))
  (Checked.both (Checked.both page limit)
    (Checked.both texts (Checked.both (Checked.both searchFields filter) lists))).map fun r => {
      page := r.1.1
      limit := r.1.2
      sortBy := r.2.1.1
      sortOrder := r.2.1.2.1
      search := r.2.1.2.2
      searchFields := r.2.2.1.1
      filter := r.2.2.1.2
      select := r.2.2.2.1
      exclude := r.2.2.2.2.1
      relations := r.2.2.2.2.2.1
      loadAll := r.2.2.2.2.2.2 }

/-- Refuses a page that is too long, and then a filter that is too deep. -/
def checkBounds (settings : Settings) (q : QueryParams) : Checked QueryParams :=
  if settings.maxLimit < q.limit then .fault (.pageLimit settings.maxLimit)
  else match q.filter with
    | none => .ok q
    | some g =>
      if settings.filterMaxDepth < (g.depth : Int) then .fault (.nesting settings.filterMaxDepth)
      else .ok q

/-- The parameters of a query. -/
def ofRaw (settings : Settings) (raw : RawQuery) : Except Failure QueryParams :=
  match ofDocument settings raw.document >>= checkBounds settings with
  | .ok q => .ok q
  | .error faults => .error (.rejected (.parameters faults))

end QueryParams

end CollectionQuery
