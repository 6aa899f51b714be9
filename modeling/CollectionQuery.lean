import CollectionQuery.Calendar.Date
import CollectionQuery.Calendar.DateTime
import CollectionQuery.Calendar.IsoText
import CollectionQuery.Cell
import CollectionQuery.Cell.Binding
import CollectionQuery.Cell.Operand
import CollectionQuery.Clause
import CollectionQuery.Clause.OfPredicate
import CollectionQuery.Clause.Phrase
import CollectionQuery.Clause.Truth
import CollectionQuery.Coercion
import CollectionQuery.Digest
import CollectionQuery.Draft
import CollectionQuery.Engine
import CollectionQuery.Engine.LeftToRight
import CollectionQuery.Failure
import CollectionQuery.FieldPath
import CollectionQuery.Filter
import CollectionQuery.Filter.Predicate
import CollectionQuery.Http.Body
import CollectionQuery.Http.CrossOrigin
import CollectionQuery.Http.Exchange
import CollectionQuery.Http.Message
import CollectionQuery.Http.Route
import CollectionQuery.Http.Target
import CollectionQuery.Json
import CollectionQuery.Json.Nesting
import CollectionQuery.Json.Reader
import CollectionQuery.Json.Writer
import CollectionQuery.LogEntry
import CollectionQuery.Number.Binary64
import CollectionQuery.Number.Decimal
import CollectionQuery.Number.Extended
import CollectionQuery.Number.Reading
import CollectionQuery.Number.Shortest
import CollectionQuery.Number.StoredNumeral
import CollectionQuery.Number.StoredText
import CollectionQuery.Operator
import CollectionQuery.Outcome
import CollectionQuery.Page
import CollectionQuery.Pagination
import CollectionQuery.PasswordHash
import CollectionQuery.Payload
import CollectionQuery.Payload.UserFields
import CollectionQuery.Plan
import CollectionQuery.Predicate
import CollectionQuery.Proofs.Calendar
import CollectionQuery.Proofs.Calendar.Days
import CollectionQuery.Proofs.Calendar.Instants
import CollectionQuery.Proofs.Calendar.IsoText
import CollectionQuery.Proofs.Calendar.Writing
import CollectionQuery.Proofs.Cell.Binding
import CollectionQuery.Proofs.Cell.Operand
import CollectionQuery.Proofs.Cell.Order
import CollectionQuery.Proofs.Clause.Alike
import CollectionQuery.Proofs.Clause.Guarded
import CollectionQuery.Proofs.Clause.Known
import CollectionQuery.Proofs.Clause.Meaning
import CollectionQuery.Proofs.Clause.Tests
import CollectionQuery.Proofs.Coercion
import CollectionQuery.Proofs.Coercion.Digits
import CollectionQuery.Proofs.Coercion.Typed
import CollectionQuery.Proofs.Comparison.Dates
import CollectionQuery.Proofs.Comparison.Days
import CollectionQuery.Proofs.Comparison.Faults
import CollectionQuery.Proofs.Comparison.Instants
import CollectionQuery.Proofs.Comparison.Integers
import CollectionQuery.Proofs.Comparison.Operands
import CollectionQuery.Proofs.Comparison.Words
import CollectionQuery.Proofs.Draft
import CollectionQuery.Proofs.Draft.Password
import CollectionQuery.Proofs.Draft.Refusals
import CollectionQuery.Proofs.Draft.Slug
import CollectionQuery.Proofs.Failure
import CollectionQuery.Proofs.FieldPath
import CollectionQuery.Proofs.Filter.Alike
import CollectionQuery.Proofs.Filter.Document
import CollectionQuery.Proofs.Filter.Leaves
import CollectionQuery.Proofs.Filter.Meaning
import CollectionQuery.Proofs.Filter.Reading
import CollectionQuery.Proofs.Filter.Strictness
import CollectionQuery.Proofs.Handle
import CollectionQuery.Proofs.Http.Exchange
import CollectionQuery.Proofs.Json.Descent
import CollectionQuery.Proofs.Json.Layout
import CollectionQuery.Proofs.Json.Members
import CollectionQuery.Proofs.Json.Nesting
import CollectionQuery.Proofs.Json.Reader
import CollectionQuery.Proofs.Json.Scalars
import CollectionQuery.Proofs.Lists
import CollectionQuery.Proofs.Number.Digits
import CollectionQuery.Proofs.Number.Rounding
import CollectionQuery.Proofs.Number.Truncation
import CollectionQuery.Proofs.Operator
import CollectionQuery.Proofs.Outcome
import CollectionQuery.Proofs.Page
import CollectionQuery.Proofs.Page.Ceiling
import CollectionQuery.Proofs.Payload.UserFields
import CollectionQuery.Proofs.Plan
import CollectionQuery.Proofs.Plan.Refusals
import CollectionQuery.Proofs.Plan.WellFormed
import CollectionQuery.Proofs.Predicate.Alike
import CollectionQuery.Proofs.Predicate.Alternating
import CollectionQuery.Proofs.Predicate.Guarded
import CollectionQuery.Proofs.Predicate.Leaves
import CollectionQuery.Proofs.Predicate.Meaning
import CollectionQuery.Proofs.Predicate.Shape
import CollectionQuery.Proofs.Predicate.Tests
import CollectionQuery.Proofs.QueryCall
import CollectionQuery.Proofs.QueryCall.Alike
import CollectionQuery.Proofs.QueryCall.Rearranged
import CollectionQuery.Proofs.QueryCall.Refusals
import CollectionQuery.Proofs.QueryParams
import CollectionQuery.Proofs.QueryParams.Condition
import CollectionQuery.Proofs.QueryParams.Spellings
import CollectionQuery.Proofs.RawQuery
import CollectionQuery.Proofs.RelationPath
import CollectionQuery.Proofs.RelationPath.NormalForm
import CollectionQuery.Proofs.RowGraph.Alike
import CollectionQuery.Proofs.RowGraph.Columns
import CollectionQuery.Proofs.RowGraph.Keys
import CollectionQuery.Proofs.RowGraph.Lookup
import CollectionQuery.Proofs.RowGraph.Outline
import CollectionQuery.Proofs.RowGraph.Rearranged
import CollectionQuery.Proofs.RowOrder
import CollectionQuery.Proofs.Schema
import CollectionQuery.Proofs.SchemaFault
import CollectionQuery.Proofs.Service.Constraints
import CollectionQuery.Proofs.Service.Credentials
import CollectionQuery.Proofs.Service.Dates
import CollectionQuery.Proofs.Service.Frame
import CollectionQuery.Proofs.Service.HiddenFields
import CollectionQuery.Proofs.Service.Instants
import CollectionQuery.Proofs.Service.ListRefusals
import CollectionQuery.Proofs.Service.Listing
import CollectionQuery.Proofs.Service.Pages
import CollectionQuery.Proofs.Service.Projection
import CollectionQuery.Proofs.Service.PublicScope
import CollectionQuery.Proofs.Service.Reachable
import CollectionQuery.Proofs.Service.References
import CollectionQuery.Proofs.Service.Refusals
import CollectionQuery.Proofs.Service.Removal
import CollectionQuery.Proofs.Service.Selection
import CollectionQuery.Proofs.Service.SlugForm
import CollectionQuery.Proofs.Service.Slugs
import CollectionQuery.Proofs.Slug
import CollectionQuery.Proofs.Slug.Compound
import CollectionQuery.Proofs.Slug.Search
import CollectionQuery.Proofs.SortKey
import CollectionQuery.Proofs.Store.Alike
import CollectionQuery.Proofs.Store.Constraints
import CollectionQuery.Proofs.Store.Frame
import CollectionQuery.Proofs.Store.Reading
import CollectionQuery.Proofs.Store.References
import CollectionQuery.Proofs.Store.Refusals
import CollectionQuery.Proofs.Store.Removal
import CollectionQuery.Proofs.Store.WellFormed
import CollectionQuery.Proofs.Store.Writing
import CollectionQuery.Proofs.Text.Blank
import CollectionQuery.Proofs.Text.LetterCase
import CollectionQuery.Proofs.Text.Pattern
import CollectionQuery.Proofs.Truth
import CollectionQuery.Proofs.Uuid
import CollectionQuery.QueryCall
import CollectionQuery.QueryParams
import CollectionQuery.RawQuery
import CollectionQuery.RawQuery.UrlText
import CollectionQuery.RelationPath
import CollectionQuery.Row
import CollectionQuery.RowGraph
import CollectionQuery.RowGraph.Loading
import CollectionQuery.RowOrder
import CollectionQuery.Schema
import CollectionQuery.Schema.Name
import CollectionQuery.SchemaFault
import CollectionQuery.SchemaFault.Scalars
import CollectionQuery.Service
import CollectionQuery.Settings
import CollectionQuery.Slug
import CollectionQuery.SortKey
import CollectionQuery.Store
import CollectionQuery.Store.Writing
import CollectionQuery.Text.Alphanumeric
import CollectionQuery.Text.Blank
import CollectionQuery.Text.CodePoints
import CollectionQuery.Text.LetterCase
import CollectionQuery.Text.LetterCase.Context
import CollectionQuery.Text.LetterCase.Tables
import CollectionQuery.Text.Pattern
import CollectionQuery.Text.Quoted
import CollectionQuery.Text.Span
import CollectionQuery.Text.Split
import CollectionQuery.Text.Utf8
import CollectionQuery.Text.WideUnits
import CollectionQuery.Truth
import CollectionQuery.Uuid
import CollectionQuery.Value
import CollectionQuery.Value.Plain
import CollectionQuery.Value.Text
