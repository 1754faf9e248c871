import ResourceApi.Calendar.Date
import ResourceApi.Calendar.Timestamp
import ResourceApi.Catalog.Book
import ResourceApi.Catalog.Item
import ResourceApi.Failure
import ResourceApi.FieldType
import ResourceApi.Filter.Error
import ResourceApi.Filter.Expression
import ResourceApi.Filter.Key
import ResourceApi.Filter.Operator
import ResourceApi.Filter.Pattern
import ResourceApi.Filter.Satisfies
import ResourceApi.Http.Message
import ResourceApi.Http.Pattern
import ResourceApi.Http.Routes
import ResourceApi.Http.Target
import ResourceApi.Journal
import ResourceApi.Json.Node
import ResourceApi.Json.Record
import ResourceApi.Json.Text
import ResourceApi.Media.Range
import ResourceApi.Media.Representation
import ResourceApi.Number.Binary
import ResourceApi.Number.Decimal
import ResourceApi.Number.Digits
import ResourceApi.Number.Shortest
import ResourceApi.Proofs.Calendar.Dates
import ResourceApi.Proofs.Catalog.Answering
import ResourceApi.Proofs.Catalog.Bylines
import ResourceApi.Proofs.Catalog.Custody
import ResourceApi.Proofs.Catalog.Documents
import ResourceApi.Proofs.Catalog.Drafts
import ResourceApi.Proofs.Catalog.Edits
import ResourceApi.Proofs.Catalog.Escapes
import ResourceApi.Proofs.Catalog.Findings
import ResourceApi.Proofs.Catalog.Library
import ResourceApi.Proofs.Catalog.Locations
import ResourceApi.Proofs.Catalog.Markup
import ResourceApi.Proofs.Catalog.Renderings
import ResourceApi.Proofs.Catalog.Rules
import ResourceApi.Proofs.Catalog.Shelf
import ResourceApi.Proofs.Catalog.Visits
import ResourceApi.Proofs.Catalog.WriteBack
import ResourceApi.Proofs.Filter.KeyLanguage
import ResourceApi.Proofs.Filter.Keys
import ResourceApi.Proofs.Filter.Operators
import ResourceApi.Proofs.Filter.Patterns
import ResourceApi.Proofs.Filter.Stretches
import ResourceApi.Proofs.Filter.Trees
import ResourceApi.Proofs.Http.Bases
import ResourceApi.Proofs.Http.Members
import ResourceApi.Proofs.Http.Responses
import ResourceApi.Proofs.Http.Silence
import ResourceApi.Proofs.Json.Node
import ResourceApi.Proofs.Json.Record
import ResourceApi.Proofs.Json.Text
import ResourceApi.Proofs.Json.Values
import ResourceApi.Proofs.Likeness
import ResourceApi.Proofs.Markup.Grammar
import ResourceApi.Proofs.Media.CanonicalForm
import ResourceApi.Proofs.Media.Negotiation
import ResourceApi.Proofs.Number.Decimals
import ResourceApi.Proofs.Number.Digits
import ResourceApi.Proofs.Number.Rounding
import ResourceApi.Proofs.Query.Acceptance
import ResourceApi.Proofs.Query.Arrival
import ResourceApi.Proofs.Query.Building
import ResourceApi.Proofs.Query.Lookups
import ResourceApi.Proofs.Query.Meaning
import ResourceApi.Proofs.Query.Paging
import ResourceApi.Proofs.Query.Parameters
import ResourceApi.Proofs.Query.Selection
import ResourceApi.Proofs.Query.Sorting
import ResourceApi.Proofs.Query.Windows
import ResourceApi.Proofs.Reading
import ResourceApi.Proofs.Scope
import ResourceApi.Proofs.Script
import ResourceApi.Proofs.Service.Calls
import ResourceApi.Proofs.Service.Conversations
import ResourceApi.Proofs.Service.Creation
import ResourceApi.Proofs.Service.Deletions
import ResourceApi.Proofs.Service.Errands
import ResourceApi.Proofs.Service.Finalization
import ResourceApi.Proofs.Service.Gates
import ResourceApi.Proofs.Service.Gating
import ResourceApi.Proofs.Service.Opacity
import ResourceApi.Proofs.Service.Overtaking
import ResourceApi.Proofs.Service.Races
import ResourceApi.Proofs.Service.Requests
import ResourceApi.Proofs.Service.Rivals
import ResourceApi.Proofs.Service.Scenarios
import ResourceApi.Proofs.Service.Stages
import ResourceApi.Proofs.Service.Upkeep
import ResourceApi.Proofs.Settings.Layers
import ResourceApi.Proofs.Settings.Precedence
import ResourceApi.Proofs.Settings.Sources
import ResourceApi.Proofs.StableSort
import ResourceApi.Proofs.Store.Answers
import ResourceApi.Proofs.Store.Batches
import ResourceApi.Proofs.Store.Changes
import ResourceApi.Proofs.Store.Conflicts
import ResourceApi.Proofs.Store.Endings
import ResourceApi.Proofs.Store.History
import ResourceApi.Proofs.Store.Holdings
import ResourceApi.Proofs.Store.Identifiers
import ResourceApi.Proofs.Store.Index
import ResourceApi.Proofs.Store.Isolation
import ResourceApi.Proofs.Store.LastWords
import ResourceApi.Proofs.Store.Ledger
import ResourceApi.Proofs.Store.Sessions
import ResourceApi.Proofs.Store.Unnamed
import ResourceApi.Proofs.Store.Wording
import ResourceApi.Proofs.Store.WriteSets
import ResourceApi.Proofs.Text.Delimited
import ResourceApi.Proofs.Text.Pieces
import ResourceApi.Proofs.Text.Trimming
import ResourceApi.Proofs.Text.Utf8
import ResourceApi.Proofs.Toml.Names
import ResourceApi.Proofs.Value
import ResourceApi.Query.Build
import ResourceApi.Query.Limits
import ResourceApi.Query.Parameter
import ResourceApi.Query.SortKey
import ResourceApi.Query.Window
import ResourceApi.Regular.Basic
import ResourceApi.Regular.Escape
import ResourceApi.Regular.Read
import ResourceApi.Regular.Set
import ResourceApi.Resource.Basic
import ResourceApi.Resource.Grant
import ResourceApi.Resource.Problem
import ResourceApi.Resource.Service
import ResourceApi.Resource.Violations
import ResourceApi.Schema
import ResourceApi.Scope
import ResourceApi.Script
import ResourceApi.Server.Directive
import ResourceApi.Server.Startup
import ResourceApi.Settings.Basic
import ResourceApi.Settings.Tree
import ResourceApi.Settings.Variable
import ResourceApi.StableSort
import ResourceApi.Store.Answerer
import ResourceApi.Store.Basic
import ResourceApi.Store.Batch
import ResourceApi.Store.Session
import ResourceApi.Store.World
import ResourceApi.Text.Alphanumeric
import ResourceApi.Text.Ascii
import ResourceApi.Text.Blank
import ResourceApi.Text.Hidden
import ResourceApi.Text.Percent
import ResourceApi.Text.Quoted
import ResourceApi.Text.Split
import ResourceApi.Text.Utf8
import ResourceApi.Toml.Document
import ResourceApi.Toml.Quoted
import ResourceApi.Toml.Scalar
import ResourceApi.Toml.Section
import ResourceApi.Value
