import SearchStore.Query.Encode
import SearchStore.Json.Printer
import SearchStore.Store.Recorder
import SearchStore.Envelope.Encode
import SearchStore.Bulk.Process
import SearchStore.Search.Hits
import SearchStore.Rest.Service
import SearchStore.Migration.Script
import SearchStore.Settings.File
import SearchStore.Sql.Script
import SearchStore.Migration.Cluster
import SearchStore.Proofs.Exchanges
import SearchStore.Proofs.Failures
import SearchStore.Proofs.Store.Catalog
import SearchStore.Proofs.Store.Rows
import SearchStore.Proofs.Store.Operation
import SearchStore.Proofs.Store.Sound
import SearchStore.Proofs.Store.Effects
import SearchStore.Proofs.Store.Deeds
import SearchStore.Proofs.Store.Runs
import SearchStore.Proofs.Store.Options
import SearchStore.Proofs.Store.History
import SearchStore.Proofs.Store.Generated
import SearchStore.Proofs.Store.Numbers
import SearchStore.Proofs.Store.Consistency
import SearchStore.Proofs.Store.Ledger
import SearchStore.Proofs.Store.Refinement
import SearchStore.Proofs.Store.Isolation
import SearchStore.Proofs.Store.Interruptions
import SearchStore.Proofs.Store.Retries
import SearchStore.Proofs.Store.Noted
import SearchStore.Proofs.Store.Forgotten
import SearchStore.Proofs.Store.Asked
import SearchStore.Proofs.Store.Spared
import SearchStore.Proofs.Store.Writing
import SearchStore.Proofs.Store.Bystanders
import SearchStore.Proofs.Bulk.Parsed
import SearchStore.Proofs.Bulk.Lines
import SearchStore.Proofs.Bulk.Concatenation
import SearchStore.Proofs.Bulk.Order
import SearchStore.Proofs.Bulk.Batch
import SearchStore.Proofs.Query.Meaning
import SearchStore.Proofs.Query.Annotation
import SearchStore.Proofs.Query.Refusals
import SearchStore.Proofs.Query.Analyzers
import SearchStore.Proofs.Search.Pages
import SearchStore.Proofs.Search.Options
import SearchStore.Proofs.Text.Wildcards
import SearchStore.Proofs.Text.Tables
import SearchStore.Proofs.Text.Words
import SearchStore.Proofs.Text.Percent
import SearchStore.Proofs.Text.Lowering
import SearchStore.Proofs.Text.Casing
import SearchStore.Proofs.Predicate.Matching
import SearchStore.Proofs.Predicate.Casing
import SearchStore.Proofs.Sql.Lexemes
import SearchStore.Proofs.Sql.Conditions
import SearchStore.Proofs.Sql.Rendering
import SearchStore.Proofs.Sql.Quoting
import SearchStore.Proofs.Sql.Shapes
import SearchStore.Proofs.Sql.Server
import SearchStore.Proofs.Sql.Listing
import SearchStore.Proofs.Sql.Mirrored
import SearchStore.Proofs.Sql.Requests
import SearchStore.Proofs.Sql.Following
import SearchStore.Proofs.Sql.Agreement
import SearchStore.Proofs.Sql.Transactions
import SearchStore.Proofs.Sql.Objects
import SearchStore.Proofs.Sql.Kinds
import SearchStore.Proofs.Sql.Drawing
import SearchStore.Proofs.Rest.Serving
import SearchStore.Proofs.Rest.Writes
import SearchStore.Proofs.Rest.Failures
import SearchStore.Proofs.Json.Canonical
import SearchStore.Proofs.Json.Numerals
import SearchStore.Proofs.Json.Spelling
import SearchStore.Proofs.Json.Rereading
import SearchStore.Proofs.Json.Layout
import SearchStore.Proofs.Json.Records
import SearchStore.Proofs.Query.Grammar
import SearchStore.Proofs.Query.Reading
import SearchStore.Proofs.Numeric.Rounding
import SearchStore.Proofs.Query.Normalisation
import SearchStore.Proofs.Bulk.Rendering
import SearchStore.Proofs.Envelope.Items
import SearchStore.Proofs.Rest.IndexCreation
import SearchStore.Proofs.Rest.Sessions
import SearchStore.Proofs.Rest.Paths
import SearchStore.Proofs.Rest.Mappings
import SearchStore.Proofs.Rest.Created
import SearchStore.Proofs.Rest.Documents
import SearchStore.Proofs.Migration.Transfers
import SearchStore.Proofs.Migration.Outline
import SearchStore.Proofs.Migration.Accounting
import SearchStore.Proofs.Migration.Replay
import SearchStore.Proofs.Migration.Resuming
import SearchStore.Proofs.Migration.Releasing
