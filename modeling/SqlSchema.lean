import SqlSchema.Connection.Address
import SqlSchema.Connection.Debug
import SqlSchema.Connection.Document
import SqlSchema.Connection.Factory
import SqlSchema.Driver.Scripted
import SqlSchema.Proofs.Literal.Reader
import SqlSchema.Proofs.Literal.RoundTrip
import SqlSchema.Proofs.Statement.Literals
import SqlSchema.Proofs.Session.Calls
import SqlSchema.Proofs.Driver.Batch
import SqlSchema.Proofs.Session.History
import SqlSchema.Proofs.Session.Verification
import SqlSchema.Proofs.Ddl.Closed
import SqlSchema.Proofs.Traversal
import SqlSchema.Proofs.Schema.Clauses
import SqlSchema.Proofs.Ddl.Clauses
import SqlSchema.Proofs.Ddl.Identifiers
import SqlSchema.Proofs.Json.DistinctKeys
import SqlSchema.Proofs.Schema.TableDocument
import SqlSchema.Proofs.Schema.Document
import SqlSchema.Proofs.Schema.WellFormed
import SqlSchema.Proofs.Ddl.ConstraintNames
import SqlSchema.Proofs.Statement.Escaping
import SqlSchema.Proofs.Number.Digits
import SqlSchema.Proofs.Temporal.RoundTrip
import SqlSchema.Proofs.Uuid
import SqlSchema.Proofs.Decimal
import SqlSchema.Proofs.Decode
import SqlSchema.Proofs.Value.Document
import SqlSchema.Proofs.Connection.Document
import SqlSchema.Proofs.Text.Quoted
import SqlSchema.Proofs.Connection.Debug
import SqlSchema.Proofs.Text.Blank
import SqlSchema.Proofs.Text.Case
import SqlSchema.Proofs.Driver.Keyword
import SqlSchema.Proofs.Statement.Verb
import SqlSchema.Proofs.Session.Results
import SqlSchema.Proofs.Driver.History
import SqlSchema.Proofs.Number.Rounding
import SqlSchema.Proofs.Schema.ColumnDocument
import SqlSchema.Proofs.Schema.ForeignKey
import SqlSchema.Proofs.Schema.Defects
import SqlSchema.Proofs.Session.Batch
import SqlSchema.Proofs.Driver.FirstWord
import SqlSchema.Proofs.Sqlite.Decode
import SqlSchema.Proofs.Sqlite.TemporalCells
import SqlSchema.Proofs.Driver.LastInsert
import SqlSchema.Proofs.Sqlite.RowIds
import SqlSchema.Proofs.Text.Utf8
import SqlSchema.Proofs.Json.Grammar
import SqlSchema.Proofs.Json.Tokens
import SqlSchema.Proofs.Json.Completeness
import SqlSchema.Proofs.MySql.Payload
import SqlSchema.Proofs.MySql.Cells
import SqlSchema.Proofs.Json.RoundTrip
import SqlSchema.Proofs.Statement.Selection
import SqlSchema.Proofs.Schema.Constraints
import SqlSchema.Proofs.Text.Percent
import SqlSchema.Proofs.Net.Url
import SqlSchema.Proofs.Connection.Address
import SqlSchema.Proofs.Keyed
import SqlSchema.Proofs.Replacement
