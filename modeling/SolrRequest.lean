import SolrRequest.Calendar.Date
import SolrRequest.Calendar.DateTime
import SolrRequest.Calendar.Epoch
import SolrRequest.Calendar.Error
import SolrRequest.Calendar.Span
import SolrRequest.Calendar.Timetable
import SolrRequest.Calendar.Zone
import SolrRequest.Call
import SolrRequest.Clause
import SolrRequest.DateFormat.Pattern
import SolrRequest.DateFormat.Reading
import SolrRequest.DateFormat.Token
import SolrRequest.DateFormat.Writing
import SolrRequest.DateRange
import SolrRequest.DateText
import SolrRequest.Document
import SolrRequest.Endpoint
import SolrRequest.Entries
import SolrRequest.Execution
import SolrRequest.Field
import SolrRequest.Field.Layout
import SolrRequest.Field.Lookup
import SolrRequest.FreeDate.Draft
import SolrRequest.FreeDate.Reading
import SolrRequest.FreeDate.Word
import SolrRequest.Host
import SolrRequest.Host.Standard
import SolrRequest.Log
import SolrRequest.Log.Logger
import SolrRequest.Number.Decimal
import SolrRequest.Number.Double
import SolrRequest.Number.Integer
import SolrRequest.Number.Shortest
import SolrRequest.Proofs.Calendar.Chronology
import SolrRequest.Proofs.Calendar.DayNumber
import SolrRequest.Proofs.Calendar.DayOfYear
import SolrRequest.Proofs.Calendar.Epoch
import SolrRequest.Proofs.Calendar.Millis
import SolrRequest.Proofs.Calendar.Timetable
import SolrRequest.Proofs.Calendar.WallClock
import SolrRequest.Proofs.Calendar.WallTime
import SolrRequest.Proofs.Calendar.Zone
import SolrRequest.Proofs.Call.Acceptance
import SolrRequest.Proofs.Call.Meaning
import SolrRequest.Proofs.Call.Number
import SolrRequest.Proofs.Clause.Balance
import SolrRequest.Proofs.Clause.Composition
import SolrRequest.Proofs.Clause.Expression
import SolrRequest.Proofs.DateFormat.Captures
import SolrRequest.Proofs.DateFormat.Layout
import SolrRequest.Proofs.DateFormat.Matching
import SolrRequest.Proofs.DateFormat.RoundTrip
import SolrRequest.Proofs.DateFormat.Selection
import SolrRequest.Proofs.DateFormat.Separators
import SolrRequest.Proofs.DateFormat.Spelling
import SolrRequest.Proofs.DateFormat.Tokens
import SolrRequest.Proofs.DateFormat.Writing
import SolrRequest.Proofs.DateRange.Bound
import SolrRequest.Proofs.DateRange.Order
import SolrRequest.Proofs.DateRange.Rendering
import SolrRequest.Proofs.DateRange.Shape
import SolrRequest.Proofs.DateText.Conversion
import SolrRequest.Proofs.DateText.Failure
import SolrRequest.Proofs.DateText.Fields
import SolrRequest.Proofs.DateText.InputZone
import SolrRequest.Proofs.DateText.Millis
import SolrRequest.Proofs.DateText.Rendering
import SolrRequest.Proofs.Document.Independence
import SolrRequest.Proofs.Document.Remapping
import SolrRequest.Proofs.Document.Route
import SolrRequest.Proofs.Document.Stages
import SolrRequest.Proofs.Entries.Texts
import SolrRequest.Proofs.Execution.Moves
import SolrRequest.Proofs.Execution.Result
import SolrRequest.Proofs.Execution.Run
import SolrRequest.Proofs.Execution.Trace
import SolrRequest.Proofs.Faults
import SolrRequest.Proofs.Host
import SolrRequest.Proofs.Log.Lowering
import SolrRequest.Proofs.Log.Output
import SolrRequest.Proofs.Number.Decimal
import SolrRequest.Proofs.Number.Digits
import SolrRequest.Proofs.Number.FloatClass
import SolrRequest.Proofs.Number.Nearest
import SolrRequest.Proofs.Number.Rounding
import SolrRequest.Proofs.Number.Spelling
import SolrRequest.Proofs.Number.Writable
import SolrRequest.Proofs.Passes
import SolrRequest.Proofs.Query.Accumulation
import SolrRequest.Proofs.Query.Encoding
import SolrRequest.Proofs.Query.Failure
import SolrRequest.Proofs.Query.Mapping
import SolrRequest.Proofs.Query.Marks
import SolrRequest.Proofs.Query.Mode
import SolrRequest.Proofs.Query.Paging
import SolrRequest.Proofs.Query.Parameters
import SolrRequest.Proofs.Query.Rejection
import SolrRequest.Proofs.Query.SortOrder
import SolrRequest.Proofs.Query.Step
import SolrRequest.Proofs.Query.Url
import SolrRequest.Proofs.Settings.Endpoint
import SolrRequest.Proofs.Settings.Failure
import SolrRequest.Proofs.Settings.LastWritten
import SolrRequest.Proofs.Settings.Nesting
import SolrRequest.Proofs.Settings.Overlay
import SolrRequest.Proofs.Settings.Paths
import SolrRequest.Proofs.Settings.Reading
import SolrRequest.Proofs.Settings.Reload
import SolrRequest.Proofs.Settings.Repetition
import SolrRequest.Proofs.Settings.Validity
import SolrRequest.Proofs.Text.Balance
import SolrRequest.Proofs.Text.Blank
import SolrRequest.Proofs.Yaml.Keys
import SolrRequest.Query
import SolrRequest.Request
import SolrRequest.Settings
import SolrRequest.Settings.Error
import SolrRequest.Settings.Layers
import SolrRequest.Settings.Standard
import SolrRequest.Text.Blank
import SolrRequest.Text.Capital
import SolrRequest.Text.CodePoint
import SolrRequest.Text.Digit
import SolrRequest.Text.Printable
import SolrRequest.Text.Quoted
import SolrRequest.Text.Utf8
import SolrRequest.Value
import SolrRequest.Value.Text
import SolrRequest.Yaml.Cursor
import SolrRequest.Yaml.Document
import SolrRequest.Yaml.Error
import SolrRequest.Yaml.Node
import SolrRequest.Yaml.Node.Read
import SolrRequest.Yaml.Scalar
import SolrRequest.Yaml.Token
import SolrRequest.Yaml.Token.Name
import SolrRequest.Yaml.Token.Scalar
import SolrRequest.Yaml.Token.Scan
