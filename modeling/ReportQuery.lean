import ReportQuery.Main
import ReportQuery.Sql.Fault
import ReportQuery.Sql.Token
import ReportQuery.Sql.Expression
import ReportQuery.Sql.Word
import ReportQuery.Sql.Reader
import ReportQuery.Sql.Reading.Query
import ReportQuery.Sql.Value
import ReportQuery.Sql.Function.Aggregate
import ReportQuery.Sql.Function.Kind
import ReportQuery.Sql.Heading
import ReportQuery.Sql.Meaning
import ReportQuery.Sql.Relation
import ReportQuery.Sql.Settling.Query
import ReportQuery.Sql.Function.Format
import ReportQuery.Sql.Moment.Basic
import ReportQuery.Sql.Moment.Modifier
import ReportQuery.Sql.Moment.Text
import ReportQuery.Sql.Sequence
import ReportQuery.Sql.Group
import ReportQuery.Sql.Operation
import ReportQuery.Sql.Document.Basic
import ReportQuery.Sql.Document.Reading
import ReportQuery.Sql.Document.Binary
import ReportQuery.Sql.Document.Path
import ReportQuery.Sql.Command
import ReportQuery.Sql.Reading.Command
import ReportQuery.Sql.Store.Basic
import ReportQuery.Sql.Store.Catalog
import ReportQuery.Sql.Store.Row
import ReportQuery.Sql.Store.Change
import ReportQuery.Sql.Store.Definition
import ReportQuery.Proofs.Query.Piece
import ReportQuery.Proofs.Query.RawText
import ReportQuery.Proofs.Query.Placeholder
import ReportQuery.Proofs.Query.Numbering
import ReportQuery.Proofs.Query.Prepared
import ReportQuery.Proofs.Query.Condition
import ReportQuery.Proofs.Query.Predicates
import ReportQuery.Proofs.Query.Secrecy
import ReportQuery.Proofs.Query.Restriction
import ReportQuery.Proofs.Query.CallOrder
import ReportQuery.Proofs.Query.Separators
import ReportQuery.Proofs.Query.Embedding
import ReportQuery.Proofs.Database.QuotedName
import ReportQuery.Proofs.CommandLine.Rendering
import ReportQuery.Proofs.Execution.Failure
import ReportQuery.Proofs.Filter.Equality
import ReportQuery.Proofs.Filter.UnknownMember
import ReportQuery.Proofs.Filter.ExactIdentifier
import ReportQuery.Proofs.BoundValue.ListText
import ReportQuery.Proofs.Printing.Lines
import ReportQuery.Proofs.Printing.StoredText
