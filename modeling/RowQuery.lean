import RowQuery.CommandLine.Run
import RowQuery.Engine.Transcript
import RowQuery.Main
import RowQuery.Store.Cursor
import RowQuery.Store.Snapshot
import RowQuery.Proofs.Sql.Statement
import RowQuery.Proofs.Sql.Expression
import RowQuery.Proofs.Filter.Meaning
import RowQuery.Proofs.Execution.Stored
import RowQuery.Proofs.Execution.Trace
import RowQuery.Proofs.Execution.Skeleton
import RowQuery.Proofs.Execution.Noninterference
import RowQuery.Proofs.Execution.Containment
import RowQuery.Proofs.Kinship.Descent
import RowQuery.Proofs.Store.FaultCode
import RowQuery.Proofs.Store.UnknownName
import RowQuery.Proofs.Store.ReadBack
import RowQuery.Proofs.Execution.LateError
import RowQuery.Proofs.Execution.Batch
import RowQuery.Proofs.Execution.TruthFilters
import RowQuery.Proofs.Execution.Inserted
import RowQuery.Proofs.Request.Drafts
import RowQuery.Proofs.Execution.Faultless
import RowQuery.Proofs.Execution.Transactions
import RowQuery.Proofs.Execution.Identified
import RowQuery.Proofs.Filter.Alternatives
import RowQuery.Proofs.Json.Floats
import RowQuery.Proofs.Coercion
import RowQuery.Proofs.Execution.Updated
import RowQuery.Proofs.Store.Sorting
import RowQuery.Proofs.Store.Projection
import RowQuery.Proofs.Execution.Listing
import RowQuery.Proofs.Execution.Deleted
import RowQuery.Proofs.Execution.Returned
import RowQuery.Proofs.Execution.Drawn
import RowQuery.Proofs.Kinship.Breadth
import RowQuery.Proofs.Kinship.Interruption
import RowQuery.Proofs.Execution.SingleRow
import RowQuery.Proofs.Execution.Searching
import RowQuery.Proofs.Clock.Stamp
import RowQuery.Proofs.Execution.MissingTable
