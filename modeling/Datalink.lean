import Datalink.Engine.Batch
import Datalink.Transaction.Basic
import Datalink.Query.Printer
import Datalink.Value.Enumeration
import Datalink.Value.Slots
import Datalink.Proofs.Identifier.Spelling
import Datalink.Proofs.Statement.NamedQuery
import Datalink.Proofs.Statement.Reading
import Datalink.Proofs.Statement.Scanning
import Datalink.Proofs.Statement.Parameters
import Datalink.Proofs.Parameter.Binding
import Datalink.Proofs.Engine.Keeping
import Datalink.Proofs.Session.Operation
import Datalink.Proofs.Session.Keeping
import Datalink.Proofs.Transaction.Forwarding
import Datalink.Proofs.Engine.Exchange
import Datalink.Proofs.Session.Sending
import Datalink.Proofs.Session.Binding
import Datalink.Proofs.Session.Breakdown
import Datalink.Proofs.Session.Lifespan
import Datalink.Proofs.Transaction.Account
import Datalink.Proofs.Transaction.Lifecycle
import Datalink.Proofs.Transaction.Block
import Datalink.Proofs.Csv.Reading
import Datalink.Proofs.Engine.Measuring
import Datalink.Proofs.Journal.Documents
import Datalink.Proofs.Journal.Tables
import Datalink.Proofs.Ledger.Batches
import Datalink.Proofs.Ledger.History
import Datalink.Proofs.Settings.Address
import Datalink.Proofs.Settings.Reading
import Datalink.Proofs.Session.Tabling
import Datalink.Proofs.Transaction.Outcome
import Datalink.Proofs.Ledger.Tallies
import Datalink.Proofs.Engine.Recording
import Datalink.Proofs.Transaction.Requests
import Datalink.Proofs.Session.Tallying
import Datalink.Proofs.Session.Planning
import Datalink.Proofs.Session.Attaching
import Datalink.Proofs.Parameter.Bindable
import Datalink.Proofs.Journal.Failing
import Datalink.Proofs.Observation.Line
import Datalink.Proofs.Journal.Lines
import Datalink.Proofs.Engine.Interleaving
import Datalink.Proofs.Session.Lowering
import Datalink.Proofs.Statement.Verbs
import Datalink.Proofs.Table.Mapping
import Datalink.Proofs.Ledger.Totals
import Datalink.Proofs.Parameter.Refusal
import Datalink.Proofs.Calendar.Chronology
import Datalink.Proofs.Table.Widths
import Datalink.Proofs.Session.Announcing
import Datalink.Proofs.Session.Showing
import Datalink.Proofs.Files.Directories
import Datalink.Proofs.Journal.Creating
import Datalink.Proofs.Table.Indexing
