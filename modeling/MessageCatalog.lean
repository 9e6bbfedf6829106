import MessageCatalog.Application
import MessageCatalog.Client
import MessageCatalog.Concurrent
import MessageCatalog.Concurrent.Readers
import MessageCatalog.Document.Stored
import MessageCatalog.Item.Implementation
import MessageCatalog.Item.Reader
import MessageCatalog.Route
import MessageCatalog.Proofs.Concurrent.Turn
import MessageCatalog.Proofs.Snapshot.Coherence
import MessageCatalog.Proofs.Concurrent.Coherence
import MessageCatalog.Proofs.Concurrent.History
import MessageCatalog.Proofs.Concurrent.Settlement
import MessageCatalog.Proofs.Concurrent.Linearization
import MessageCatalog.Proofs.Concurrent.Growth
import MessageCatalog.Proofs.Concurrent.Exchange
import MessageCatalog.Proofs.Concurrent.RoundTrip
import MessageCatalog.Proofs.Concurrent.Completion
import MessageCatalog.Proofs.Registry.Ledger
import MessageCatalog.Proofs.Identifier.Grammar
import MessageCatalog.Proofs.Identifier.Number
import MessageCatalog.Proofs.Registry.Conflict
import MessageCatalog.Proofs.Concurrent.Contest
import MessageCatalog.Proofs.Registry.Plan
import MessageCatalog.Proofs.Concurrent.Declared
import MessageCatalog.Proofs.Concurrent.Independence
import MessageCatalog.Proofs.Client.View
import MessageCatalog.Proofs.Client.Indifference
import MessageCatalog.Proofs.Text.Bytes
import MessageCatalog.Proofs.Declaration.Order
import MessageCatalog.Proofs.Registry.Effect
import MessageCatalog.Proofs.Declaration.Outcome
import MessageCatalog.Proofs.Declaration.Spelling
import MessageCatalog.Proofs.Client.Routing
import MessageCatalog.Proofs.Client.RoundTrip
import MessageCatalog.Proofs.Registry.Receiver
import MessageCatalog.Proofs.Concurrent.Conduct
import MessageCatalog.Proofs.Concurrent.Course
import MessageCatalog.Proofs.Concurrent.Contention
import MessageCatalog.Proofs.Concurrent.Report
import MessageCatalog.Proofs.Client.Failure
import MessageCatalog.Proofs.Identifier.NumericOrder
import MessageCatalog.Proofs.Document.Retraction
import MessageCatalog.Proofs.Item.Contract
import MessageCatalog.Proofs.Concurrent.AuditTrail
import MessageCatalog.Proofs.Identifier.Message
import MessageCatalog.Proofs.Client.Instances
import MessageCatalog.Proofs.Identifier.RawLookup
