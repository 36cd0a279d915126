import ClusterGraph.Access.Acquire
import ClusterGraph.Access.Cache
import ClusterGraph.Access.Identity
import ClusterGraph.Cluster.Backend
import ClusterGraph.Cluster.Client
import ClusterGraph.Cluster.Credentials
import ClusterGraph.Cluster.Dialogue
import ClusterGraph.Cluster.Discovery
import ClusterGraph.Cluster.Object
import ClusterGraph.Cluster.Reply
import ClusterGraph.Cluster.Target
import ClusterGraph.Command.Invocation
import ClusterGraph.Command.LogFilter
import ClusterGraph.Command.Parameter
import ClusterGraph.Command.Run
import ClusterGraph.Command.SocketAddress
import ClusterGraph.Decimal.Binary64
import ClusterGraph.Decimal.Shortest
import ClusterGraph.Document.Basic
import ClusterGraph.Document.Edit
import ClusterGraph.Document.FieldPath
import ClusterGraph.Document.Patch
import ClusterGraph.Document.Path
import ClusterGraph.Encoding.Layout
import ClusterGraph.Encoding.Read
import ClusterGraph.Encoding.Skip
import ClusterGraph.Failure
import ClusterGraph.Gateway.Basic
import ClusterGraph.Gateway.World
import ClusterGraph.Json.Basic
import ClusterGraph.Json.Fault
import ClusterGraph.Json.Lexeme
import ClusterGraph.Json.Reader
import ClusterGraph.Json.Writer
import ClusterGraph.Kind.Reference
import ClusterGraph.Kind.Version
import ClusterGraph.Main
import ClusterGraph.Proofs.Access.Acquisition
import ClusterGraph.Proofs.Access.Bound
import ClusterGraph.Proofs.Access.Changes
import ClusterGraph.Proofs.Access.Clock
import ClusterGraph.Proofs.Access.Construction
import ClusterGraph.Proofs.Access.Cost
import ClusterGraph.Proofs.Access.Eviction
import ClusterGraph.Proofs.Access.Filled
import ClusterGraph.Proofs.Access.Freshness
import ClusterGraph.Proofs.Access.Idle
import ClusterGraph.Proofs.Access.Isolation
import ClusterGraph.Proofs.Access.Ledger
import ClusterGraph.Proofs.Access.Mirror
import ClusterGraph.Proofs.Access.Passage
import ClusterGraph.Proofs.Access.Revocation
import ClusterGraph.Proofs.Access.Shown
import ClusterGraph.Proofs.Access.SingleFlight
import ClusterGraph.Proofs.Access.Slots
import ClusterGraph.Proofs.Access.Traffic
import ClusterGraph.Proofs.Access.Turns
import ClusterGraph.Proofs.Access.Vacancy
import ClusterGraph.Proofs.Cluster.Clock
import ClusterGraph.Proofs.Cluster.Confinement
import ClusterGraph.Proofs.Cluster.Outgoing
import ClusterGraph.Proofs.Cluster.Refusal
import ClusterGraph.Proofs.Cluster.Restriction
import ClusterGraph.Proofs.Cluster.Segments
import ClusterGraph.Proofs.Command.Clock
import ClusterGraph.Proofs.Document.Assignment
import ClusterGraph.Proofs.Document.Batch
import ClusterGraph.Proofs.Document.Effect
import ClusterGraph.Proofs.Document.Expression
import ClusterGraph.Proofs.Document.FirstFailure
import ClusterGraph.Proofs.Document.Leftover
import ClusterGraph.Proofs.Document.Metadata
import ClusterGraph.Proofs.Document.Resending
import ClusterGraph.Proofs.Document.Shape
import ClusterGraph.Proofs.Document.Succession
import ClusterGraph.Proofs.Document.Typing
import ClusterGraph.Proofs.Gateway.Alike
import ClusterGraph.Proofs.Gateway.AllOrNothing
import ClusterGraph.Proofs.Gateway.Bounded
import ClusterGraph.Proofs.Gateway.Cancelled
import ClusterGraph.Proofs.Gateway.Clock
import ClusterGraph.Proofs.Gateway.Coherence
import ClusterGraph.Proofs.Gateway.Connections
import ClusterGraph.Proofs.Gateway.Duration
import ClusterGraph.Proofs.Gateway.Errand
import ClusterGraph.Proofs.Gateway.Exhausted
import ClusterGraph.Proofs.Gateway.InTurn
import ClusterGraph.Proofs.Gateway.Mutation
import ClusterGraph.Proofs.Gateway.Prompt
import ClusterGraph.Proofs.Gateway.Stages
import ClusterGraph.Proofs.Gateway.Transparency
import ClusterGraph.Proofs.Json.RoundTrip
import ClusterGraph.Proofs.Json.Shape
import ClusterGraph.Proofs.Json.Spelling
import ClusterGraph.Proofs.Kind.GroupVersion
import ClusterGraph.Proofs.Query.Addressing
import ClusterGraph.Proofs.Query.Answer
import ClusterGraph.Proofs.Query.Composition
import ClusterGraph.Proofs.Query.Duration
import ClusterGraph.Proofs.Query.Exhausted
import ClusterGraph.Proofs.Query.Isolation
import ClusterGraph.Proofs.Query.Places
import ClusterGraph.Proofs.Query.Reading
import ClusterGraph.Proofs.Query.Settled
import ClusterGraph.Proofs.Query.Sites
import ClusterGraph.Proofs.Query.Succession
import ClusterGraph.Proofs.Resource.Naming
import ClusterGraph.Proofs.Resource.Order
import ClusterGraph.Proofs.Store.Confinement
import ClusterGraph.Proofs.Store.Objects
import ClusterGraph.Proofs.Store.Uniqueness
import ClusterGraph.Proofs.Store.Versions
import ClusterGraph.Proofs.Time.Calendar
import ClusterGraph.Proofs.Time.Timestamp
import ClusterGraph.Proofs.Work.Alike
import ClusterGraph.Proofs.Work.Alone
import ClusterGraph.Proofs.Work.AtOnce
import ClusterGraph.Proofs.Work.Outcome
import ClusterGraph.Proofs.Work.Race
import ClusterGraph.Proofs.Work.Timely
import ClusterGraph.Proofs.Work.Upholds
import ClusterGraph.Query.Basic
import ClusterGraph.Query.Coercion
import ClusterGraph.Query.Constant
import ClusterGraph.Query.Entity
import ClusterGraph.Query.Excerpt
import ClusterGraph.Query.Execution
import ClusterGraph.Query.Lexeme
import ClusterGraph.Query.Plan
import ClusterGraph.Query.Reach
import ClusterGraph.Query.Reader
import ClusterGraph.Query.Response
import ClusterGraph.Query.Scan
import ClusterGraph.Query.Suggestion
import ClusterGraph.Query.Validation
import ClusterGraph.Query.Visit
import ClusterGraph.Resource.Basic
import ClusterGraph.Resource.Connection
import ClusterGraph.Resource.Definition
import ClusterGraph.Schema.Basic
import ClusterGraph.Schema.Cluster
import ClusterGraph.Schema.Introspection
import ClusterGraph.Schema.Printer
import ClusterGraph.Store.Backend
import ClusterGraph.Store.Basic
import ClusterGraph.Text.Alphanumeric
import ClusterGraph.Text.Blank
import ClusterGraph.Text.Glyph
import ClusterGraph.Text.Numeral
import ClusterGraph.Text.Pieces
import ClusterGraph.Text.Printable
import ClusterGraph.Text.Quoted
import ClusterGraph.Text.Ranges
import ClusterGraph.Time.Calendar
import ClusterGraph.Time.Instant
import ClusterGraph.Time.Rfc3339
import ClusterGraph.Typed.Base64
import ClusterGraph.Typed.Read
import ClusterGraph.Typed.Shape
import ClusterGraph.Work.Basic
import ClusterGraph.Work.Deadline
