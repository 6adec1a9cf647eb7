import Datagrid.Client.Handshake
import Datagrid.Client.Report
import Datagrid.Proofs.Wire.Fragments
import Datagrid.Rehearsal.Schedule
import Datagrid.Text.FloatBits
import Datagrid.Wire.Shape
import Datagrid.Wire.Stream
import Datagrid.Proofs.Wire.RoundTrip
import Datagrid.Proofs.Wire.Interleaving
import Datagrid.Proofs.Subscription.Errands
import Datagrid.Proofs.Subscription.History
import Datagrid.Proofs.Subscription.Steps
import Datagrid.Proofs.Subscription.Locks
import Datagrid.Proofs.Subscription.Soundness
import Datagrid.Proofs.Subscription.Correlations
import Datagrid.Proofs.Subscription.Requests
import Datagrid.Proofs.Subscription.Routing
import Datagrid.Proofs.Subscription.World
import Datagrid.Proofs.Subscription.Registrations
import Datagrid.Proofs.Subscription.Responses
import Datagrid.Proofs.Subscription.Keepers
import Datagrid.Proofs.Subscription.Reconnection
import Datagrid.Proofs.Subscription.Orphans
import Datagrid.Proofs.Subscription.Language
import Datagrid.Proofs.Subscription.Reinstalls
import Datagrid.Proofs.Subscription.Link
import Datagrid.Proofs.Subscription.Convergence
import Datagrid.Proofs.Subscription.Health
import Datagrid.Proofs.Subscription.Progress
import Datagrid.Proofs.Subscription.Removal
import Datagrid.Proofs.Subscription.Releases
import Datagrid.Proofs.Subscription.Interruption
import Datagrid.Proofs.Wire.Chunks
import Datagrid.Proofs.Wire.Values
import Datagrid.Proofs.Operation.Opening
import Datagrid.Proofs.Operation.Contents
import Datagrid.Proofs.Subscription.Cancellation
import Datagrid.Proofs.Wire.Wholeness
import Datagrid.Proofs.Wire.Parts
import Datagrid.Proofs.Subscription.Delivery
import Datagrid.Proofs.Subscription.Lifecycle
import Datagrid.Proofs.Payload.Registry
import Datagrid.Proofs.Payload.Negotiation
import Datagrid.Proofs.Client.Admission
import Datagrid.Proofs.Event.Arrival
import Datagrid.Proofs.Subscription.Records
import Datagrid.Proofs.Subscription.Shutdown
import Datagrid.Proofs.Wire.Cuts
import Datagrid.Proofs.Wire.Rejections
import Datagrid.Proofs.Operation.Readers
import Datagrid.Proofs.Wire.Growth
import Datagrid.Proofs.Wire.Inverses
import Datagrid.Proofs.Subscription.Replay
import Datagrid.Proofs.Subscription.Notices
import Datagrid.Proofs.Subscription.Calls
import Datagrid.Proofs.Event.Rejection
import Datagrid.Proofs.Client.Attributes
import Datagrid.Proofs.Payload.Streams
import Datagrid.Proofs.Event.Dispatch
import Datagrid.Proofs.Payload.Murmur
import Datagrid.Proofs.Payload.Partitions
import Datagrid.Proofs.Payload.Hooks
import Datagrid.Proofs.Wire.Fields
