import WebSocket.Bytes.BigEndian
import WebSocket.Bytes.Queue
import WebSocket.Config
import WebSocket.Connection
import WebSocket.Connection.Connect
import WebSocket.Connection.Poll
import WebSocket.Connection.Run
import WebSocket.Digest.Sha1
import WebSocket.Domain.Ascii
import WebSocket.Domain.Data.Composition
import WebSocket.Domain.Data.Direction
import WebSocket.Domain.Data.Joining
import WebSocket.Domain.Data.Mapping
import WebSocket.Domain.Label
import WebSocket.Domain.NormalForm
import WebSocket.Domain.Punycode
import WebSocket.Domain.RangeTable
import WebSocket.Endpoint
import WebSocket.Error
import WebSocket.Frame.Codec
import WebSocket.Frame.Header
import WebSocket.Frame.Opcode
import WebSocket.Frame.Stream
import WebSocket.Masking.Key
import WebSocket.Masking.Vector
import WebSocket.Masking.Word
import WebSocket.Message
import WebSocket.Message.Reassembler
import WebSocket.Proofs.Bytes.Access
import WebSocket.Proofs.Bytes.Commits
import WebSocket.Proofs.Bytes.Growth
import WebSocket.Proofs.Bytes.Histories
import WebSocket.Proofs.Bytes.Reference
import WebSocket.Proofs.Bytes.Storage
import WebSocket.Proofs.Connection.Bounds
import WebSocket.Proofs.Connection.Coherence
import WebSocket.Proofs.Connection.Construction
import WebSocket.Proofs.Connection.Dispatch
import WebSocket.Proofs.Connection.Effort
import WebSocket.Proofs.Connection.Ending
import WebSocket.Proofs.Connection.Failure
import WebSocket.Proofs.Connection.Inbound
import WebSocket.Proofs.Connection.Invariant
import WebSocket.Proofs.Connection.Keys
import WebSocket.Proofs.Connection.Lifecycle
import WebSocket.Proofs.Connection.Lockstep
import WebSocket.Proofs.Connection.Loopback
import WebSocket.Proofs.Connection.Moves
import WebSocket.Proofs.Connection.Operations
import WebSocket.Proofs.Connection.Outbound
import WebSocket.Proofs.Connection.Quarantine
import WebSocket.Proofs.Connection.Release
import WebSocket.Proofs.Connection.Replies
import WebSocket.Proofs.Connection.Tuning
import WebSocket.Proofs.Connection.Violation
import WebSocket.Proofs.Domain.Fixed
import WebSocket.Proofs.Domain.Punycode
import WebSocket.Proofs.Masking.Kernels
import WebSocket.Proofs.Masking.Words
import WebSocket.Proofs.Reassembly
import WebSocket.Proofs.Reassembly.Fragments
import WebSocket.Proofs.Text.Digits
import WebSocket.Proofs.Text.Parts
import WebSocket.Proofs.Text.Utf8
import WebSocket.Proofs.Trace
import WebSocket.Proofs.Tracing
import WebSocket.Proofs.Upgrade.Effort
import WebSocket.Proofs.Upgrade.Endless
import WebSocket.Proofs.Upgrade.Exchanges
import WebSocket.Proofs.Upgrade.Grammar
import WebSocket.Proofs.Upgrade.HeadLimit
import WebSocket.Proofs.Upgrade.Negotiation
import WebSocket.Proofs.Upgrade.Peer
import WebSocket.Proofs.Upgrade.Request
import WebSocket.Proofs.Upgrade.ResponseHead
import WebSocket.Proofs.Upgrade.Scan
import WebSocket.Proofs.Upgrade.Slots
import WebSocket.Proofs.Upgrade.Turns
import WebSocket.Proofs.Upgrade.Verdict
import WebSocket.Proofs.Url.Host
import WebSocket.Proofs.Url.IPv4
import WebSocket.Proofs.Url.IPv6
import WebSocket.Proofs.Url.Normal
import WebSocket.Proofs.Url.Path
import WebSocket.Proofs.Url.RoundTrip
import WebSocket.Proofs.Url.Visible
import WebSocket.Proofs.Wire
import WebSocket.Proofs.Wire.Canonical
import WebSocket.Proofs.Wire.Decoding
import WebSocket.Proofs.Wire.Encoding
import WebSocket.Proofs.Wire.Headers
import WebSocket.Proofs.Wire.InBounds
import WebSocket.Proofs.Wire.Plain
import WebSocket.Proofs.Wire.RoundTrip
import WebSocket.Proofs.Wire.Segmentation
import WebSocket.ReadyState
import WebSocket.Text
import WebSocket.Transport
import WebSocket.Transport.Script
import WebSocket.Transport.Trace
import WebSocket.Upgrade.Handshake
import WebSocket.Upgrade.Request
import WebSocket.Upgrade.Response
import WebSocket.Upgrade.ResponseHead
import WebSocket.Upgrade.Scan
import WebSocket.Url
import WebSocket.Url.Host
import WebSocket.Url.IPv4
import WebSocket.Url.IPv6
import WebSocket.Url.Path
import WebSocket.Url.Percent
