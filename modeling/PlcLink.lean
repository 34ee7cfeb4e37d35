import PlcLink.Bytes
import PlcLink.Calendar.BlockStamp
import PlcLink.Calendar.DateTime
import PlcLink.Calendar.Decimal
import PlcLink.Client.Basic
import PlcLink.Client.Request
import PlcLink.Client.Supervisor
import PlcLink.Destination
import PlcLink.Emission
import PlcLink.Error
import PlcLink.ErrorCode
import PlcLink.Framing.Extraction
import PlcLink.Framing.Inbound
import PlcLink.Framing.Marker
import PlcLink.Framing.Outbound
import PlcLink.Framing.Pass
import PlcLink.Framing.Policy
import PlcLink.Framing.Receiver
import PlcLink.Framing.Registry
import PlcLink.Framing.Search
import PlcLink.Guarded
import PlcLink.Json.Parse
import PlcLink.Json.Token
import PlcLink.Json.Tree
import PlcLink.Network.Endpoint
import PlcLink.Pdu.Basic
import PlcLink.Pdu.Body
import PlcLink.Pdu.Header
import PlcLink.Planning.Batch
import PlcLink.Planning.Piece
import PlcLink.Planning.Plan
import PlcLink.Proofs.Calendar.Decimal
import PlcLink.Proofs.Client.Attempts
import PlcLink.Proofs.Client.Succession
import PlcLink.Proofs.Client.Supervision
import PlcLink.Proofs.Failure
import PlcLink.Proofs.Framing.Chunking
import PlcLink.Proofs.Framing.Datagrams
import PlcLink.Proofs.Framing.Growth
import PlcLink.Proofs.Framing.Inspection
import PlcLink.Proofs.Framing.Noise
import PlcLink.Proofs.Framing.Ownership
import PlcLink.Proofs.Framing.Portions
import PlcLink.Proofs.Framing.Shortfall
import PlcLink.Proofs.Framing.Stripping
import PlcLink.Proofs.Framing.Wholeness
import PlcLink.Proofs.Pdu.Encodable
import PlcLink.Proofs.Pdu.Grammar
import PlcLink.Proofs.Pdu.Lengths
import PlcLink.Proofs.Pdu.Rewriting
import PlcLink.Proofs.Pdu.RoundTrip
import PlcLink.Proofs.Pdu.Sections
import PlcLink.Proofs.Pdu.Unread
import PlcLink.Proofs.Pdu.WireForm
import PlcLink.Proofs.Planning.Addresses
import PlcLink.Proofs.Planning.Encoding
import PlcLink.Proofs.Planning.Fitting
import PlcLink.Proofs.Planning.Layout
import PlcLink.Proofs.Planning.Memory
import PlcLink.Proofs.Planning.Merging
import PlcLink.Proofs.Planning.Packing
import PlcLink.Proofs.Planning.Pieces
import PlcLink.Proofs.Planning.Reading
import PlcLink.Proofs.Planning.Slots
import PlcLink.Proofs.Receiving.Extraction
import PlcLink.Proofs.Receiving.Frames
import PlcLink.Proofs.Receiving.Path
import PlcLink.Proofs.Receiving.Pdus
import PlcLink.Proofs.Receiving.Selection
import PlcLink.Proofs.Receiving.Services
import PlcLink.Proofs.Receiving.Streams
import PlcLink.Proofs.Session.Ceiling
import PlcLink.Proofs.Session.Continuation
import PlcLink.Proofs.Session.Deadlines
import PlcLink.Proofs.Session.Dialogue
import PlcLink.Proofs.Session.DialogueEnd
import PlcLink.Proofs.Session.DialogueRun
import PlcLink.Proofs.Session.Engagement
import PlcLink.Proofs.Session.EngagementRun
import PlcLink.Proofs.Session.Fragments
import PlcLink.Proofs.Session.Groups
import PlcLink.Proofs.Session.Handshake
import PlcLink.Proofs.Session.Immunity
import PlcLink.Proofs.Session.JobRun
import PlcLink.Proofs.Session.JobTable
import PlcLink.Proofs.Session.Ledger
import PlcLink.Proofs.Session.Negotiation
import PlcLink.Proofs.Session.Operation
import PlcLink.Proofs.Session.Quarantine
import PlcLink.Proofs.Session.References
import PlcLink.Proofs.Session.ServiceRun
import PlcLink.Proofs.Session.Serving
import PlcLink.Proofs.Session.Setup
import PlcLink.Proofs.Session.Tickets
import PlcLink.Proofs.Session.Transfer
import PlcLink.Proofs.Session.Turnover
import PlcLink.Proofs.Session.Units
import PlcLink.Proofs.Transport.Frames
import PlcLink.Proofs.Transport.Parameters
import PlcLink.Proofs.Transport.Rewriting
import PlcLink.Proofs.Transport.Segments
import PlcLink.Proofs.UserData.Alarms
import PlcLink.Proofs.Variable.WireForm
import PlcLink.Rehearsal.Caller
import PlcLink.Rehearsal.HeaderEdit
import PlcLink.Rehearsal.Network
import PlcLink.Rehearsal.Performance
import PlcLink.Rehearsal.Replies
import PlcLink.Rehearsal.Stage
import PlcLink.Rehearsal.TableDrill
import PlcLink.ReturnCode
import PlcLink.Session.Basic
import PlcLink.Session.Exchange
import PlcLink.Session.Handshake
import PlcLink.Session.JobTable
import PlcLink.Session.Lifecycle
import PlcLink.Session.Opening
import PlcLink.Session.Outcome
import PlcLink.Session.Reassembly
import PlcLink.Session.Run
import PlcLink.Session.Service
import PlcLink.Settings.Basic
import PlcLink.Settings.Document
import PlcLink.Text.Blank
import PlcLink.Text.Hex
import PlcLink.Transport.Frame
import PlcLink.Transport.Tpdu
import PlcLink.Transport.Tpkt
import PlcLink.Tsap
import PlcLink.UserData.Alarm
import PlcLink.UserData.BlockInfo
import PlcLink.UserData.Clock
import PlcLink.UserData.Parameter
import PlcLink.UserData.Service
import PlcLink.Variable.Area
import PlcLink.Variable.DataItem
import PlcLink.Variable.TransportSize
import PlcLink.Variable.VarSpec
