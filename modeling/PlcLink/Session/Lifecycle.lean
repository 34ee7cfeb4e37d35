import PlcLink.Pdu.Body
import PlcLink.Tsap

/-!
# The life of a connection

The states a connection goes through, the parameters both sides agree on, and
what is told about it on the way.
-/

namespace PlcLink

/-- The states of a connection. -/
inductive ConnectionState
  | idle
  | connecting
  /-- The network connection stands, the handshake does not. -/
  | transportOpen
  | negotiating
  | ready
  | closing
  | closed
  | failed
  deriving DecidableEq, Repr

namespace ConnectionState

/-- The name of a state. -/
def name : ConnectionState -> String
  | idle => "Idle"
  | connecting => "Connecting"
  | transportOpen => "TransportOpen"
  | negotiating => "Negotiating"
  | ready => "Ready"
  | closing => "Closing"
  | closed => "Closed"
  | failed => "Failed"

/-- The state of a name. -/
def ofName? (text : String) : Option ConnectionState :=
  [idle, connecting, transportOpen, negotiating, ready, closing, closed,
    failed].find? fun state => state.name == text

/-- Whether jobs can be submitted. -/
def isReady (state : ConnectionState) : Bool :=
  state == ready

/-- Whether the connection is over. -/
def isTerminal (state : ConnectionState) : Bool :=
  state == closed || state == failed

end ConnectionState

/-- What both sides of a connection agreed on. -/
structure Context where
  tsaps : TsapPair
  /-- The largest TPDU. -/
  frameSize : Nat
  /-- The largest PDU. -/
  pduSize : UInt16
  /-- Outstanding jobs of the calling side. -/
  calling : UInt16
  /-- Outstanding jobs of the called side. -/
  called : UInt16
  deriving DecidableEq, Repr

namespace Context

/-- The smallest PDU size that is acceptable. -/
def minPduSize : UInt16 := 240

/-- Number of jobs that may be outstanding at once. -/
def window (context : Context) : Nat :=
  max (min context.calling context.called).toNat 1

/-- Take the smaller of what was asked for and what was granted. -/
def negotiate
    (tsaps : TsapPair)
    (frameSize : Nat)
    (asked granted : Setup) : Except Error Context :=
  let pduSize := min granted.pduSize asked.pduSize
  if pduSize < minPduSize then
    .error (.handshakeRejected .pduSizeTooSmall)
  else
    .ok
      { tsaps
        frameSize
        pduSize
        calling := max (min granted.calling asked.calling) 1
        called := max (min granted.called asked.called) 1 }

end Context

/-- Why a ready connection went down. -/
inductive DownReason
  | requested
  | queueClosed
  | sendFailed
  | receiveFailed
  | peerClosed
  | peerDisconnected
  deriving DecidableEq, Repr

/-- The wording of a reason. -/
def DownReason.text : DownReason -> String
  | .requested => "closed on request"
  | .queueClosed => "request channel closed"
  | .sendFailed => "send failed"
  | .receiveFailed => "receive failed"
  | .peerClosed => "peer closed the connection"
  | .peerDisconnected => "peer disconnect request"

/-- How a session that became ready ended. -/
inductive SessionExit
  | closed
  | transportLost
  deriving DecidableEq, Repr

/-- The name of an ending. -/
def SessionExit.name : SessionExit -> String
  | .closed => "Closed"
  | .transportLost => "TransportLost"

/-- How the session ends that goes down for a reason. -/
def DownReason.exit : DownReason -> SessionExit
  | .requested | .queueClosed => .closed
  | _ => .transportLost

/-- What is told about a session. -/
inductive SessionEvent
  | state (state : ConnectionState)
  | transportUp
  | negotiated (context : Context)
  | down (reason : DownReason)
  /-- A PDU outgrew the ceiling and was dropped. -/
  | overflow (length : Nat)
  /-- A reply came for a reference without a job. -/
  | miss (reference : UInt16)
  | timeout (reference : UInt16)
  deriving DecidableEq, Repr

end PlcLink
