import PlcLink.Framing.Inbound
import PlcLink.Network.Endpoint
import PlcLink.Session.Handshake
import PlcLink.Session.Service
import PlcLink.Settings.Basic

/-!
# Sessions

A session is one attempt at a connection and everything that runs over it. It
is a value: it wishes for something from the network, takes what the network
reports, and in between does what can be done without the network. What is told
about it and the outcomes of its jobs leave it as notices.

A session serves once. After it ended, a connection takes a new one.
-/

namespace PlcLink

/-- How a stream of received bytes ends. -/
inductive StreamEnd
  /-- The peer sends no more. -/
  | finished
  | broken
  deriving DecidableEq, Repr

/-- How far a session has come. -/
inductive Phase (Ticket : Type)
  | idle
  | resolving
  /-- One endpoint is being tried, and others are left. -/
  | connecting (endpoint : Endpoint) (others : List Endpoint)
  /-- The connection request is being written. -/
  | requesting (handshake : Handshake) (request : Bytes)
  | confirming (handshake : Handshake)
  /-- The setup request is being written. -/
  | proposing (frameSize : Nat) (proposal : Bytes)
  | negotiating (frameSize : Nat)
  | serving (service : Service Ticket)
  /-- The datagrams of a job are being written. -/
  | sending
      (service : Service Ticket)
      (reference : UInt16)
      (datagram : Bytes)
      (others : List Bytes)
  /-- The disconnect request is being written. -/
  | departing (farewell : Bytes)
  | ended (result : Except Error SessionExit)

/-- What a session wishes for from the network. -/
inductive Wish
  | nothing
  | resolve (host : String) (port : UInt16)
  | connect (endpoint : Endpoint)
  | write (datagram : Bytes)
  | read
  deriving DecidableEq, Repr

/-- What the network reports. -/
inductive NetworkReport
  /-- The endpoints of the host, if it could be resolved. -/
  | resolved (endpoints? : Option (List Endpoint))
  | connected (succeeded : Bool)
  | written (succeeded : Bool)
  | received (bytes : Bytes)
  | ended (streamEnd : StreamEnd)
  deriving DecidableEq, Repr

/-- What leaves a session. -/
inductive Notice (Ticket : Type)
  | event (event : SessionEvent)
  | outcome (outcome : Outcome Ticket)

/-- A session under way. -/
structure Session (Ticket : Type) where
  settings : SessionSettings
  phase : Phase Ticket
  inbound : Inbound
  /-- How the stream of received bytes ended, if it did. -/
  streamEnd? : Option StreamEnd
  cancelled : Bool
  /-- When the connection must be ready at the latest. -/
  readyBy : Nat

/-- What a step makes of a session, and what leaves it in the step. -/
abbrev SessionStep (Ticket : Type) :=
  Session Ticket × List (Notice Ticket)

namespace Phase

/-- The state of a connection that ended. -/
def finalState : Except Error SessionExit -> ConnectionState
  | .ok .closed => .closed
  | _ => .failed

/-- The state of the connection in each phase. -/
def state : Phase Ticket -> ConnectionState
  | idle => .idle
  | resolving | connecting _ _ => .connecting
  | requesting _ _ | confirming _ => .transportOpen
  | proposing _ _ | negotiating _ => .negotiating
  | serving _ | sending _ _ _ _ => .ready
  | departing _ => .closing
  | ended result => finalState result

/-- The service of a ready session. -/
def service? : Phase Ticket -> Option (Service Ticket)
  | serving service | sending service _ _ _ => some service
  | _ => none

/-- How a session ended, if it did. -/
def result? : Phase Ticket -> Option (Except Error SessionExit)
  | ended result => some result
  | _ => none

/-- The same phase with another service, if it has one. -/
def withService (phase : Phase Ticket) (service : Service Ticket) :
    Phase Ticket :=
  match phase with
  | serving _ => serving service
  | sending _ reference datagram others =>
      sending service reference datagram others
  | other => other

end Phase

namespace Session

variable {Ticket : Type}

/-- A session that has not begun. -/
def ofSettings (settings : SessionSettings) : Session Ticket :=
  { settings
    phase := .idle
    inbound := .empty
    streamEnd? := none
    cancelled := false
    readyBy := 0 }

/-- The state of the connection. -/
def state (session : Session Ticket) : ConnectionState :=
  session.phase.state

/-- What both sides agreed on, while the session is ready. -/
def context? (session : Session Ticket) : Option Context :=
  session.phase.service?.map Service.context

/-- Enter a phase and tell events. -/
def enter
    (session : Session Ticket)
    (phase : Phase Ticket)
    (events : List SessionEvent) : SessionStep Ticket :=
  ({ session with phase }, events.map .event)

/-- Enter a phase and tell the new state after other events. -/
def enterState
    (session : Session Ticket)
    (phase : Phase Ticket)
    (events : List SessionEvent) : SessionStep Ticket :=
  session.enter phase (events ++ [.state phase.state])

/-- End without ever having been ready. -/
def fail (session : Session Ticket) (error : Error) : SessionStep Ticket :=
  session.enterState (.ended (.error error)) []

/-- Go on with a value, or end with the error that stands for it. -/
def orFail
    (session : Session Ticket)
    (result : Except Error value)
    (goOn : value -> SessionStep Ticket) : SessionStep Ticket :=
  match result with
  | .ok value => goOn value
  | .error error => session.fail error

/-- What a session finds when it looks for a datagram. -/
inductive Arrival
  | datagram (datagram : Datagram)
  /-- No datagram is there, and none will come. -/
  | over (streamEnd : StreamEnd)
  | nothing

/-- Look for a datagram among what was received. The markers of the transport
stay in their datagrams, so that looking cannot fail. -/
def arrival (session : Session Ticket) : Arrival × Session Ticket :=
  match session.inbound.next .transport with
  | .ok (some datagram, inbound) =>
      (.datagram datagram, { session with inbound })
  | .ok (none, inbound) =>
      (match session.streamEnd? with
        | some streamEnd => .over streamEnd
        | none => .nothing,
        { session with inbound })
  | .error _ => (.nothing, session)

end Session
end PlcLink
