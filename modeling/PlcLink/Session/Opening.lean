import PlcLink.Session.Basic

/-!
# Opening a connection

The host is resolved and its endpoints are tried one after the other. Over the
first that connects, the connection request is confirmed and the setup
negotiated. Any error on the way ends the session.
-/

namespace PlcLink
namespace Session

variable {Ticket : Type}

/-- Begin the attempt; it must be through before the connect timeout. -/
def begin (session : Session Ticket) (now : Nat) : SessionStep Ticket :=
  if session.cancelled then
    session.enterState (.ended (.ok .closed)) []
  else
    { session with readyBy := now + session.settings.connectTimeout }.enterState
      .resolving []

/-- The connection request in its frame, and the handshake that awaits its
confirm. -/
def connectRequest (settings : SessionSettings) :
    Except Error (Handshake × Bytes) := do
  let handshake <- Handshake.ofSize settings.tsaps settings.tpduSize
  let (handshake, frame) := handshake.request
  return (handshake, <- (<- frame).encode)

/-- The setup request in its frame. -/
def setupRequest (settings : SessionSettings) : Except Error Bytes := do
  let pdu <- (Body.setupRequest settings.setup).toPdu 0
  let frame <- Frame.ofData (<- pdu.encode) true
  frame.encode

/-- The TPDU size of a datagram that should be the confirm. -/
def confirmedSize (handshake : Handshake) (datagram : Datagram) :
    Except Error Nat := do
  let frame <- datagram.frame
  (handshake.confirm frame.tpdu).2

/-- The setup in a datagram that should be the setup response. -/
def grantedSetup (datagram : Datagram) : Except Error Setup := do
  let frame <- datagram.frame
  match frame.tpdu with
  | .data _ => do
      let pdu <- Pdu.parse frame.payload
      pdu.checkHeader
      match <- pdu.decode with
      | .setupResponse granted => return granted
      | _ => .error .unexpectedPdu
  | _ => .error .unexpectedPdu

/-- Take the endpoints of the host. -/
def takeEndpoints
    (session : Session Ticket)
    (endpoints? : Option (List Endpoint)) : SessionStep Ticket :=
  match endpoints? with
  | none => session.fail .io
  | some [] => session.fail (.invalidConfiguration .host)
  | some (endpoint :: others) =>
      session.enter (.connecting endpoint others) []

/-- Take whether the endpoint could be reached. If not, the next is tried. -/
def takeConnection
    (session : Session Ticket)
    (others : List Endpoint)
    (succeeded : Bool) : SessionStep Ticket :=
  if succeeded then
    let (session, notices) :=
      session.orFail (connectRequest session.settings)
        fun (handshake, request) =>
          session.enter (.requesting handshake request) []
    (session,
      .event .transportUp :: .event (.state .transportOpen) :: notices)
  else
    match others with
    | [] => session.fail .io
    | endpoint :: others => session.enter (.connecting endpoint others) []

/-- Enter the next phase after a write, which must not fail. -/
def afterWrite
    (session : Session Ticket)
    (phase : Phase Ticket)
    (succeeded : Bool) : SessionStep Ticket :=
  if succeeded then session.enter phase [] else session.fail .io

/-- Why the stream ended too early; a broken one counts as a failure of the
network. -/
def cutShort (rejection : Rejection) : StreamEnd -> Error
  | .finished => .handshakeRejected rejection
  | .broken => .io

/-- Look for the confirm and go on with the setup. -/
def awaitConfirm (session : Session Ticket) (handshake : Handshake) :
    Option (SessionStep Ticket) :=
  match session.arrival with
  | (.nothing, _) => none
  | (.over streamEnd, session) =>
      some (session.fail (cutShort .closedBeforeConfirm streamEnd))
  | (.datagram datagram, session) =>
      some <|
        session.orFail (confirmedSize handshake datagram) fun frameSize =>
          let (session, notices) :=
            session.orFail (setupRequest session.settings) fun proposal =>
              session.enter (.proposing frameSize proposal) []
          (session, .event (.state .negotiating) :: notices)

/-- The service that begins with the granted setup. -/
def readyService
    (settings : SessionSettings)
    (frameSize : Nat)
    (datagram : Datagram) : Except Error (Service Ticket) := do
  let granted <- grantedSetup datagram
  let context <-
    Context.negotiate settings.tsaps frameSize settings.setup granted
  return .start context settings.sendQueueCapacity settings.referenceGrace
    settings.maxReassemblyBytes

/-- Look for the setup response and begin to serve. -/
def awaitSetup (session : Session Ticket) (frameSize : Nat) :
    Option (SessionStep Ticket) :=
  match session.arrival with
  | (.nothing, _) => none
  | (.over streamEnd, session) =>
      some (session.fail (cutShort .closedDuringSetup streamEnd))
  | (.datagram datagram, session) =>
      some <|
        session.orFail (readyService session.settings frameSize datagram)
          fun service =>
            session.enterState (.serving service) [.negotiated service.context]

end Session
end PlcLink
