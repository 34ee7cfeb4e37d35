import PlcLink.Session.Opening

/-!
# Running a session

A ready session first looks whether it is to stop, then sends the jobs of its
queue one after the other, then takes what the peer sent. Whatever ends it, all
its jobs get their outcomes.
-/

namespace PlcLink
namespace Session

variable {Ticket : Type}

/-- The disconnect request in its frame. -/
def farewell : Except Error Bytes := do
  (<- Frame.ofTpdu (.disconnectRequest .ordinary) []).encode

/-- Outcomes as notices. -/
def outcomes (outcomes : List (Outcome Ticket)) : List (Notice Ticket) :=
  outcomes.map .outcome

/-- Stop serving for a reason. A session that closes says farewell to the
peer; it does not matter whether that arrives. -/
def goDown
    (session : Session Ticket)
    (service : Service Ticket)
    (reason : DownReason) : SessionStep Ticket :=
  let ending := outcomes service.tearDown.2 ++ [.event (.down reason)]
  match reason.exit with
  | .transportLost =>
      let (session, notices) :=
        session.enterState (.ended (.ok .transportLost)) []
      (session, ending ++ notices)
  | .closed =>
      let (session, notices) :=
        match farewell with
        | .ok datagram => session.enter (.departing datagram) []
        | .error _ => session.enterState (.ended (.ok .closed)) []
      (session, .event (.state .closing) :: ending ++ notices)

/-- Write the next datagram of a job, or serve on. -/
def sendNext
    (session : Session Ticket)
    (service : Service Ticket)
    (reference : UInt16)
    (datagrams : List Bytes) : SessionStep Ticket :=
  match datagrams with
  | [] => session.enter (.serving service) []
  | datagram :: others =>
      session.enter (.sending service reference datagram others) []

/-- Take whether a datagram of a job was written. If not, the session goes
down. -/
def afterSend
    (session : Session Ticket)
    (service : Service Ticket)
    (reference : UInt16)
    (others : List Bytes)
    (succeeded : Bool) : SessionStep Ticket :=
  if succeeded then
    session.sendNext service reference others
  else
    let (service, failed) := service.sendFailed reference
    let (session, notices) := session.goDown service .sendFailed
    (session, outcomes failed ++ notices)

/-- Go on after a job was taken from the queue. -/
def afterDispatch (session : Session Ticket) (service : Service Ticket) :
    Dispatch Ticket -> SessionStep Ticket
  | .skipped => session.enter (.serving service) []
  | .refused outcome =>
      ({ session with phase := .serving service }, [.outcome outcome])
  | .sending reference datagrams =>
      session.sendNext service reference datagrams

/-- Go on after a frame was received. -/
def afterReception (session : Session Ticket) (service : Service Ticket) :
    Reception Ticket -> SessionStep Ticket
  | .ignored => session.enter (.serving service) []
  | .answered outcome =>
      ({ session with phase := .serving service }, [.outcome outcome])
  | .missed reference => session.enter (.serving service) [.miss reference]
  | .overflowed length => session.enter (.serving service) [.overflow length]
  | .disconnected => session.goDown service .peerDisconnected

/-- Why a session goes down whose stream ended. -/
def streamDown : StreamEnd -> DownReason
  | .finished => .peerClosed
  | .broken => .receiveFailed

/-- Send the next job, or take the next datagram. -/
def serve [DecidableEq Ticket]
    (session : Session Ticket)
    (service : Service Ticket)
    (now : Nat) : Option (SessionStep Ticket) :=
  match service.dispatch? now with
  | some (service, dispatch) => some (session.afterDispatch service dispatch)
  | none =>
      match session.arrival with
      | (.nothing, _) => none
      | (.over streamEnd, session) =>
          some (session.goDown service (streamDown streamEnd))
      | (.datagram datagram, session) =>
          let (service, reception) := service.receive datagram.frame
          some (session.afterReception service reception)

/-- Do what a session that is to stop does in its phase. -/
def stop? (session : Session Ticket) : Option (SessionStep Ticket) :=
  match session.phase with
  | .idle | .sending _ _ _ _ | .departing _ | .ended _ => none
  | .serving service => some (session.goDown service .requested)
  | _ => some (session.enterState (.ended (.ok .closed)) [])

/-- Do the next thing that can be done without the network, if there is one. -/
def advance [DecidableEq Ticket] (session : Session Ticket) (now : Nat) :
    Option (SessionStep Ticket) :=
  if session.cancelled then
    session.stop?
  else
    match session.phase with
    | .confirming handshake => session.awaitConfirm handshake
    | .negotiating frameSize => session.awaitSetup frameSize
    | .serving service => session.serve service now
    | _ => none

/-- What a session wishes for that cannot do anything by itself. -/
def wish (session : Session Ticket) : Wish :=
  match session.phase with
  | .idle | .ended _ => .nothing
  | .resolving => .resolve session.settings.host session.settings.port
  | .connecting endpoint _ => .connect endpoint
  | .requesting _ datagram | .proposing _ datagram | .departing datagram
  | .sending _ _ datagram _ => .write datagram
  | .confirming _ | .negotiating _ | .serving _ => .read

/-- Take a report of the network. One that does not belong to the phase changes
nothing. -/
def hear (session : Session Ticket) (report : NetworkReport) :
    SessionStep Ticket :=
  match report, session.phase with
  | .resolved endpoints?, .resolving => session.takeEndpoints endpoints?
  | .connected succeeded, .connecting _ others =>
      session.takeConnection others succeeded
  | .written succeeded, .requesting handshake _ =>
      session.afterWrite (.confirming handshake) succeeded
  | .written succeeded, .proposing frameSize _ =>
      session.afterWrite (.negotiating frameSize) succeeded
  | .written succeeded, .sending service reference _ others =>
      session.afterSend service reference others succeeded
  | .written _, .departing _ =>
      session.enterState (.ended (.ok .closed)) []
  | .received bytes, _ =>
      ({ session with inbound := session.inbound.feed bytes }, [])
  | .ended streamEnd, _ =>
      ({ session with streamEnd? := some streamEnd }, [])
  | _, _ => (session, [])

/-- Put another service in place of the one there is. -/
def withService (session : Session Ticket) (service : Service Ticket) :
    Session Ticket :=
  { session with phase := session.phase.withService service }

/-- End what has run out of time: the attempt to connect, or jobs. -/
def tick (session : Session Ticket) (now : Nat) : SessionStep Ticket :=
  match session.phase.service? with
  | some service =>
      let (service, lapsed) := service.lapse now
      let (service, expired) := service.expire now
      (session.withService service,
        outcomes (lapsed ++ expired.map Prod.snd)
          ++ expired.map fun (reference, _) => .event (.timeout reference))
  | none =>
      match session.phase with
      | .idle | .departing _ | .ended _ => (session, [])
      | _ =>
          if session.readyBy ≤ now then session.fail .connectTimeout
          else (session, [])

/-- When a session runs out of time next. -/
def nextDeadline? (session : Session Ticket) : Option Nat :=
  match session.phase.service? with
  | some service => service.nextDeadline?
  | none =>
      match session.phase with
      | .idle | .departing _ | .ended _ => none
      | _ => some session.readyBy

/-- Ask for a job. It is refused if the session is not ready, if the body has
no PDU, or if that PDU is larger than agreed. -/
def submit
    (session : Session Ticket)
    (ticket : Ticket)
    (body : Body)
    (now : Nat) : Except Error (Session Ticket) := do
  let some service := session.phase.service? | .error .notConnected
  let pdu <- body.toPdu 0
  if service.context.pduSize.toNat < pdu.encodedLength then
    .error .invalidParameter
  else
    let deadline := now + session.settings.requestTimeout
    match service.submit { ticket, pdu, deadline } with
    | some service => return session.withService service
    | none => .error .notConnected

/-- Put an admitted job into the queue. -/
def enqueue [DecidableEq Ticket] (session : Session Ticket) (ticket : Ticket) :
    Session Ticket :=
  match session.phase.service? with
  | some service => session.withService (service.enqueue ticket)
  | none => session

/-- Let the caller of a job give up. -/
def giveUp [DecidableEq Ticket] (session : Session Ticket) (ticket : Ticket) :
    Session Ticket :=
  match session.phase.service? with
  | some service => session.withService (service.giveUp ticket)
  | none => session

/-- Ask a session to stop when it looks next. -/
def cancel (session : Session Ticket) : Session Ticket :=
  { session with cancelled := true }

/-- Ask a session to stop, and let no more jobs begin. -/
def shutDown (session : Session Ticket) : SessionStep Ticket :=
  let session := session.cancel
  match session.phase.service? with
  | some service =>
      let (service, failed) := service.close
      (session.withService service, outcomes failed)
  | none => (session, [])

end Session
end PlcLink
