import PlcLink.Client.Request
import PlcLink.Rehearsal.Stage

/-!
# Callers

A caller takes one step of a rehearsal: a call to the client, a request, an
operation of the lone session, or a look at something. Steps that have to wait
are looked after again whenever something may have changed.
-/

namespace PlcLink
namespace Rehearsal

/-- A step of a rehearsal. -/
inductive Step
  /-- Connect or disconnect the client. -/
  | call (kind : CallKind)
  | request (request : ClientRequest)
  /-- Ask for the client's settings. -/
  | settings
  /-- Ask for the client's state. -/
  | clientState
  /-- Wait for a state of the client and a number of connections. -/
  | awaitState (name : String) (accepted : Nat)
  /-- Let the lone session act. -/
  | start
  /-- Wait until the lone session is ready or has ended. -/
  | awaitReady
  | shutDown
  /-- Wait for the end of the lone session. -/
  | join
  /-- Ask for the state of the lone session. -/
  | sessionState
  | operation (operation : Operation)

/-- What is to be seen of a connection. -/
structure View where
  state : ConnectionState
  context? : Option Context
  deriving DecidableEq, Repr

/-- What a step gives. -/
inductive StepAnswer
  | nothing
  | done
  | flag (value : Bool)
  | client (answer : ClientAnswer)
  | session (answer : Answer)
  | settings (settings : Settings)
  | state (state : ConnectionState)
  | view (view : View)
  | exit (sessionExit : SessionExit)

/-- How far a caller has come. -/
inductive CallerProgress
  /-- Not before so many messages were received. -/
  | held (messages : Nat)
  /-- Waiting for something to be the case. -/
  | looking
  /-- Waiting for the client to connect or disconnect. -/
  | calling (number : Nat)
  /-- Waiting for the outcomes of jobs. -/
  | exchanging
      (key : SessionKey)
      (exchange : Exchange)
      (tickets : List Nat)
      (conclude : Answer -> Except Error StepAnswer)
  | finished (result : Except Error StepAnswer)
  /-- The step came to a fault. -/
  | crashed (fault : Fault)

/-- Somebody who takes a step. -/
structure Caller where
  step : Step
  progress : CallerProgress

namespace Stage

/-- The key of a session without a client. -/
def loneKey : SessionKey :=
  { task := 0, attempt := 1 }

/-- The session of a key, if it is on the stage. -/
def session? (stage : Stage) (key : SessionKey) : Option (Session Nat) :=
  (stage.actor? key).map Actor.session

/-- What is to be seen of the client. -/
def clientView (stage : Stage) : View :=
  match stage.client? with
  | none => { state := .idle, context? := none }
  | some client =>
      { state := client.state
        context? :=
          client.current?.bind fun key =>
            (stage.session? key).bind Session.context? }

/-- Submit one job and put it into the queue at once, if that is possible. -/
def submit (stage : Stage) (key : SessionKey) (body : Body) : Stage :=
  let ticket := stage.nextTicket
  let stage := { stage with nextTicket := ticket + 1 }
  match stage.actor? key with
  | none => stage.notice (.outcome { ticket, result := .error .notConnected })
  | some actor =>
      match actor.session.submit ticket body stage.now with
      | .error error =>
          stage.notice (.outcome { ticket, result := .error error })
      | .ok session =>
          stage.setActor { actor with session := session.enqueue ticket }

/-- Begin a round of jobs. -/
def beginRound
    (stage : Stage)
    (key : SessionKey)
    (exchange : Exchange)
    (bodies : List Body)
    (conclude : Answer -> Except Error StepAnswer) :
    Stage × CallerProgress :=
  let tickets := List.range' stage.nextTicket bodies.length
  (bodies.foldl (fun stage body => stage.submit key body) stage,
    .exchanging key exchange tickets conclude)

/-- Go on with an operation: it is through, or its next round begins. -/
def proceed
    (stage : Stage)
    (key : SessionKey)
    (conclude : Answer -> Except Error StepAnswer) :
    Progress -> Stage × CallerProgress
  | .finished result =>
      ({ stage with actions := stage.actions + 1 },
        .finished (result.bind conclude))
  | .round exchange bodies => stage.beginRound key exchange bodies conclude
  | .crashed fault => (stage, .crashed fault)

/-- Look after jobs: put those that were admitted into the queue, and go on
once all have ended. -/
def followUp
    (stage : Stage)
    (key : SessionKey)
    (exchange : Exchange)
    (tickets : List Nat)
    (conclude : Answer -> Except Error StepAnswer) :
    Stage × CallerProgress :=
  let stage :=
    stage.withSession key fun session =>
      tickets.foldl (fun session ticket => session.enqueue ticket) session
  match tickets.mapM fun ticket => stage.results[ticket]? with
  | none => (stage, .exchanging key exchange tickets conclude)
  | some replies => stage.proceed key conclude (exchange.resume replies)

/-- Look after jobs once more if there are any: those of a round that was just
begun may have failed at once. -/
def followRound : Stage × CallerProgress -> Stage × CallerProgress
  | (stage, .exchanging key exchange tickets conclude) =>
      stage.followUp key exchange tickets conclude
  | other => other

/-- Begin an operation of a session. -/
def beginOperation
    (stage : Stage)
    (key : SessionKey)
    (operation : Operation)
    (conclude : Answer -> Except Error StepAnswer) :
    Stage × CallerProgress :=
  match stage.session? key with
  | none => (stage, .finished (.error .notConnected))
  | some session =>
      followRound <|
        stage.proceed key conclude
          (operation.start session.settings session.context?)

/-- Begin a request to the client, whose current session must be ready. -/
def beginRequest (stage : Stage) (request : ClientRequest) :
    Stage × CallerProgress :=
  match request.operation with
  | .error error => (stage, .finished (.error error))
  | .ok operation =>
      let ready? :=
        (stage.client?.bind Client.current?).filter fun key =>
          ((stage.session? key).map fun session =>
            session.state.isReady).getD false
      match ready? with
      | none => (stage, .finished (.error .notConnected))
      | some key =>
          stage.beginOperation key operation fun answer =>
            (request.conclude answer).map .client

/-- What a look shows, once it shows something. -/
def look? (stage : Stage) : Step -> Option (Except Error StepAnswer)
  | .settings =>
      stage.client?.map fun client => .ok (.settings client.settings)
  | .clientState => some (.ok (.state stage.clientView.state))
  | .awaitState name accepted =>
      if stage.clientView.state.name = name
          ∧ accepted ≤ stage.network.connections.length then
        some (.ok .nothing)
      else
        none
  | .awaitReady => do
      let session <- stage.session? loneKey
      let state := session.state
      if state.isReady || state.isTerminal then
        some (.ok (.flag state.isReady))
      else
        none
  | .join => do
      let actor <- stage.actor? loneKey
      if actor.isOn then
        let result <- actor.session.phase.result?
        some (result.map .exit)
      else
        some (.ok .nothing)
  | .sessionState =>
      (stage.session? loneKey).map fun session =>
        .ok (.view { state := session.state, context? := session.context? })
  | _ => none

/-- Look, and be through if the look shows something. A session that was waited
for counts as off from then on. -/
def lookAgain (stage : Stage) (step : Step) : Stage × CallerProgress :=
  match stage.look? step with
  | none => (stage, .looking)
  | some result =>
      let actors :=
        match step with
        | .join => stage.actors.map fun actor => { actor with isOn := false }
        | _ => stage.actors
      ({ stage with actors, actions := stage.actions + 1 }, .finished result)

/-- Let the caller of a call go on as far as it can. -/
def callAgain (stage : Stage) (number : Nat) : Stage × CallerProgress :=
  match stage.client? with
  | none => (stage, .finished (.error .notConnected))
  | some client =>
      let (client, result?) := client.pollThrough number
      let stage := { stage with client? := some client }
      match result? with
      | none => (stage, .calling number)
      | some result =>
          ({ stage with actions := stage.actions + 1 },
            .finished (result.map fun _ => .done))

/-- Begin a step. Calls are numbered like jobs. -/
def begin (stage : Stage) (step : Step) : Stage × CallerProgress :=
  match step with
  | .call kind =>
      let number := stage.nextTicket
      let client? :=
        stage.client?.map fun (client : Client) => client.call number kind
      { stage with nextTicket := number + 1, client? }.callAgain number
  | .request request => stage.beginRequest request
  | .operation operation =>
      stage.beginOperation loneKey operation fun answer =>
        .ok (.session answer)
  | .start =>
      let actors := stage.actors.map fun actor => { actor with isOn := true }
      ({ stage with actors }, .finished (.ok .nothing))
  | .shutDown =>
      (match stage.actor? loneKey with
        | some actor => stage.absorb actor actor.session.shutDown
        | none => stage,
        .finished (.ok .nothing))
  | step => stage.lookAgain step

/-- Let a caller go on as far as it can. -/
def goOn (stage : Stage) (caller : Caller) : Stage × CallerProgress :=
  match caller.progress with
  | .held messages =>
      if messages ≤ stage.network.messageCount then stage.begin caller.step
      else (stage, caller.progress)
  | .looking => stage.lookAgain caller.step
  | .calling number => stage.callAgain number
  | .exchanging key exchange tickets conclude =>
      followRound (stage.followUp key exchange tickets conclude)
  | .finished _ | .crashed _ => (stage, caller.progress)

/-- Let callers go on one after the other. -/
def goOnAll (stage : Stage) : List Caller -> Stage × List Caller
  | [] => (stage, [])
  | caller :: callers =>
      let (stage, progress) := stage.goOn caller
      let (stage, callers) := stage.goOnAll callers
      (stage, { caller with progress } :: callers)

end Stage

namespace Caller

/-- The caller of a step that begins once so many messages were received. -/
def ofStep (step : Step) (messages : Nat) : Caller :=
  { step, progress := .held messages }

/-- What came of the step, if it is through. -/
def result? (caller : Caller) : Option (Except Error StepAnswer) :=
  match caller.progress with
  | .finished result => some result
  | _ => none

/-- The fault the step came to, if it did. -/
def fault? (caller : Caller) : Option Fault :=
  match caller.progress with
  | .crashed fault => some fault
  | _ => none

end Caller
end Rehearsal
end PlcLink
