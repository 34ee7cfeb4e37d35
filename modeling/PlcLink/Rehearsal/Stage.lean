import Std.Data.TreeMap
import PlcLink.Client.Basic
import PlcLink.Rehearsal.Network
import PlcLink.Session.Exchange
import PlcLink.Session.Run

/-!
# The stage of a rehearsal

On the stage are a network, sessions on it, and a client that owns them, unless
a session stands alone. The stage has a clock of its own. Sessions and
supervisors act until each of them waits for something; the clock moves only
when nobody can act, and then to the next time at which somebody can.

The loops over actions are bounded by the patience of the stage, which is more
than any rehearsal needs.
-/

namespace PlcLink
namespace Rehearsal

/-- A session on the stage. -/
structure Actor where
  key : SessionKey
  session : Session Nat
  line : Network.Line
  /-- Whether the session may act. -/
  isOn : Bool

/-- Everything that takes part in a rehearsal. -/
structure Stage where
  network : Network
  now : Nat
  actors : List Actor
  client? : Option Client
  /-- The ticket of the next job. -/
  nextTicket : Nat
  /-- How jobs ended, by ticket. -/
  results : Std.TreeMap Nat (Except Error Pdu)
  /-- What was told, the oldest first. -/
  events : List SessionEvent
  /-- Number of actions so far. -/
  actions : Nat

namespace Stage

/-- The number of actions after which a loop gives up. -/
def patience : Nat := 100000

/-- The stage before a rehearsal. -/
def ofNetwork (network : Network) (client? : Option Client) : Stage :=
  { network
    now := 0
    actors := []
    client?
    nextTicket := 0
    results := ∅
    events := []
    actions := 0 }

/-- The session of a key. -/
def actor? (stage : Stage) (key : SessionKey) : Option Actor :=
  stage.actors.find? fun actor => actor.key = key

/-- Put an actor in the place of the one with its key. -/
def setActor (stage : Stage) (actor : Actor) : Stage :=
  { stage with
    actors := stage.actors.map fun other =>
      if other.key = actor.key then actor else other }

/-- Let a new session enter the stage. -/
def addActor
    (stage : Stage)
    (key : SessionKey)
    (settings : SessionSettings)
    (isOn : Bool) : Stage :=
  let actor : Actor :=
    { key
      session := .ofSettings settings
      line := { settings, connection? := none }
      isOn }
  { stage with actors := stage.actors ++ [actor] }

/-- Take one notice of a session. -/
def notice (stage : Stage) : Notice Nat -> Stage
  | .event event => { stage with events := stage.events ++ [event] }
  | .outcome outcome =>
      { stage with
        results := stage.results.insert outcome.ticket outcome.result }

/-- Put what a step made of a session on the stage. -/
def absorb (stage : Stage) (actor : Actor) (step : SessionStep Nat) : Stage :=
  step.2.foldl notice
    { stage.setActor { actor with session := step.1 } with
      actions := stage.actions + 1 }

/-- Let a session do one thing, if there is one that it can do: by itself, or
with what the network has for it. -/
def act? (stage : Stage) (actor : Actor) : Option Stage :=
  match actor.session.advance stage.now with
  | some step => some (stage.absorb actor step)
  | none =>
      match stage.network.fulfil? actor.line actor.session.wish with
      | some (report, network, line) =>
          some
            ({ stage with network }.absorb { actor with line }
              (actor.session.hear report))
      | none => none

/-- Let the session of a key act until it has to wait. -/
def run (key : SessionKey) : Nat -> Stage -> Stage
  | 0, stage => stage
  | left + 1, stage =>
      match stage.actor? key with
      | none => stage
      | some actor =>
          match stage.act? actor with
          | some stage => run key left stage
          | none => stage

/-- Begin the session of a key if it is idle, and let it act. One that may not
act yet does nothing. -/
def drive (stage : Stage) (key : SessionKey) : Stage :=
  match stage.actor? key with
  | none => stage
  | some actor =>
      if actor.isOn then
        let stage :=
          match actor.session.phase with
          | .idle => stage.absorb actor (actor.session.begin stage.now)
          | _ => stage
        stage.run key patience
      else
        stage

/-- Change a session. -/
def withSession
    (stage : Stage)
    (key : SessionKey)
    (change : Session Nat -> Session Nat) : Stage :=
  match stage.actor? key with
  | some actor =>
      stage.setActor { actor with session := change actor.session }
  | none => stage

/-- Put what a step made of a supervisor on the stage. -/
def supervise
    (stage : Stage)
    (client : Client)
    (task : Nat)
    (step : Supervisor × List Publication) : Stage :=
  { stage with
    client? := some (client.update task step)
    actions := stage.actions + 1 }

/-- End the rest of a supervisor if it is over. -/
def wakeTask
    (stage : Stage)
    (client : Client)
    (task : Nat)
    (supervisor : Supervisor) : Stage :=
  match supervisor.wake? stage.now with
  | some step => stage.supervise client task step
  | none => stage

/-- Let a supervisor begin its next attempt if one is due. -/
def beginTask
    (stage : Stage)
    (client : Client)
    (task : Nat)
    (supervisor : Supervisor) : Stage :=
  match supervisor.phase with
  | .due =>
      let (supervisor, publications) := supervisor.begin
      let stage := stage.supervise client task (supervisor, publications)
      if supervisor.phase = .driving then
        stage.addActor { task, attempt := supervisor.attempts }
          client.sessionSettings true
      else
        stage
  | _ => stage

/-- Let a supervisor see how the session of its attempt is. -/
def observeTask
    (stage : Stage)
    (task : Nat)
    (supervisor : Supervisor)
    (session : Session Nat) : Stage :=
  match stage.client? with
  | none => stage
  | some client =>
      match session.phase.result? with
      | some result =>
          stage.supervise client task
            (supervisor.conclude session.state result stage.now)
      | none =>
          { stage with
            client? :=
              some (client.update task (supervisor.observe session.state)) }

/-- Let the session of a supervisor's attempt act, if one is under way. -/
def driveTask
    (stage : Stage)
    (task : Nat)
    (supervisor : Supervisor) : Stage :=
  match supervisor.phase with
  | .driving =>
      let key : SessionKey := { task, attempt := supervisor.attempts }
      let stage :=
        if supervisor.cancelled then stage.withSession key Session.cancel
        else stage
      let stage := stage.drive key
      match stage.actor? key with
      | some actor => stage.observeTask task supervisor actor.session
      | none => stage
  | _ => stage

/-- Do something with the client and the supervisor of a task. -/
def withTask
    (stage : Stage)
    (task : Nat)
    (change : Stage -> Client -> Supervisor -> Stage) : Stage :=
  match stage.client? with
  | none => stage
  | some client =>
      match client.supervisors[task]? with
      | some supervisor => change stage client supervisor
      | none => stage

/-- Let a supervisor and its session act until both wait. -/
def settleTask (stage : Stage) (task : Nat) : Stage :=
  let stage :=
    stage.withTask task fun stage client supervisor =>
      stage.wakeTask client task supervisor
  let stage :=
    stage.withTask task fun stage client supervisor =>
      stage.beginTask client task supervisor
  stage.withTask task fun stage _ supervisor =>
    stage.driveTask task supervisor

/-- Let everybody but the callers act until they wait. -/
def settle (stage : Stage) : Stage :=
  match stage.client? with
  | some client =>
      (List.range client.supervisors.length).foldl settleTask stage
  | none => (stage.actors.map Actor.key).foldl drive stage

/-- The next time at which somebody can act. -/
def nextTime? (stage : Stage) : Option Nat :=
  let deadlines :=
    stage.actors.filterMap fun actor => actor.session.nextDeadline?
  let wakes :=
    (stage.client?.map Client.supervisors).getD []
      |>.filterMap Supervisor.nextWake?
  (deadlines ++ wakes).min?

/-- Let the clock tick for one session. -/
def tickActor (stage : Stage) (key : SessionKey) : Stage :=
  match stage.actor? key with
  | some actor => stage.absorb actor (actor.session.tick stage.now)
  | none => stage

/-- Move the clock to the next time at which somebody can act. -/
def skipAhead? (stage : Stage) : Option Stage :=
  stage.nextTime?.map fun time =>
    (stage.actors.map Actor.key).foldl tickActor
      { stage with now := max stage.now time }

end Stage
end Rehearsal
end PlcLink
