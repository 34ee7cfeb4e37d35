import PlcLink.Client.Supervisor
import PlcLink.Settings.Basic

/-!
# Clients

A client has one connection at a time. Calls to connect and to disconnect come
from any number of callers; they take turns in the order in which they came. A
call that finds a supervisor asks it to stop and waits until it is done before
it starts another, and so does a call to disconnect before it returns.

A caller may abandon its call at any time. The supervisor that the call had
taken or started is then asked to stop, but nobody waits for it.
-/

namespace PlcLink

/-- What a caller wants of the connection. -/
inductive CallKind
  | connect
  | disconnect
  deriving DecidableEq, Repr

/-- What a call does once the supervisor it waits for is done. -/
inductive AfterStop
  | launch
  | finish (result : Except Error Unit)

/-- How far a call has come. -/
inductive CallStage
  /-- It is not the turn of the call. -/
  | waiting
  /-- Waiting until a supervisor is done. -/
  | stopping (task? : Option Nat) (after : AfterStop)
  /-- Waiting for the answer of a new supervisor. -/
  | starting (task : Nat)

/-- A call under way. -/
structure Call where
  number : Nat
  kind : CallKind
  stage : CallStage

/-- A supervisor in the hands of the client. Once a call waited for it, it is
not waited for again. -/
structure HeldSupervisor where
  task? : Option Nat
  deriving DecidableEq, Repr

/-- The session of a supervisor's attempt. -/
structure SessionKey where
  task : Nat
  attempt : Nat
  deriving DecidableEq, Repr

/-- A client with the supervisors it ever started. -/
structure Client where
  settings : Settings
  sessionSettings : SessionSettings
  state : ConnectionState
  /-- The session that operations use. -/
  current? : Option SessionKey
  supervisors : List Supervisor
  held? : Option HeldSupervisor
  /-- Calls in the order in which they came; the first has its turn. -/
  calls : List Call

namespace Client

/-- The client of checked settings. -/
def ofSettings (settings : Settings) : Except Error Client := do
  let sessionSettings <- settings.session
  return {
    settings
    sessionSettings
    state := .idle
    current? := none
    supervisors := []
    held? := none
    calls := [] }

/-- When the client reconnects. -/
def reconnectPolicy (client : Client) : ReconnectPolicy :=
  { isEnabled := client.settings.autoReconnect
    interval := client.settings.reconnectInterval }

/-- Take one publication of a task. -/
def publish (client : Client) (task : Nat) : Publication -> Client
  | .session attempt => { client with current? := some { task, attempt } }
  | .noSession => { client with current? := none }
  | .state state => { client with state }

/-- Put the outcome of a supervisor's step into the client. -/
def update
    (client : Client)
    (task : Nat)
    (step : Supervisor × List Publication) : Client :=
  step.2.foldl (fun client publication => client.publish task publication)
    { client with supervisors := client.supervisors.set task step.1 }

/-- Whether the supervisor of a task still makes attempts. -/
def isRunning (client : Client) (task : Nat) : Bool :=
  (client.supervisors[task]?.map Supervisor.isRunning).getD false

/-- Ask the supervisor of a task to stop. -/
def cancelTask (client : Client) (task? : Option Nat) : Client :=
  match task? with
  | some task =>
      { client with
        supervisors := client.supervisors.modify task Supervisor.cancel }
  | none => client

/-- Let a caller call. -/
def call (client : Client) (number : Nat) (kind : CallKind) : Client :=
  { client with
    calls := client.calls ++ [{ number, kind, stage := .waiting }] }

/-- Whether a held supervisor keeps a connection that is ready. -/
def isConnected (client : Client) (held : HeldSupervisor) : Bool :=
  (held.task?.map client.isRunning).getD false && client.state.isReady

/-- Start a supervisor and wait for its answer. -/
def launch (client : Client) : Client × CallStage :=
  ({ client with
     held? := none
     supervisors :=
       client.supervisors ++ [.ofPolicy client.reconnectPolicy] },
    .starting client.supervisors.length)

/-- Begin a call whose turn has come. -/
def enter (client : Client) (kind : CallKind) : Client × CallStage :=
  match kind, client.held? with
  | .connect, none => client.launch
  | .connect, some held =>
      if client.isConnected held then
        (client, .stopping none (.finish (.ok ())))
      else
        ({ client.cancelTask held.task? with held? := some { task? := none } },
          .stopping held.task? .launch)
  | .disconnect, none => (client, .stopping none (.finish (.ok ())))
  | .disconnect, some held =>
      ({ client.cancelTask held.task? with held? := none },
        .stopping held.task? (.finish (.ok ())))

/-- Take the answer of a new supervisor. One that failed is waited for. -/
def takeAnswer (client : Client) (task : Nat) : Client × CallStage :=
  match client.supervisors[task]?.bind Supervisor.answer? with
  | some (.ok ()) =>
      ({ client with held? := some { task? := some task } },
        .stopping none (.finish (.ok ())))
  | some (.error error) =>
      (client.cancelTask (some task),
        .stopping (some task) (.finish (.error error)))
  | none =>
      if client.isRunning task then
        (client, .starting task)
      else
        (client.cancelTask (some task),
          .stopping (some task) (.finish (.error .notConnected)))

/-- Let a call that has its turn take one step. The result is there once it is
through. -/
def stepCall (client : Client) (call : Call) :
    Client × CallStage × Option (Except Error Unit) :=
  match call.stage with
  | .waiting =>
      let (client, stage) := client.enter call.kind
      (client, stage, none)
  | .starting task =>
      let (client, stage) := client.takeAnswer task
      (client, stage, none)
  | .stopping task? after =>
      if (task?.map client.isRunning).getD false then
        (client, call.stage, none)
      else
        match after with
        | .launch =>
            let (client, stage) := client.launch
            (client, stage, none)
        | .finish result => (client, call.stage, some result)

/-- Let a caller take one step of its call, if it has its turn. -/
def poll (client : Client) (number : Nat) :
    Client × Option (Except Error Unit) :=
  match client.calls with
  | [] => (client, none)
  | call :: calls =>
      if call.number ≠ number then
        (client, none)
      else
        match client.stepCall call with
        | (client, _, some result) => ({ client with calls }, some result)
        | (client, stage, none) =>
            ({ client with calls := { call with stage } :: calls }, none)

/-- Let a caller take up to so many steps of its call. -/
def pollUpTo (client : Client) (number : Nat) :
    Nat -> Client × Option (Except Error Unit)
  | 0 => (client, none)
  | steps + 1 =>
      match client.poll number with
      | (client, some result) => (client, some result)
      | (client, none) => client.pollUpTo number steps

/-- Let a caller take steps of its call until it has to wait. A call has no
more than five stages: it enters, stops a supervisor, launches another, takes
its answer, and waits for it in case it failed. -/
def pollThrough (client : Client) (number : Nat) :
    Client × Option (Except Error Unit) :=
  client.pollUpTo number 5

/-- Let a caller abandon its call. A supervisor that it was starting is asked
to stop. -/
def abandon (client : Client) (number : Nat) : Client :=
  let (abandoned, calls) :=
    client.calls.partition fun call => call.number == number
  abandoned.foldl
    (fun client call =>
      match call.stage with
      | .starting task => client.cancelTask (some task)
      | _ => client)
    { client with calls }

end Client
end PlcLink
