import PlcLink.Session.Lifecycle

/-!
# Supervisors

A supervisor makes one attempt at a connection after another. Whoever started
it is answered once: with the error of the first attempt if that one failed,
and otherwise as soon as the first attempt became ready or ended. Only after an
attempt that had been ready is there another one, and between two attempts
there is a rest.

What a supervisor lets the client know leaves it as publications.
-/

namespace PlcLink

/-- What to do after an established connection is lost. -/
structure ReconnectPolicy where
  isEnabled : Bool
  /-- How long to rest between two attempts. -/
  interval : Nat
  deriving DecidableEq, Repr

/-- How far a supervisor has come. -/
inductive SupervisorPhase
  /-- The next attempt is about to begin. -/
  | due
  /-- An attempt is under way. -/
  | driving
  | resting (wake : Nat)
  | done
  deriving DecidableEq, Repr

/-- What a supervisor lets the client know. -/
inductive Publication
  /-- The session of an attempt is the current one. -/
  | session (attempt : Nat)
  | noSession
  | state (state : ConnectionState)
  deriving DecidableEq, Repr

/-- The maker of the attempts at one connection. -/
structure Supervisor where
  policy : ReconnectPolicy
  phase : SupervisorPhase
  /-- Number of attempts begun. -/
  attempts : Nat
  /-- What the starter was answered. -/
  answer? : Option (Except Error Unit)
  cancelled : Bool

namespace Supervisor

/-- The supervisor that has not made an attempt. -/
def ofPolicy (policy : ReconnectPolicy) : Supervisor :=
  { policy
    phase := .due
    attempts := 0
    answer? := none
    cancelled := false }

/-- Whether the supervisor still makes attempts. -/
def isRunning (supervisor : Supervisor) : Bool :=
  supervisor.phase ≠ .done

/-- Ask the supervisor to stop. -/
def cancel (supervisor : Supervisor) : Supervisor :=
  { supervisor with cancelled := true }

/-- Answer the starter unless that was done before. -/
def answer (supervisor : Supervisor) (result : Except Error Unit) :
    Supervisor :=
  { supervisor with answer? := some (supervisor.answer?.getD result) }

/-- Make no more attempts. If that was asked for, the connection counts as
closed. -/
def stop (supervisor : Supervisor) : Supervisor × List Publication :=
  ({ supervisor with phase := .done },
    if supervisor.cancelled then [.state .closed] else [])

/-- Rest before the next attempt. -/
def rest (supervisor : Supervisor) (now : Nat) :
    Supervisor × List Publication :=
  ({ supervisor with phase := .resting (now + supervisor.policy.interval) },
    [])

/-- Begin the next attempt unless the supervisor is to stop. -/
def begin (supervisor : Supervisor) : Supervisor × List Publication :=
  if supervisor.cancelled then
    supervisor.stop
  else
    let attempts := supervisor.attempts + 1
    ({ supervisor with phase := .driving, attempts }, [.session attempts])

/-- Pass on the state of the session; once it is ready, the starter has its
answer. -/
def observe (supervisor : Supervisor) (state : ConnectionState) :
    Supervisor × List Publication :=
  (if state.isReady then supervisor.answer (.ok ()) else supervisor,
    [.state state])

/-- Decide what follows the end of an attempt. -/
def decide
    (supervisor : Supervisor)
    (result : Except Error SessionExit)
    (now : Nat) : Supervisor × List Publication :=
  match result with
  | .ok .closed => (supervisor.answer (.ok ())).stop
  | .ok .transportLost =>
      let supervisor := supervisor.answer (.ok ())
      if supervisor.policy.isEnabled then supervisor.rest now
      else supervisor.stop
  | .error error =>
      match supervisor.answer? with
      | none =>
          ({ supervisor.answer (.error error) with phase := .done }, [])
      | some _ => supervisor.rest now

/-- Take the end of an attempt in a last state. -/
def conclude
    (supervisor : Supervisor)
    (last : ConnectionState)
    (result : Except Error SessionExit)
    (now : Nat) : Supervisor × List Publication :=
  let (supervisor, observed) := supervisor.observe last
  let (supervisor, decided) := supervisor.decide result now
  (supervisor, observed ++ .noSession :: decided)

/-- End the rest if it is over, or if the supervisor is to stop. -/
def wake? (supervisor : Supervisor) (now : Nat) :
    Option (Supervisor × List Publication) :=
  match supervisor.phase with
  | .resting wake =>
      if supervisor.cancelled then
        some supervisor.stop
      else if wake ≤ now then
        some ({ supervisor with phase := .due }, [])
      else
        none
  | _ => none

/-- When the rest of the supervisor is over. -/
def nextWake? (supervisor : Supervisor) : Option Nat :=
  match supervisor.phase with
  | .resting wake => some wake
  | _ => none

end Supervisor
end PlcLink
