import PlcLink.Rehearsal.Caller

/-!
# Rehearsals

A rehearsal takes turn after turn. In a turn one caller takes a step, or several
take theirs at the same time; the next turn begins when all are through. A step
that comes to a fault ends the whole rehearsal.
-/

namespace PlcLink
namespace Rehearsal

/-- The callers of a turn. -/
structure Turn where
  callers : List Caller
  /-- Whether the callers act at the same time, rather than one alone. -/
  isShared : Bool

/-- Whether a turn is a single step that changes or awaits the state of the
client. -/
def Turn.concernsState (turn : Turn) : Bool :=
  !turn.isShared
    && turn.callers.any fun caller =>
      match caller.step with
      | .call _ | .awaitState _ _ => true
      | _ => false

/-- What came of a turn, and what was to be seen of the client after it. -/
structure TurnResult where
  results : List (Except Error StepAnswer)
  view : View

namespace Stage

/-- Let callers and everybody else act in turns until the callers are through or
one comes to a fault.
When nobody can act, the clock moves. The callers go first, and a caller that
need not wait gives nobody else the opportunity to act. -/
def play : Nat -> Stage -> List Caller -> Stage × List Caller
  | 0, stage, callers => (stage, callers)
  | left + 1, stage, callers =>
      let before := stage.actions
      let (stage, callers) := stage.goOnAll callers
      if callers.any fun caller => caller.fault?.isSome then
        (stage, callers)
      else if callers.all fun caller => caller.result?.isSome then
        (stage, callers)
      else
        let stage := stage.settle
        if before < stage.actions then
          play left stage callers
        else
          match stage.skipAhead? with
          | some stage => play left stage callers
          | none => (stage, callers)

/-- Take a turn. A step that can never be through gives nothing. -/
def take (stage : Stage) (callers : List Caller) :
    Guarded (Stage × TurnResult) :=
  let (stage, callers) := play patience stage callers
  match callers.findSome? Caller.fault? with
  | some fault => Guarded.crash fault
  | none =>
      .ok (stage,
        { results :=
            callers.map fun caller => caller.result?.getD (.ok .nothing)
          view := stage.clientView })

/-- Take turns one after the other. -/
def takeAll (stage : Stage) :
    List Turn -> Guarded (Stage × List (Turn × TurnResult))
  | [] => .ok (stage, [])
  | turn :: turns => do
      let (stage, result) <- stage.take turn.callers
      let (stage, results) <- stage.takeAll turns
      return (stage, (turn, result) :: results)

/-- Take one step and wait for its result. -/
def takeStep (stage : Stage) (step : Step) :
    Guarded (Stage × Except Error StepAnswer) := do
  let (stage, result) <- stage.take [.ofStep step 0]
  return (stage, result.results.headD (.ok .nothing))

/-- The messages received on each connection. -/
def received (stage : Stage) : List (List Bytes) :=
  stage.network.connections.map PeerConnection.messages

end Stage

/-- What came of a rehearsal. -/
structure Performance where
  turns : List (Turn × TurnResult)
  /-- What came of the last step: to disconnect, or to wait for the end. -/
  ending : Except Error StepAnswer
  /-- The state after that. -/
  final : ConnectionState
  stage : Stage

/-- The settings under which every host is this machine. -/
def onThisMachine (settings : Settings) : Settings :=
  { settings with host := "127.0.0.1", port := Network.localEndpoint.port }

/-- Rehearse with a client, which disconnects in the end. -/
def performClient
    (network : Network)
    (settings : Settings)
    (turns : List Turn) : Guarded Performance := do
  let client <- Guarded.ofResult (Client.ofSettings settings)
  let (stage, turns) <- (Stage.ofNetwork network (some client)).takeAll turns
  let (stage, ending) <- stage.takeStep (.call .disconnect)
  return { turns, ending, final := stage.clientView.state, stage }

/-- Rehearse with a lone session, which is shut down in the end. -/
def performSession
    (network : Network)
    (settings : Settings)
    (turns : List Turn) : Guarded Performance := do
  let sessionSettings <- Guarded.ofResult settings.session
  let stage :=
    (Stage.ofNetwork network none).addActor Stage.loneKey sessionSettings false
  let (stage, turns) <- stage.takeAll turns
  let (stage, _) <- stage.takeStep .shutDown
  let (stage, ending) <- stage.takeStep .join
  let state? := (stage.session? Stage.loneKey).map Session.state
  return { turns, ending, final := state?.getD .idle, stage }

end Rehearsal
end PlcLink
