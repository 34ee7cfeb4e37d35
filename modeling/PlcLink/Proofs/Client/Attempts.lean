import Mathlib
import PlcLink.Proofs.Client.Supervision
import PlcLink.Proofs.Session.Serving

/-!
# How a session can end

A session that became ready ends without an error, and a session that did not
cannot lose its transport. These are the attempts that a supervisor has to deal
with.
-/

namespace PlcLink

variable {Ticket : Type}

namespace Phase

/-- Whether a session in the phase may not have been ready yet. -/
def IsEarly : Phase Ticket -> Prop
  | serving _ | sending _ _ _ _ | departing _ => False
  | ended (.ok .transportLost) => False
  | _ => True

/-- Whether a session in the phase may have been ready. -/
def IsLate : Phase Ticket -> Prop
  | serving _ | sending _ _ _ _ | departing _ | ended (.ok _) => True
  | _ => False

theorem isLate_of_isReady {phase : Phase Ticket}
    (isReady : phase.state.isReady = true) : phase.IsLate := by
  cases phase with
  | serving _ | sending _ _ _ _ => trivial
  | ended result =>
      cases result with
      | ok exit => trivial
      | error error => cases isReady
  | _ => cases isReady

end Phase

namespace Session

variable [DecidableEq Ticket] {session next : Session Ticket}

/-- What can happen to a session. -/
inductive Befalls (session : Session Ticket) : Session Ticket -> Prop
  | begin (isIdle : session.phase = .idle) (now : Nat) :
      Befalls session (session.begin now).1
  | advance {now : Nat} {step : SessionStep Ticket}
      (advanced : session.advance now = some step) : Befalls session step.1
  | hear (report : NetworkReport) : Befalls session (session.hear report).1
  | tick (now : Nat) : Befalls session (session.tick now).1
  | submit {ticket : Ticket} {body : Body} {now : Nat} {next : Session Ticket}
      (submitted : session.submit ticket body now = .ok next) :
      Befalls session next
  | enqueue (ticket : Ticket) : Befalls session (session.enqueue ticket)
  | giveUp (ticket : Ticket) : Befalls session (session.giveUp ticket)
  | cancel : Befalls session session.cancel
  | shutDown : Befalls session session.shutDown.1

/-- What a session can have come to, and whether it was ready on the way. -/
inductive Lives (settings : SessionSettings) :
    Bool -> Session Ticket -> Prop
  | start : Lives settings false (.ofSettings settings)
  | step {wasReady : Bool} {session next : Session Ticket}
      (lives : Lives settings wasReady session)
      (befalls : session.Befalls next) :
      Lives settings (wasReady || next.state.isReady) next

/-! ## A session that was ready -/

section

omit [DecidableEq Ticket]

theorem isLate_goDown (session : Session Ticket) (service : Service Ticket)
    (reason : DownReason) : (session.goDown service reason).1.phase.IsLate := by
  unfold goDown
  dsimp only
  split
  · trivial
  · split <;> trivial

theorem isLate_sendNext (session : Session Ticket) (service : Service Ticket)
    (reference : UInt16) (datagrams : List Bytes) :
    (session.sendNext service reference datagrams).1.phase.IsLate := by
  cases datagrams <;> trivial

theorem isLate_afterSend (session : Session Ticket) (service : Service Ticket)
    (reference : UInt16) (others : List Bytes) (succeeded : Bool) :
    (session.afterSend service reference others succeeded).1.phase.IsLate := by
  cases succeeded with
  | true => exact isLate_sendNext session service reference others
  | false =>
      exact isLate_goDown session (service.sendFailed reference).1 .sendFailed

theorem isLate_afterDispatch (session : Session Ticket)
    (service : Service Ticket) (dispatch : Dispatch Ticket) :
    (session.afterDispatch service dispatch).1.phase.IsLate := by
  cases dispatch with
  | sending reference datagrams =>
      exact isLate_sendNext session service reference datagrams
  | skipped => trivial
  | refused outcome => trivial

theorem isLate_afterReception (session : Session Ticket)
    (service : Service Ticket) (reception : Reception Ticket) :
    (session.afterReception service reception).1.phase.IsLate := by
  cases reception with
  | disconnected => exact isLate_goDown session service .peerDisconnected
  | _ => trivial

theorem isLate_withService (isLate : session.phase.IsLate)
    (service : Service Ticket) : (session.withService service).phase.IsLate := by
  unfold withService
  cases phase : session.phase with
  | serving _ | sending _ _ _ _ | departing _ => trivial
  | ended result =>
      rw [phase] at isLate
      exact isLate
  | _ => rw [phase] at isLate; exact isLate.elim

theorem isLate_hear (isLate : session.phase.IsLate) (report : NetworkReport) :
    (session.hear report).1.phase.IsLate := by
  unfold hear
  split
  case h_5 => exact isLate_afterSend _ _ _ _ _
  case h_6 => trivial
  case h_7 | h_8 | h_9 => exact isLate
  all_goals
    -- In the other phases the connection is still being opened.
    rename_i phase
    rw [phase] at isLate
    exact isLate.elim

theorem isLate_tick (isLate : session.phase.IsLate) (now : Nat) :
    (session.tick now).1.phase.IsLate := by
  cases phase : session.phase with
  | serving _ | sending _ _ _ _ =>
      simp only [tick, phase, Phase.service?]
      exact isLate_withService isLate _
  | departing _ | ended _ =>
      simp only [tick, phase, Phase.service?]
      rw [← phase]
      exact isLate
  | _ => rw [phase] at isLate; exact isLate.elim

theorem isLate_shutDown (isLate : session.phase.IsLate) :
    session.shutDown.1.phase.IsLate := by
  unfold shutDown
  dsimp only
  split
  · have cancelled : session.cancel.phase.IsLate := isLate
    exact isLate_withService cancelled _
  · exact isLate

end

theorem isLate_serve (service : Service Ticket) {now : Nat}
    {step : SessionStep Ticket}
    (served : session.serve service now = some step) :
    step.1.phase.IsLate := by
  unfold serve at served
  split at served
  · cases served
    exact isLate_afterDispatch _ _ _
  · split at served
    · cases served
    · cases served
      exact isLate_goDown _ _ _
    · cases served
      exact isLate_afterReception _ _ _

theorem isLate_advance (isLate : session.phase.IsLate) {now : Nat}
    {step : SessionStep Ticket} (advanced : session.advance now = some step) :
    step.1.phase.IsLate := by
  cases phase : session.phase with
  | serving service =>
      simp only [advance, stop?, phase] at advanced
      split at advanced
      · cases advanced
        exact isLate_goDown _ _ _
      · exact isLate_serve service advanced
  | sending _ _ _ _ | departing _ | ended _ =>
      simp [advance, stop?, phase] at advanced
  | _ => rw [phase] at isLate; exact isLate.elim

theorem isLate_of_befalls (isLate : session.phase.IsLate)
    (befalls : session.Befalls next) : next.phase.IsLate := by
  cases befalls with
  | begin isIdle now =>
      rw [isIdle] at isLate
      exact isLate.elim
  | advance advanced => exact isLate_advance isLate advanced
  | hear report => exact isLate_hear isLate report
  | tick now => exact isLate_tick isLate now
  | submit submitted =>
      cases service : session.phase.service? with
      | none =>
          simp only [submit, service] at submitted
          cases submitted
      | some service =>
          obtain ⟨_, later, -, -, rfl⟩ := submit_eq_ok service submitted
          exact isLate_withService isLate later
  | enqueue ticket =>
      unfold enqueue
      split
      · exact isLate_withService isLate _
      · exact isLate
  | giveUp ticket =>
      unfold giveUp
      split
      · exact isLate_withService isLate _
      · exact isLate
  | cancel => exact isLate
  | shutDown => exact isLate_shutDown isLate

/-! ## A session that was not ready yet -/

section

omit [DecidableEq Ticket]

theorem service?_of_isEarly (isEarly : session.phase.IsEarly) :
    session.phase.service? = none := by
  cases phase : session.phase with
  | serving _ | sending _ _ _ _ => rw [phase] at isEarly; exact isEarly.elim
  | _ => rfl

theorem isEarly_orFail {value : Type} {result : Except Error value}
    {goOn : value -> SessionStep Ticket}
    (goesOn : ∀ value, (goOn value).1.phase.IsEarly) :
    (session.orFail result goOn).1.phase.IsEarly := by
  cases result with
  | ok value => exact goesOn value
  | error error => trivial

theorem isEarly_begin (session : Session Ticket) (now : Nat) :
    (session.begin now).1.phase.IsEarly := by
  unfold begin
  split <;> trivial

theorem isEarly_hear (isEarly : session.phase.IsEarly)
    (report : NetworkReport) : (session.hear report).1.phase.IsEarly := by
  unfold hear
  split
  · unfold takeEndpoints
    split <;> trivial
  · unfold takeConnection
    split
    · exact isEarly_orFail fun _ => trivial
    · split <;> trivial
  · unfold afterWrite
    split <;> trivial
  · unfold afterWrite
    split <;> trivial
  · rename_i phase
    rw [phase] at isEarly
    exact isEarly.elim
  · trivial
  · exact isEarly
  · exact isEarly
  · exact isEarly

theorem isEarly_tick (isEarly : session.phase.IsEarly) (now : Nat) :
    (session.tick now).1.phase.IsEarly := by
  unfold tick
  rw [service?_of_isEarly isEarly]
  dsimp only
  split
  · exact isEarly
  · exact isEarly
  · exact isEarly
  · split
    · trivial
    · exact isEarly

theorem isEarly_awaitConfirm {handshake : Handshake}
    {step : SessionStep Ticket}
    (awaited : session.awaitConfirm handshake = some step) :
    step.1.phase.IsEarly := by
  unfold awaitConfirm at awaited
  split at awaited
  · cases awaited
  · cases awaited
    trivial
  · cases awaited
    refine isEarly_orFail fun frameSize => ?_
    exact isEarly_orFail fun _ => trivial

/-- What negotiating the setup leads to. -/
theorem isEarly_or_isReady_awaitSetup {frameSize : Nat}
    {step : SessionStep Ticket}
    (awaited : session.awaitSetup frameSize = some step) :
    step.1.phase.IsEarly ∨ step.1.state.isReady = true := by
  unfold awaitSetup at awaited
  split at awaited
  · cases awaited
  · cases awaited
    exact .inl trivial
  · cases awaited
    unfold orFail
    split
    · exact .inr rfl
    · exact .inl trivial

end

theorem isEarly_or_isReady_of_advance (isEarly : session.phase.IsEarly)
    {now : Nat} {step : SessionStep Ticket}
    (advanced : session.advance now = some step) :
    step.1.phase.IsEarly ∨ step.1.state.isReady = true := by
  unfold advance at advanced
  split at advanced
  · unfold stop? at advanced
    split at advanced
    · cases advanced
    · cases advanced
    · cases advanced
    · cases advanced
    · rename_i phase
      rw [phase] at isEarly
      exact isEarly.elim
    · cases advanced
      exact .inl trivial
  · split at advanced
    · exact .inl (isEarly_awaitConfirm advanced)
    · exact isEarly_or_isReady_awaitSetup advanced
    · rename_i phase
      rw [phase] at isEarly
      exact isEarly.elim
    · cases advanced

theorem isEarly_or_isReady_of_befalls (isEarly : session.phase.IsEarly)
    (befalls : session.Befalls next) :
    next.phase.IsEarly ∨ next.state.isReady = true := by
  have noService := service?_of_isEarly isEarly
  cases befalls with
  | begin isIdle now => exact .inl (isEarly_begin session now)
  | advance advanced => exact isEarly_or_isReady_of_advance isEarly advanced
  | hear report => exact .inl (isEarly_hear isEarly report)
  | tick now => exact .inl (isEarly_tick isEarly now)
  | submit submitted =>
      simp only [submit, noService] at submitted
      cases submitted
  | enqueue ticket => rw [enqueue, noService]; exact .inl isEarly
  | giveUp ticket => rw [giveUp, noService]; exact .inl isEarly
  | cancel => exact .inl isEarly
  | shutDown =>
      have cancelled : session.cancel.phase.service? = none := noService
      rw [shutDown, cancelled]
      exact .inl isEarly

/-- Before it became ready a session is early, and from then on it is late. -/
theorem Lives.isEarly_or_isLate {settings : SessionSettings} {wasReady : Bool}
    (lives : Lives settings wasReady session) :
    wasReady = false ∧ session.phase.IsEarly
      ∨ wasReady = true ∧ session.phase.IsLate := by
  induction lives with
  | start => exact .inl ⟨rfl, trivial⟩
  | @step wasReady session next lives befalls inductionHypothesis =>
      obtain ⟨rfl, isEarly⟩ | ⟨rfl, isLate⟩ := inductionHypothesis
      · rw [Bool.false_or]
        cases isReady : next.state.isReady with
        | true => exact .inr ⟨rfl, Phase.isLate_of_isReady isReady⟩
        | false =>
            refine .inl ⟨rfl, ?_⟩
            refine (isEarly_or_isReady_of_befalls isEarly befalls).resolve_right
              ?_
            rw [isReady]
            exact Bool.false_ne_true
      · exact .inr ⟨rfl, isLate_of_befalls isLate befalls⟩

/-- However a session lives, it ends as an attempt can end. -/
theorem Lives.isPossible {settings : SessionSettings} {wasReady : Bool}
    {result : Except Error SessionExit}
    (lives : Lives settings wasReady session)
    (ended : session.phase = .ended result) :
    ({ wasReady, result } : Attempt).isPossible = true := by
  obtain ⟨rfl, isEarly⟩ | ⟨rfl, isLate⟩ := lives.isEarly_or_isLate
  · rw [ended] at isEarly
    match result with
    | .error _ | .ok .closed => rfl
    | .ok .transportLost => exact isEarly.elim
  · rw [ended] at isLate
    match result with
    | .error _ => exact isLate.elim
    | .ok .closed | .ok .transportLost => rfl

end Session

/-- A supervisor takes every end that the session of its attempt can have. -/
theorem Supervision.exists_step_conclude [DecidableEq Ticket]
    {run : Supervision} {settings : SessionSettings}
    {session : Session Ticket} {result : Except Error SessionExit}
    (isDriving : run.supervisor.phase = .driving)
    (lives : Session.Lives settings run.wasReady session)
    (ended : session.phase = .ended result) (now : Nat) :
    ∃ next, run.step? (.conclude result now) = some next :=
  ⟨_, if_pos ⟨isDriving, lives.isPossible ended⟩⟩

end PlcLink
