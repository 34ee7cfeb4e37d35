import Mathlib
import PlcLink.Client.Basic
import PlcLink.Proofs.Client.Supervision
import PlcLink.Proofs.Failure

/-!
# One supervisor after another

Callers connect, disconnect and abandon their calls, and every supervisor that
was ever started goes on by itself. As long as no call is abandoned while it
waits for a supervisor that runs, no more than one runs, the last one that was
started, and the current session is that of its attempt.

A supervisor whose end nobody waits for any more is left to itself. The next
call starts another one beside it, and loses the session when the first is done.
-/

namespace PlcLink

/-! ## Steps of a supervisor -/

/-- What a supervisor can do. -/
inductive SupervisorAct
  | begin
  | observe (state : ConnectionState)
  /-- The session of the attempt ends in a last state. -/
  | conclude (last : ConnectionState) (result : Except Error SessionExit)
      (now : Nat)
  | wake (now : Nat)

namespace Supervisor

variable {supervisor : Supervisor} {step : Supervisor × List Publication}

/-- Take a step, if it can be taken. -/
def act? (supervisor : Supervisor) :
    SupervisorAct -> Option (Supervisor × List Publication)
  | .begin =>
      if supervisor.phase = .due then some supervisor.begin else none
  | .observe state =>
      if supervisor.phase = .driving then some (supervisor.observe state)
      else none
  | .conclude last result now =>
      if supervisor.phase = .driving then
        some (supervisor.conclude last result now)
      else
        none
  | .wake now => supervisor.wake? now

/-- The steps of a supervisor, as far as its attempts and their sessions go. -/
inductive Acts (supervisor : Supervisor) :
    Supervisor × List Publication -> Prop
  /-- An attempt begins with its session. -/
  | opens {next : Supervisor} (due : supervisor.phase = .due)
      (drives : next.phase = .driving) :
      Acts supervisor (next, [.session next.attempts])
  /-- An attempt goes on. -/
  | continues {next : Supervisor} {state : ConnectionState}
      (driving : supervisor.phase = .driving) (drives : next.phase = .driving)
      (same : next.attempts = supervisor.attempts) :
      Acts supervisor (next, [.state state])
  /-- An attempt ends, and its session is gone. -/
  | closes {next : Supervisor} {last : ConnectionState}
      (states : List ConnectionState) (driving : supervisor.phase = .driving)
      (ends : next.phase ≠ .driving) :
      Acts supervisor
        (next, .state last :: .noSession :: states.map Publication.state)
  /-- Something happens between two attempts. -/
  | passes {next : Supervisor} (states : List ConnectionState)
      (between : supervisor.phase ≠ .driving)
      (running : supervisor.phase ≠ .done) (rests : next.phase ≠ .driving) :
      Acts supervisor (next, states.map Publication.state)

theorem stop_eq (supervisor : Supervisor) :
    supervisor.stop
      = ({ supervisor with phase := .done },
        (if supervisor.cancelled then [ConnectionState.closed] else []).map
          Publication.state) := by
  rw [stop]
  split <;> rfl

theorem acts_conclude (driving : supervisor.phase = .driving)
    (last : ConnectionState) (result : Except Error SessionExit) (now : Nat) :
    supervisor.Acts (supervisor.conclude last result now) := by
  have conclusion := supervisor.conclusion last result now
  generalize supervisor.conclude last result now = step at conclusion ⊢
  cases conclusion with
  | stops isFinal =>
      split
      · exact .closes [.closed] driving nofun
      · exact .closes [] driving nofun
  | rests goesOn => exact .closes [] driving nofun
  | fails failed unanswered => exact .closes [] driving nofun

theorem acts {act : SupervisorAct} (acted : supervisor.act? act = some step) :
    supervisor.Acts step := by
  cases act with
  | begin =>
      rw [act?] at acted
      split at acted
      · rename_i due
        cases acted
        rw [begin]
        split
        · rw [stop_eq]
          exact .passes _ (by simp [due]) (by simp [due]) (by simp)
        · exact .opens due rfl
      · cases acted
  | observe state =>
      rw [act?] at acted
      split at acted
      · rename_i driving
        cases acted
        rw [observe_eq]
        exact .continues driving driving rfl
      · cases acted
  | conclude last result now =>
      rw [act?] at acted
      split at acted
      · rename_i driving
        cases acted
        exact acts_conclude driving last result now
      · cases acted
  | wake now =>
      rw [act?, wake?] at acted
      cases phase : supervisor.phase with
      | resting wake =>
          rw [phase] at acted
          dsimp only at acted
          split at acted
          · cases acted
            rw [stop_eq]
            exact .passes _ (by simp [phase]) (by simp [phase]) (by simp)
          · split at acted
            · cases acted
              exact .passes [] (by simp [phase]) (by simp [phase]) (by simp)
            · cases acted
      | due | driving | done =>
          rw [phase] at acted
          cases acted

theorem Acts.running (acts : supervisor.Acts step) :
    supervisor.phase ≠ .done := by
  cases acts with
  | opens due drives => simp [due]
  | continues driving drives same => simp [driving]
  | closes states driving ends => simp [driving]
  | passes states between running rests => exact running

end Supervisor

/-! ## Moves of a client -/

/-- What callers and supervisors can do. -/
inductive ClientMove
  | call (number : Nat) (kind : CallKind)
  /-- A caller takes a step of its call. -/
  | poll (number : Nat)
  | abandon (number : Nat)
  | supervise (task : Nat) (act : SupervisorAct)

/-- The supervisor whose end or answer a call waits for. -/
def CallStage.task? : CallStage -> Option Nat
  | .waiting => none
  | .stopping task? _ => task?
  | .starting task => some task

namespace Client

/-- Make a move, if it can be made. -/
def move? (client : Client) : ClientMove -> Option Client
  | .call number kind => some (client.call number kind)
  | .poll number => some (client.poll number).1
  | .abandon number => some (client.abandon number)
  | .supervise task act => do
      let supervisor <- client.supervisors[task]?
      let step <- supervisor.act? act
      return client.update task step

/-- Make moves one after the other. -/
def play? (client : Client) : List ClientMove -> Option Client
  | [] => some client
  | move :: moves => (client.move? move).bind fun next => next.play? moves

/-- Whether a move leaves no supervisor to itself: what a call waits for is done
when it is abandoned. -/
def IsPatient (client : Client) : ClientMove -> Prop
  | .abandon number =>
      ∀ call ∈ client.calls, call.number = number →
        ∀ task ∈ call.stage.task?, client.isRunning task = false
  | _ => True

/-- Whether no move leaves a supervisor to itself. -/
def Patient (client : Client) : List ClientMove -> Prop
  | [] => True
  | move :: moves =>
      client.IsPatient move
        ∧ ∀ next, client.move? move = some next → next.Patient moves

/-! ## Progress -/

variable {client : Client} {task attempts : Nat} {phase : SupervisorPhase}

/-- How far the supervisor of a task has come, and how many attempts it has
begun. -/
def progress? (client : Client) (task : Nat) :
    Option (SupervisorPhase × Nat) :=
  client.supervisors[task]?.map fun supervisor =>
    (supervisor.phase, supervisor.attempts)

theorem isRunning_eq_true_iff :
    client.isRunning task = true
      ↔ ∃ phase attempts,
        client.progress? task = some (phase, attempts) ∧ phase ≠ .done := by
  unfold isRunning progress?
  cases client.supervisors[task]? with
  | none => simp
  | some supervisor => simp [Supervisor.isRunning]

theorem lt_of_progress?
    (progress : client.progress? task = some (phase, attempts)) :
    task < client.supervisors.length := by
  obtain ⟨supervisor, there, -⟩ := Option.map_eq_some_iff.1 progress
  exact (List.getElem?_eq_some_iff.1 there).1

@[simp] theorem progress?_cancelTask (client : Client) (task? : Option Nat)
    (task : Nat) :
    (client.cancelTask task?).progress? task = client.progress? task := by
  cases task? with
  | none => rfl
  | some cancelled =>
      simp only [cancelTask, progress?, List.getElem?_modify]
      cases client.supervisors[task]? with
      | none => rfl
      | some supervisor =>
          simp only [Option.map_some]
          split <;> rfl

theorem isRunning_congr {first second : Client}
    (same : first.progress? task = second.progress? task) :
    first.isRunning task = second.isRunning task := by
  rw [Bool.eq_iff_iff, isRunning_eq_true_iff, isRunning_eq_true_iff, same]

@[simp] theorem calls_cancelTask (client : Client) (task? : Option Nat) :
    (client.cancelTask task?).calls = client.calls := by
  cases task? <;> rfl

@[simp] theorem held?_cancelTask (client : Client) (task? : Option Nat) :
    (client.cancelTask task?).held? = client.held? := by
  cases task? <;> rfl

@[simp] theorem current?_cancelTask (client : Client) (task? : Option Nat) :
    (client.cancelTask task?).current? = client.current? := by
  cases task? <;> rfl

@[simp] theorem length_cancelTask (client : Client) (task? : Option Nat) :
    (client.cancelTask task?).supervisors.length
      = client.supervisors.length := by
  cases task? with
  | none => rfl
  | some task => exact List.length_modify _ _ _

/-! ## What a supervisor's step changes -/

theorem foldl_publish (client : Client) (task : Nat)
    (published : List Publication) :
    ∃ current? state,
      published.foldl
          (fun client publication => client.publish task publication) client
        = { client with current?, state } := by
  induction published generalizing client with
  | nil => exact ⟨client.current?, client.state, rfl⟩
  | cons publication published inductionHypothesis =>
      obtain ⟨current?, state, same⟩ :=
        inductionHypothesis (client.publish task publication)
      refine ⟨current?, state, same.trans ?_⟩
      cases publication <;> rfl

theorem current?_foldl_states (client : Client) (task : Nat)
    (states : List ConnectionState) :
    ((states.map Publication.state).foldl
        (fun client publication => client.publish task publication)
        client).current?
      = client.current? := by
  induction states generalizing client with
  | nil => rfl
  | cons first states inductionHypothesis =>
      exact inductionHypothesis (client.publish task (.state first))

/-- The session of the attempt that is under way is the current one, and no
other is. -/
def Slotted (client : Client) : Prop :=
  ∀ task attempt,
    client.current? = some { task, attempt }
      ↔ client.progress? task = some (.driving, attempt)

/-- One supervisor at most runs, the last that was started. If one runs, it is
the one that the client has in its hands. -/
structure Keeps (client : Client) (owned? : Option Nat) : Prop where
  owned : ∀ task, client.isRunning task = true → owned? = some task
  latest : ∀ task, client.isRunning task = true →
    task + 1 = client.supervisors.length
  slotted : client.Slotted

namespace Keeps

variable {owned? : Option Nat} {supervisor : Supervisor}
  {step : Supervisor × List Publication}

/-- An attempt of another supervisor is not under way. -/
theorem not_driving (keeps : client.Keeps owned?)
    (running : client.isRunning task = true) {other : Nat}
    (isOther : other ≠ task) (attempt : Nat) :
    client.progress? other ≠ some (.driving, attempt) := by
  intro driving
  have otherRuns : client.isRunning other = true :=
    isRunning_eq_true_iff.2 ⟨_, _, driving, nofun⟩
  have last := keeps.latest task running
  have otherLast := keeps.latest other otherRuns
  omega

end Keeps

/-- A step changes the supervisor that takes it, and what it lets the client
know. -/
theorem exists_update_eq (client : Client) (task : Nat)
    (step : Supervisor × List Publication) :
    ∃ current? state,
      client.update task step
        = { client with
            supervisors := client.supervisors.set task step.1
            current?
            state } :=
  foldl_publish
    { client with supervisors := client.supervisors.set task step.1 } task
    step.2

theorem progress?_update {supervisor : Supervisor}
    (there : client.supervisors[task]? = some supervisor)
    (step : Supervisor × List Publication) (other : Nat) :
    (client.update task step).progress? other
      = if other = task then some (step.1.phase, step.1.attempts)
        else client.progress? other := by
  obtain ⟨current?, state, updated⟩ := client.exists_update_eq task step
  have within : task < client.supervisors.length :=
    (List.getElem?_eq_some_iff.1 there).1
  rw [updated]
  by_cases isTask : other = task
  · rw [if_pos isTask, isTask, progress?, List.getElem?_set_self within]
    rfl
  · rw [if_neg isTask, progress?, List.getElem?_set_ne (Ne.symm isTask)]
    rfl

theorem length_update (client : Client) (task : Nat)
    (step : Supervisor × List Publication) :
    (client.update task step).supervisors.length
      = client.supervisors.length := by
  obtain ⟨current?, state, updated⟩ := client.exists_update_eq task step
  rw [updated]
  exact List.length_set

/-- The session of an attempt comes and goes with it. -/
theorem current?_update {supervisor : Supervisor}
    {step : Supervisor × List Publication} (acts : supervisor.Acts step)
    (slotted : supervisor.phase = .driving →
      client.current? = some { task, attempt := supervisor.attempts }) :
    (client.update task step).current?
      = if step.1.phase = .driving then
          some { task, attempt := step.1.attempts }
        else if supervisor.phase = .driving then none
        else client.current? := by
  cases acts with
  | opens due drives =>
      rw [if_pos drives]
      rfl
  | continues driving drives same =>
      rw [if_pos drives, same, ← slotted driving]
      rfl
  | closes states driving ends =>
      rw [if_neg ends, if_pos driving, update, List.foldl_cons, List.foldl_cons,
        current?_foldl_states]
      rfl
  | passes states between running rests =>
      rw [if_neg rests, if_neg between, update, current?_foldl_states]

theorem progress?_launch (client : Client) (task : Nat) :
    client.launch.1.progress? task
      = if task = client.supervisors.length then some (.due, 0)
        else client.progress? task := by
  have launched : client.launch.1.supervisors
      = client.supervisors ++ [.ofPolicy client.reconnectPolicy] := rfl
  rw [progress?, launched]
  split
  · rename_i isLast
    rw [isLast, List.getElem?_append_right le_rfl, Nat.sub_self]
    rfl
  · rename_i isOld
    rcases Nat.lt_or_gt_of_ne isOld with within | beyond
    · rw [List.getElem?_append_left within]
      rfl
    · rw [progress?, List.getElem?_eq_none, List.getElem?_eq_none]
      · exact beyond.le
      · rw [List.length_append]
        exact beyond

namespace Keeps

theorem update (keeps : client.Keeps owned?)
    (there : client.supervisors[task]? = some supervisor)
    (acts : supervisor.Acts step) : (client.update task step).Keeps owned? := by
  have progress : client.progress? task
      = some (supervisor.phase, supervisor.attempts) := by
    rw [progress?, there]
    rfl
  have running : client.isRunning task = true :=
    isRunning_eq_true_iff.2 ⟨_, _, progress, acts.running⟩
  have stillRuns : ∀ other, (client.update task step).isRunning other = true →
      client.isRunning other = true := by
    intro other otherRuns
    by_cases isTask : other = task
    · rwa [isTask]
    · have same := progress?_update there step other
      rw [if_neg isTask] at same
      rwa [← isRunning_congr same]
  have current := current?_update acts fun driving => by
    rw [keeps.slotted, progress, driving]
  constructor
  · exact fun other otherRuns => keeps.owned other (stillRuns other otherRuns)
  · intro other otherRuns
    rw [length_update]
    exact keeps.latest other (stillRuns other otherRuns)
  · intro other attempt
    rw [progress?_update there, current]
    by_cases isTask : other = task
    · subst isTask
      rw [if_pos rfl]
      split
      · rename_i drives
        simp [drives]
      · rename_i ends
        split
        · simp [ends]
        · rename_i between
          rw [keeps.slotted, progress]
          simp [ends, between]
    · have notDriving := keeps.not_driving running isTask attempt
      have notCurrent := mt (keeps.slotted other attempt).1 notDriving
      rw [if_neg isTask, iff_false_right notDriving]
      split
      · simp [Ne.symm isTask]
      · split
        · exact nofun
        · exact notCurrent

/-- If nothing runs, nobody needs to have it in hands. -/
theorem of_idle (keeps : client.Keeps owned?)
    (idle : ∀ task ∈ owned?, client.isRunning task = false)
    (other? : Option Nat) : client.Keeps other? where
  owned task running := by
    have stopped := idle task (keeps.owned task running)
    rw [running] at stopped
    cases stopped
  latest := keeps.latest
  slotted := keeps.slotted

/-- Nothing else of a client matters. -/
theorem congr {other : Client} (keeps : client.Keeps owned?)
    (supervisors : other.supervisors = client.supervisors)
    (current : other.current? = client.current?) : other.Keeps owned? := by
  have progress (task : Nat) :
      other.progress? task = client.progress? task := by
    rw [progress?, progress?, supervisors]
  constructor
  · intro task running
    rw [isRunning_congr (progress task)] at running
    exact keeps.owned task running
  · intro task running
    rw [isRunning_congr (progress task)] at running
    rw [supervisors]
    exact keeps.latest task running
  · intro task attempt
    rw [current, progress]
    exact keeps.slotted task attempt

theorem cancelTask (keeps : client.Keeps owned?) (task? : Option Nat) :
    (client.cancelTask task?).Keeps owned? where
  owned task running := by
    rw [isRunning_congr (progress?_cancelTask client task? task)] at running
    exact keeps.owned task running
  latest task running := by
    rw [isRunning_congr (progress?_cancelTask client task? task)] at running
    rw [length_cancelTask]
    exact keeps.latest task running
  slotted task attempt := by
    rw [current?_cancelTask, progress?_cancelTask]
    exact keeps.slotted task attempt

/-- A supervisor that is started alone is the last one. -/
theorem launch (keeps : client.Keeps owned?)
    (idle : ∀ task ∈ owned?, client.isRunning task = false) :
    client.launch.1.Keeps (some client.supervisors.length) := by
  have isNew : ∀ task, client.launch.1.isRunning task = true →
      task = client.supervisors.length := by
    intro task running
    by_contra isOld
    have same := client.progress?_launch task
    rw [if_neg isOld] at same
    rw [isRunning_congr same] at running
    have stopped := idle task (keeps.owned task running)
    rw [running] at stopped
    cases stopped
  constructor
  · intro task running
    rw [isNew task running]
  · intro task running
    rw [isNew task running]
    simp only [Client.launch, List.length_append, List.length_singleton]
  · intro task attempt
    have same : client.launch.1.current? = client.current? := rfl
    rw [same, keeps.slotted, progress?_launch]
    split
    · rename_i isLast
      apply iff_of_false
      · intro driving
        have within := lt_of_progress? driving
        omega
      · simp
    · rfl

end Keeps

/-- The supervisor that a client has in its hands while the call whose turn it
is has come so far. -/
def owned? (client : Client) : CallStage -> Option Nat
  | .waiting | .stopping none (.finish _) =>
      client.held?.bind HeldSupervisor.task?
  | .stopping task? _ => task?
  | .starting task => some task

theorem owned?_launch (client : Client) (task? : Option Nat) :
    client.owned? (.stopping task? .launch) = task? := by
  cases task? <;> rfl

theorem owned?_finish_of_none (held : client.held? = none)
    (task? : Option Nat) (result : Except Error Unit) :
    client.owned? (.stopping task? (.finish result)) = task? := by
  cases task? with
  | none =>
      rw [owned?, held]
      rfl
  | some task => rfl

/-- How far the call whose turn it is has come. -/
def turn (client : Client) : CallStage :=
  (client.calls.head?.map Call.stage).getD .waiting

/-- Calls wait for their turn, and no supervisor is left to itself. -/
structure Orderly (client : Client) : Prop where
  keeps : client.Keeps (client.owned? client.turn)
  waiting : ∀ call ∈ client.calls.tail, call.stage = .waiting

namespace Keeps

/-- A call that begins has in its hands what the client had. -/
theorem enter (keeps : client.Keeps (client.owned? .waiting))
    (kind : CallKind) :
    (client.enter kind).1.Keeps
      ((client.enter kind).1.owned? (client.enter kind).2) := by
  unfold Client.enter
  cases held : client.held? with
  | none =>
      rw [owned?, held] at keeps
      cases kind with
      | connect => exact keeps.launch nofun
      | disconnect =>
          dsimp only
          rw [owned?_finish_of_none held]
          exact keeps
  | some before =>
      cases kind with
      | connect =>
          dsimp only
          split
          · exact keeps
          · rw [owned?, held] at keeps
            rw [owned?_launch]
            exact (keeps.cancelTask before.task?).congr rfl rfl
      | disconnect =>
          rw [owned?, held] at keeps
          dsimp only
          rw [owned?_finish_of_none rfl]
          exact (keeps.cancelTask before.task?).congr rfl rfl

/-- A call that started a supervisor hands it over or waits for its end. -/
theorem takeAnswer (keeps : client.Keeps (some task)) :
    (client.takeAnswer task).1.Keeps
      ((client.takeAnswer task).1.owned? (client.takeAnswer task).2) := by
  unfold Client.takeAnswer
  split
  · exact keeps.congr rfl rfl
  · exact keeps.cancelTask (some task)
  · split
    · exact keeps
    · exact keeps.cancelTask (some task)

/-- A call that takes a step keeps what it has in its hands, or lets go of it at
its end. -/
theorem stepCall {call : Call}
    (keeps : client.Keeps (client.owned? call.stage)) :
    match client.stepCall call with
    | (next, stage, none) => next.Keeps (next.owned? stage)
    | (next, _, some _) => next.Keeps (next.owned? .waiting) := by
  unfold Client.stepCall
  cases stage : call.stage with
  | waiting =>
      rw [stage] at keeps
      exact keeps.enter call.kind
  | starting task =>
      rw [stage] at keeps
      exact keeps.takeAnswer
  | stopping task? after =>
      rw [stage] at keeps
      dsimp only
      by_cases running : (task?.map client.isRunning).getD false = true
      · rw [if_pos running]
        exact keeps
      · rw [if_neg running]
        have idle : ∀ task ∈ task?, client.isRunning task = false := by
          rintro task rfl
          exact Bool.eq_false_iff.2 running
        cases after with
        | launch =>
            rw [owned?_launch] at keeps
            exact keeps.launch idle
        | finish result =>
            cases task? with
            | none => exact keeps
            | some task => exact keeps.of_idle idle _

end Keeps

theorem turn_of_waiting
    (waiting : ∀ call ∈ client.calls, call.stage = .waiting) :
    client.turn = .waiting := by
  unfold turn
  cases calls : client.calls with
  | nil => rfl
  | cons call others => exact waiting call (calls ▸ List.mem_cons_self)

namespace Orderly

theorem poll (orderly : client.Orderly) (number : Nat) :
    (client.poll number).1.Orderly := by
  obtain ⟨keeps, waiting⟩ := orderly
  unfold Client.poll
  cases calls : client.calls with
  | nil => exact ⟨keeps, waiting⟩
  | cons call others =>
      dsimp only
      split
      · exact ⟨keeps, waiting⟩
      · have isTurn : client.turn = call.stage := by
          rw [turn, calls]
          rfl
        rw [isTurn] at keeps
        rw [calls, List.tail_cons] at waiting
        have kept := keeps.stepCall
        generalize client.stepCall call = outcome at kept ⊢
        obtain ⟨next, stage, result?⟩ := outcome
        cases result? with
        | none => exact ⟨kept.congr rfl rfl, waiting⟩
        | some result =>
            constructor
            · rw [turn_of_waiting waiting]
              exact kept.congr rfl rfl
            · exact fun call member =>
                waiting call (List.mem_of_mem_tail member)

theorem call (orderly : client.Orderly) (number : Nat) (kind : CallKind) :
    (client.call number kind).Orderly := by
  obtain ⟨keeps, waiting⟩ := orderly
  have called : (client.call number kind).calls
      = client.calls ++ [{ number, kind, stage := .waiting }] := rfl
  constructor
  · have isTurn : (client.call number kind).turn = client.turn := by
      rw [turn, turn, called]
      cases client.calls <;> rfl
    rw [isTurn]
    exact keeps.congr rfl rfl
  · intro call member
    rw [called] at member
    cases calls : client.calls with
    | nil =>
        rw [calls] at member
        cases member
    | cons first others =>
        rw [calls, List.cons_append, List.tail_cons, List.mem_append,
          List.mem_singleton] at member
        obtain old | rfl := member
        · rw [calls] at waiting
          exact waiting call old
        · rfl

theorem update (orderly : client.Orderly) {supervisor : Supervisor}
    {step : Supervisor × List Publication}
    (there : client.supervisors[task]? = some supervisor)
    (acts : supervisor.Acts step) : (client.update task step).Orderly := by
  obtain ⟨keeps, waiting⟩ := orderly
  have kept := keeps.update there acts
  obtain ⟨current?, state, updated⟩ := client.exists_update_eq task step
  rw [updated] at kept ⊢
  exact ⟨kept, waiting⟩

end Orderly

/-- A client with supervisors that were asked to stop. -/
structure Stops (client after : Client) : Prop where
  calls : after.calls = client.calls
  held : after.held? = client.held?
  keeps : ∀ owned?, client.Keeps owned? → after.Keeps owned?

namespace Stops

theorem refl (client : Client) : client.Stops client :=
  ⟨rfl, rfl, fun _ keeps => keeps⟩

theorem cancelTask (client : Client) (task? : Option Nat) :
    client.Stops (client.cancelTask task?) :=
  ⟨calls_cancelTask client task?, held?_cancelTask client task?,
    fun _ keeps => keeps.cancelTask task?⟩

theorem foldl {f : Client -> Call -> Client}
    (stops : ∀ client call, Stops client (f client call))
    (calls : List Call) (client : Client) :
    client.Stops (calls.foldl f client) := by
  induction calls generalizing client with
  | nil => exact refl client
  | cons call others inductionHypothesis =>
      have first := stops client call
      have later := inductionHypothesis (f client call)
      exact
        { calls := later.calls.trans first.calls
          held := later.held.trans first.held
          keeps := fun owned? keeps =>
            later.keeps owned? (first.keeps owned? keeps) }

/-- Calls that are abandoned are gone. -/
theorem abandon (client : Client) (number : Nat) :
    Stops
      { client with
        calls := client.calls.filter fun call => !(call.number == number) }
      (client.abandon number) := by
  unfold Client.abandon
  rw [List.partition_eq_filter_filter]
  apply foldl
  intro client call
  split
  · exact cancelTask client _
  · exact refl client

end Stops

/-- What a call waits for can be let go of once it is done. -/
theorem Keeps.letGo {stage : CallStage}
    (keeps : client.Keeps (client.owned? stage))
    (stopped : ∀ task ∈ stage.task?, client.isRunning task = false) :
    client.Keeps (client.owned? .waiting) := by
  cases stage with
  | waiting => exact keeps
  | starting task => exact keeps.of_idle stopped _
  | stopping task? after =>
      cases task? with
      | some task => exact keeps.of_idle stopped _
      | none =>
          cases after with
          | launch => exact keeps.of_idle nofun _
          | finish result => exact keeps

theorem owned?_congr {other : Client} (held : other.held? = client.held?)
    (stage : CallStage) : other.owned? stage = client.owned? stage := by
  unfold owned?
  rw [held]

theorem Orderly.abandon (orderly : client.Orderly) {number : Nat}
    (patient : client.IsPatient (.abandon number)) :
    (client.abandon number).Orderly := by
  obtain ⟨keeps, waiting⟩ := orderly
  obtain ⟨remaining, held, kept⟩ := Stops.abandon client number
  dsimp only at remaining held
  have still {owned? : Option Nat} (keeps : client.Keeps owned?) :
      (client.abandon number).Keeps owned? :=
    kept owned? (keeps.congr rfl rfl)
  cases calls : client.calls with
  | nil =>
      rw [calls] at remaining
      have isTurn : (client.abandon number).turn = client.turn := by
        rw [turn, turn, calls, remaining]
        rfl
      constructor
      · rw [isTurn, owned?_congr held]
        exact still keeps
      · rw [remaining]
        exact nofun
  | cons call others =>
      have isTurn : client.turn = call.stage := by
        rw [turn, calls]
        rfl
      rw [isTurn] at keeps
      rw [calls, List.tail_cons] at waiting
      by_cases isIt : call.number = number
      · -- The call whose turn it was is gone, and no other has begun.
        have allWait : ∀ call ∈ (client.abandon number).calls,
            call.stage = .waiting := by
          intro call member
          rw [remaining, calls, List.filter_cons_of_neg (by simp [isIt])]
            at member
          exact waiting call (List.mem_of_mem_filter member)
        have done := patient call (calls ▸ List.mem_cons_self) isIt
        constructor
        · rw [turn_of_waiting allWait, owned?_congr held]
          exact still (keeps.letGo done)
        · exact fun call member =>
            allWait call (List.mem_of_mem_tail member)
      · rw [calls, List.filter_cons_of_pos (by simp [isIt])] at remaining
        have sameTurn : (client.abandon number).turn = call.stage := by
          rw [turn, remaining]
          rfl
        constructor
        · rw [sameTurn, owned?_congr held]
          exact still keeps
        · rw [remaining, List.tail_cons]
          exact fun call member =>
            waiting call (List.mem_of_mem_filter member)

/-! ## Runs -/

theorem Orderly.move {next : Client} (orderly : client.Orderly)
    {move : ClientMove} (patient : client.IsPatient move)
    (moved : client.move? move = some next) : next.Orderly := by
  cases move with
  | call number kind =>
      cases moved
      exact orderly.call number kind
  | poll number =>
      cases moved
      exact orderly.poll number
  | abandon number =>
      cases moved
      exact orderly.abandon patient
  | supervise task act =>
      obtain ⟨supervisor, there, stepped⟩ := Option.bind_eq_some_iff.1 moved
      obtain ⟨step, acted, updated⟩ := Option.bind_eq_some_iff.1 stepped
      cases updated
      exact orderly.update there (Supervisor.acts acted)

theorem Orderly.play {final : Client} (orderly : client.Orderly)
    {moves : List ClientMove} (patient : client.Patient moves)
    (played : client.play? moves = some final) : final.Orderly := by
  induction moves generalizing client with
  | nil =>
      cases played
      exact orderly
  | cons move moves inductionHypothesis =>
      obtain ⟨next, moved, played⟩ := Option.bind_eq_some_iff.1 played
      exact inductionHypothesis (orderly.move patient.1 moved)
        (patient.2 next moved) played

theorem orderly_ofSettings {settings : Settings}
    (made : ofSettings settings = .ok client) : client.Orderly := by
  obtain ⟨sessionSettings, -, isClient⟩ := exists_of_bind_eq_ok made
  cases Except.ok.inj isClient
  have noneRuns (task : Nat) :
      isRunning
        { settings
          sessionSettings
          state := .idle
          current? := none
          supervisors := []
          held? := none
          calls := [] } task
        ≠ true := nofun
  constructor
  · constructor
    · exact fun task running => absurd running (noneRuns task)
    · exact fun task running => absurd running (noneRuns task)
    · intro task attempt
      exact iff_of_false nofun nofun
  · exact nofun

/-- One supervisor follows another. -/
structure Succession (client : Client) : Prop where
  /-- None but the last one that was started still runs. -/
  latest : ∀ task, client.isRunning task = true →
    task + 1 = client.supervisors.length
  /-- One that does not run takes no step. -/
  silent : ∀ task supervisor act,
    client.supervisors[task]? = some supervisor →
      client.isRunning task = false → supervisor.act? act = none
  /-- The current session is that of the attempt that is under way. -/
  slotted : ∀ task supervisor attempt,
    client.supervisors[task]? = some supervisor →
      (client.current? = some { task, attempt }
        ↔ supervisor.phase = .driving ∧ supervisor.attempts = attempt)

theorem Orderly.succession (orderly : client.Orderly) : client.Succession where
  latest := orderly.keeps.latest
  silent task supervisor act there stopped := by
    cases acted : supervisor.act? act with
    | none => rfl
    | some step =>
        have running : client.isRunning task = true := by
          rw [isRunning_eq_true_iff, progress?, there]
          exact ⟨_, _, rfl, (Supervisor.acts acted).running⟩
        rw [running] at stopped
        cases stopped
  slotted task supervisor attempt there := by
    rw [orderly.keeps.slotted, progress?, there]
    simp

/-- However calls and supervisors take turns, one supervisor follows another, as
long as none is left to itself. -/
theorem succession {settings : Settings} {moves : List ClientMove}
    {final : Client} (made : ofSettings settings = .ok client)
    (patient : client.Patient moves)
    (played : client.play? moves = some final) : final.Succession :=
  ((orderly_ofSettings made).play patient played).succession

end Client

/-! ## A supervisor that is left to itself -/

namespace Deserted

/-- A caller disconnects, but does not wait until the supervisor is done. -/
def moves : List ClientMove :=
  [.call 1 .connect, .poll 1, .supervise 0 .begin,
    .supervise 0 (.observe .ready), .poll 1, .poll 1,
    .call 2 .disconnect, .poll 2, .abandon 2]

/-- Another caller connects and is told that the connection is ready. -/
def later : List ClientMove :=
  [.call 3 .connect, .poll 3, .supervise 1 .begin,
    .supervise 1 (.observe .ready), .poll 3]

/-- Then the first supervisor is done. -/
def last : ClientMove :=
  .supervise 0 (.conclude .closed (.ok .closed) 0)

end Deserted

open Deserted in
/-- The second connection is ready, its session is current, and the first
supervisor takes both away. -/
theorem Client.exists_two_running :
    ∃ start between ready final : Client,
      ofSettings .default = .ok start
        ∧ start.play? moves = some between
        ∧ between.play? later = some ready
        ∧ ready.isRunning 0 = true
        ∧ ready.isRunning 1 = true
        ∧ ready.state = .ready
        ∧ ready.current? = some { task := 1, attempt := 1 }
        ∧ (ready.poll 3).2 = some (.ok ())
        ∧ ready.move? last = some final
        ∧ final.isRunning 1 = true
        ∧ final.state = .closed
        ∧ final.current? = none :=
  ⟨_, _, _, _, rfl, rfl, rfl, rfl, rfl, rfl, rfl, rfl, rfl, rfl, rfl, rfl⟩

end PlcLink
