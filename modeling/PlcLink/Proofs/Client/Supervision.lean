import Mathlib
import PlcLink.Client.Supervisor

/-!
# Supervised connections

A supervisor begins an attempt when one is due, observes its session, decides
what follows its end, and rests. Meanwhile the session goes through its states
and ends somehow, and the supervisor is asked to stop at any time. A run keeps
an account of the attempts that are over.

However this goes, a first attempt that failed is the last one, and the starter
is answered once. After the supervisor was asked to stop it begins nothing.
-/

namespace PlcLink

/-- An attempt that is over. -/
structure Attempt where
  /-- Whether its session became ready. -/
  wasReady : Bool
  result : Except Error SessionExit

namespace Attempt

/-- Whether a session can end so: it fails only if it never was ready, and its
transport is lost only once it was. -/
def isPossible (attempt : Attempt) : Bool :=
  match attempt.result with
  | .ok .closed => true
  | .ok .transportLost => attempt.wasReady
  | .error _ => !attempt.wasReady

/-- What the starter is told about the attempt if it is the first one. -/
def answer (attempt : Attempt) : Except Error Unit :=
  attempt.result.map fun _ => ()

/-- Whether another attempt may follow the one with so many before it: after the
loss of its transport if the policy says so, and after a failure unless it was
the first. -/
def AllowsNext (policy : ReconnectPolicy) (earlier : Nat)
    (attempt : Attempt) : Prop :=
  attempt.result = .ok .transportLost ∧ policy.isEnabled = true
    ∨ 1 ≤ earlier ∧ ∃ error, attempt.result = .error error

end Attempt

/-- What a supervisor, the session of its attempt and its owner can do. -/
inductive SupervisorMove
  | begin
  /-- The session gets into another state. -/
  | change (state : ConnectionState)
  | observe
  /-- The session ends. -/
  | conclude (result : Except Error SessionExit) (now : Nat)
  | wake (now : Nat)
  | cancel

/-- The last state among some publications. -/
def lastState? (published : List Publication) : Option ConnectionState :=
  published.reverse.findSome? fun
    | .state state => some state
    | _ => none

@[simp] theorem lastState?_append_state (published : List Publication)
    (state : ConnectionState) :
    lastState? (published ++ [.state state]) = some state := by
  simp [lastState?]

/-- A supervisor with the account of its attempts. -/
structure Supervision where
  supervisor : Supervisor
  /-- The state of the session of the attempt. -/
  state : ConnectionState
  /-- Whether that session became ready. -/
  wasReady : Bool
  /-- The attempts that are over, the oldest first. -/
  ended : List Attempt
  published : List Publication

namespace Supervision

/-- Nothing happened yet. -/
def ofPolicy (policy : ReconnectPolicy) : Supervision :=
  { supervisor := .ofPolicy policy
    state := .idle
    wasReady := false
    ended := []
    published := [] }

/-- The run after the supervisor took a step. -/
def settle (run : Supervision) (step : Supervisor × List Publication) :
    Supervision :=
  { run with supervisor := step.1, published := run.published ++ step.2 }

/-- Make a move, if it can be made. -/
def step? (run : Supervision) : SupervisorMove -> Option Supervision
  | .begin =>
      if run.supervisor.phase = .due then
        some
          { run.settle run.supervisor.begin with
            state := .idle
            wasReady := false }
      else
        none
  | .change state =>
      if run.supervisor.phase = .driving then
        some { run with state, wasReady := run.wasReady || state.isReady }
      else
        none
  | .observe =>
      if run.supervisor.phase = .driving then
        some (run.settle (run.supervisor.observe run.state))
      else
        none
  | .conclude result now =>
      let attempt : Attempt := { wasReady := run.wasReady, result }
      if run.supervisor.phase = .driving ∧ attempt.isPossible = true then
        some
          { run.settle (run.supervisor.conclude run.state result now) with
            ended := run.ended ++ [attempt] }
      else
        none
  | .wake now => (run.supervisor.wake? now).map run.settle
  | .cancel => some { run with supervisor := run.supervisor.cancel }

/-- Make moves one after the other. -/
def play? (run : Supervision) : List SupervisorMove -> Option Supervision
  | [] => some run
  | move :: moves => (run.step? move).bind fun next => next.play? moves

end Supervision

/-! ## What the supervisor does -/

namespace Supervisor

theorem begin_of_cancelled {supervisor : Supervisor}
    (cancelled : supervisor.cancelled = true) :
    supervisor.begin
      = ({ supervisor with phase := .done }, [.state .closed]) := by
  rw [begin, if_pos cancelled, stop, if_pos cancelled]

theorem wake?_of_cancelled {supervisor : Supervisor} {wake : Nat}
    (cancelled : supervisor.cancelled = true)
    (isResting : supervisor.phase = .resting wake) (now : Nat) :
    supervisor.wake? now
      = some ({ supervisor with phase := .done }, [.state .closed]) := by
  rw [wake?, isResting]
  dsimp only
  rw [if_pos cancelled, stop, if_pos cancelled]

/-- A supervisor that ends its rest only gets into another phase. -/
theorem exists_of_wake?_eq_some {supervisor : Supervisor} {now : Nat}
    {step : Supervisor × List Publication}
    (woken : supervisor.wake? now = some step) :
    ∃ wake phase published,
      supervisor.phase = .resting wake ∧ phase ≠ .driving
        ∧ step = ({ supervisor with phase }, published) := by
  rw [wake?] at woken
  split at woken
  · rename_i wake isResting
    split at woken
    · cases woken
      exact ⟨wake, .done, _, isResting, nofun, rfl⟩
    · split at woken
      · cases woken
        exact ⟨wake, .due, _, isResting, nofun, rfl⟩
      · cases woken
  · cases woken

/-- The answer of the starter once a state was observed. -/
def answerAfter? (supervisor : Supervisor) (last : ConnectionState) :
    Option (Except Error Unit) :=
  if last.isReady then some (supervisor.answer?.getD (.ok ()))
  else supervisor.answer?

/-- Whoever has an answer keeps it. -/
theorem answerAfter?_of_answered {supervisor : Supervisor}
    {answer : Except Error Unit} (answered : supervisor.answer? = some answer)
    (last : ConnectionState) :
    supervisor.answerAfter? last = some answer := by
  rw [answerAfter?, answered]
  split <;> rfl

theorem observe_eq (supervisor : Supervisor) (last : ConnectionState) :
    supervisor.observe last
      = ({ supervisor with answer? := supervisor.answerAfter? last },
        [.state last]) := by
  rw [observe, answerAfter?]
  split <;> rfl

/-- The supervisor after an attempt, when the starter has an answer in any
case. -/
def answered (supervisor : Supervisor) (last : ConnectionState)
    (result : Except Error SessionExit) (phase : SupervisorPhase) :
    Supervisor :=
  { supervisor with
    phase
    answer? :=
      some ((supervisor.answerAfter? last).getD (result.map fun _ => ())) }

/-- What can follow an attempt. -/
inductive Conclusion (supervisor : Supervisor) (last : ConnectionState)
    (result : Except Error SessionExit) (now : Nat) :
    Supervisor × List Publication -> Prop
  /-- The connection was closed, or it was lost for good. -/
  | stops
      (isFinal : result = .ok .closed
        ∨ result = .ok .transportLost
          ∧ supervisor.policy.isEnabled = false) :
      Conclusion supervisor last result now
        (supervisor.answered last result .done,
          [.state last, .noSession]
            ++ if supervisor.cancelled then [.state .closed] else [])
  /-- Another attempt may follow. -/
  | rests
      (goesOn : result = .ok .transportLost
          ∧ supervisor.policy.isEnabled = true
        ∨ (∃ error, result = .error error)
          ∧ supervisor.answerAfter? last ≠ none) :
      Conclusion supervisor last result now
        (supervisor.answered last result
            (.resting (now + supervisor.policy.interval)),
          [.state last, .noSession])
  /-- The starter learns of the failure and nobody else. -/
  | fails (failed : ∃ error, result = .error error)
      (unanswered : supervisor.answerAfter? last = none) :
      Conclusion supervisor last result now
        (supervisor.answered last result .done, [.state last, .noSession])

theorem conclusion (supervisor : Supervisor) (last : ConnectionState)
    (result : Except Error SessionExit) (now : Nat) :
    supervisor.Conclusion last result now
      (supervisor.conclude last result now) := by
  cases result with
  | error error =>
      cases told : supervisor.answerAfter? last with
      | none =>
          have concluded : supervisor.conclude last (.error error) now
              = (supervisor.answered last (.error error) .done,
                [.state last, .noSession]) := by
            simp only [conclude, observe_eq, decide, answered, answer, told]
            rfl
          rw [concluded]
          exact .fails ⟨error, rfl⟩ told
      | some answer =>
          have concluded : supervisor.conclude last (.error error) now
              = (supervisor.answered last (.error error)
                  (.resting (now + supervisor.policy.interval)),
                [.state last, .noSession]) := by
            simp only [conclude, observe_eq, decide, answered, rest, told]
            rfl
          rw [concluded]
          exact .rests (.inr ⟨⟨error, rfl⟩, by simp [told]⟩)
  | ok exit =>
      cases exit with
      | closed =>
          rw [conclude, observe_eq]
          exact .stops (.inl rfl)
      | transportLost =>
          by_cases isEnabled : supervisor.policy.isEnabled = true
          · have concluded : supervisor.conclude last (.ok .transportLost) now
                = (supervisor.answered last (.ok .transportLost)
                    (.resting (now + supervisor.policy.interval)),
                  [.state last, .noSession]) := by
              simp only [conclude, observe_eq, decide, answer, isEnabled, rest]
              rfl
            rw [concluded]
            exact .rests (.inl ⟨rfl, isEnabled⟩)
          · have concluded : supervisor.conclude last (.ok .transportLost) now
                = (supervisor.answered last (.ok .transportLost) .done,
                  [.state last, .noSession]
                    ++ if supervisor.cancelled then [.state .closed]
                      else []) := by
              simp only [conclude, observe_eq, decide, answer, isEnabled]
              rfl
            rw [concluded]
            exact .stops (.inr ⟨rfl, Bool.eq_false_iff.mpr isEnabled⟩)

end Supervisor

namespace Supervision

variable {policy : ReconnectPolicy} {run next : Supervision}

/-- What every move keeps holds at any time. -/
theorem play?_induction {motive : Supervision -> Prop}
    {moves : List SupervisorMove} (start : motive run)
    (step : ∀ {run next : Supervision} {move : SupervisorMove},
      motive run → run.step? move = some next → motive next)
    (played : run.play? moves = some next) : motive next := by
  induction moves generalizing run with
  | nil =>
      cases played
      exact start
  | cons move moves inductionHypothesis =>
      obtain ⟨later, stepped, played⟩ := Option.bind_eq_some_iff.mp played
      exact inductionHypothesis (step start stepped) played

/-! ## What every move keeps -/

/-- What holds of the account of a run at any time. -/
structure Kept (policy : ReconnectPolicy) (run : Supervision) : Prop where
  policy_eq : run.supervisor.policy = policy
  attempts_eq : run.supervisor.attempts
    = run.ended.length + if run.supervisor.phase = .driving then 1 else 0
  wasReady_of_isReady : run.state.isReady = true → run.wasReady = true
  isPossible : ∀ attempt ∈ run.ended, attempt.isPossible = true
  /-- During the first attempt the starter can only have learnt that it became
  ready. -/
  answer_of_ended_eq_nil : run.ended = [] →
    run.supervisor.answer? = none
      ∨ run.supervisor.answer? = some (.ok ()) ∧ run.wasReady = true
        ∧ run.supervisor.phase = .driving
  answer_of_head : ∀ first, run.ended.head? = some first →
    run.supervisor.answer? = some first.answer
  /-- Only the last attempt can be one that no other may follow. -/
  allowsNext : ∀ index attempt, run.ended[index]? = some attempt →
    index + 1 < run.ended.length ∨ run.supervisor.phase ≠ .done →
      attempt.AllowsNext policy index

theorem kept_ofPolicy (policy : ReconnectPolicy) :
    (ofPolicy policy).Kept policy :=
  { policy_eq := rfl
    attempts_eq := rfl
    wasReady_of_isReady := fun isReady => nomatch isReady
    isPossible := fun _ member => absurd member List.not_mem_nil
    answer_of_ended_eq_nil := fun _ => .inl rfl
    answer_of_head := fun _ isFirst => nomatch isFirst
    allowsNext := fun _ _ isAttempt => nomatch isAttempt }

/-- Between two attempts the starter knows about the first one, if it is over,
and all attempts so far may be followed by another. -/
theorem Kept.turn (kept : run.Kept policy)
    (isBetween : run.supervisor.phase ≠ .driving
      ∧ run.supervisor.phase ≠ .done)
    (sameSupervisor : next.supervisor
      = { run.supervisor with
          phase := next.supervisor.phase
          attempts := next.supervisor.attempts })
    (attempts_eq : next.supervisor.attempts
      = run.supervisor.attempts
        + if next.supervisor.phase = .driving then 1 else 0)
    (sameEnded : next.ended = run.ended)
    (wasReady_of_isReady : next.state.isReady = true → next.wasReady = true) :
    next.Kept policy := by
  have sameAnswer : next.supervisor.answer? = run.supervisor.answer? := by
    rw [sameSupervisor]
  refine
    { policy_eq := ?_
      attempts_eq := ?_
      wasReady_of_isReady
      isPossible := ?_
      answer_of_ended_eq_nil := fun isNil => .inl ?_
      answer_of_head := fun first isFirst => ?_
      allowsNext := fun index attempt isAttempt _ => ?_ }
  · rw [sameSupervisor]
    exact kept.policy_eq
  · rw [attempts_eq, kept.attempts_eq, if_neg isBetween.1, sameEnded,
      Nat.add_zero]
  · rw [sameEnded]
    exact kept.isPossible
  · rw [sameAnswer]
    obtain unanswered | ⟨-, -, isDriving⟩ :=
      kept.answer_of_ended_eq_nil (sameEnded ▸ isNil)
    · exact unanswered
    · exact absurd isDriving isBetween.1
  · rw [sameAnswer]
    exact kept.answer_of_head first (sameEnded ▸ isFirst)
  · exact kept.allowsNext index attempt (sameEnded ▸ isAttempt)
      (.inr isBetween.2)

theorem Kept.begin (kept : run.Kept policy)
    (isDue : run.supervisor.phase = .due) :
    ({ run.settle run.supervisor.begin with
        state := .idle
        wasReady := false }).Kept policy := by
  have isBetween : run.supervisor.phase ≠ .driving
      ∧ run.supervisor.phase ≠ .done := by
    simp [isDue]
  by_cases cancelled : run.supervisor.cancelled = true
  · rw [Supervisor.begin, if_pos cancelled]
    exact kept.turn isBetween rfl rfl rfl fun isReady => nomatch isReady
  · rw [Supervisor.begin, if_neg cancelled]
    exact kept.turn isBetween rfl rfl rfl fun isReady => nomatch isReady

theorem Kept.wake (kept : run.Kept policy) {now : Nat}
    {step : Supervisor × List Publication}
    (woken : run.supervisor.wake? now = some step) :
    (run.settle step).Kept policy := by
  obtain ⟨wake, phase, published, isResting, isIdle, rfl⟩ :=
    Supervisor.exists_of_wake?_eq_some woken
  have isBetween : run.supervisor.phase ≠ .driving
      ∧ run.supervisor.phase ≠ .done := by
    simp [isResting]
  have noAttempt : run.supervisor.attempts
      = run.supervisor.attempts + if phase = .driving then 1 else 0 := by
    rw [if_neg isIdle, Nat.add_zero]
  exact kept.turn isBetween rfl noAttempt rfl kept.wasReady_of_isReady

/-- What the starter knows once the state of the session was observed. -/
theorem Kept.answerAfter?_of_ended_eq_nil (kept : run.Kept policy)
    (isNil : run.ended = []) :
    run.supervisor.answerAfter? run.state = none
      ∨ run.supervisor.answerAfter? run.state = some (.ok ())
        ∧ run.wasReady = true := by
  rw [Supervisor.answerAfter?]
  split
  · rename_i isReady
    refine .inr ⟨?_, kept.wasReady_of_isReady isReady⟩
    obtain unanswered | ⟨answered, -⟩ := kept.answer_of_ended_eq_nil isNil
    · rw [unanswered]
      rfl
    · rw [answered]
      rfl
  · obtain unanswered | ⟨answered, wasReady, -⟩ :=
      kept.answer_of_ended_eq_nil isNil
    · exact .inl unanswered
    · exact .inr ⟨answered, wasReady⟩

theorem Kept.answerAfter?_of_head (kept : run.Kept policy) {first : Attempt}
    (isFirst : run.ended.head? = some first) :
    run.supervisor.answerAfter? run.state = some first.answer :=
  Supervisor.answerAfter?_of_answered (kept.answer_of_head first isFirst) _

theorem Kept.change (kept : run.Kept policy) (state : ConnectionState) :
    ({ run with
        state
        wasReady := run.wasReady || state.isReady }).Kept policy :=
  { kept with
    wasReady_of_isReady := fun isReady => by
      rw [Bool.or_eq_true]
      exact .inr isReady
    answer_of_ended_eq_nil := fun isNil =>
      (kept.answer_of_ended_eq_nil isNil).imp_right
        fun ⟨answered, wasReady, isDriving⟩ =>
          ⟨answered, by rw [wasReady, Bool.true_or], isDriving⟩ }

theorem Kept.observe (kept : run.Kept policy)
    (isDriving : run.supervisor.phase = .driving) :
    (run.settle (run.supervisor.observe run.state)).Kept policy := by
  rw [Supervisor.observe_eq]
  exact
    { policy_eq := kept.policy_eq
      attempts_eq := kept.attempts_eq
      wasReady_of_isReady := kept.wasReady_of_isReady
      isPossible := kept.isPossible
      answer_of_ended_eq_nil := fun isNil =>
        (kept.answerAfter?_of_ended_eq_nil isNil).imp_right
          fun ⟨answered, wasReady⟩ => ⟨answered, wasReady, isDriving⟩
      answer_of_head := fun _ isFirst => kept.answerAfter?_of_head isFirst
      allowsNext := kept.allowsNext }

/-- A failure that the starter does not learn of is not the first attempt's. -/
theorem Kept.length_pos_of_answered (kept : run.Kept policy)
    {attempt : Attempt} (wasReady_eq : attempt.wasReady = run.wasReady)
    (isPossible : attempt.isPossible = true)
    (failed : ∃ error, attempt.result = .error error)
    (answered : run.supervisor.answerAfter? run.state ≠ none) :
    1 ≤ run.ended.length := by
  by_contra isShort
  have isNil : run.ended = [] := List.length_eq_zero_iff.mp (by omega)
  obtain unanswered | ⟨-, wasReady⟩ := kept.answerAfter?_of_ended_eq_nil isNil
  · exact answered unanswered
  · obtain ⟨error, failed⟩ := failed
    simp [Attempt.isPossible, failed, wasReady_eq, wasReady] at isPossible

/-- Once the first attempt is over, the starter knows how it ended. -/
theorem Kept.append (kept : run.Kept policy)
    (isDriving : run.supervisor.phase = .driving)
    {attempt : Attempt} (wasReady_eq : attempt.wasReady = run.wasReady)
    (isPossible : attempt.isPossible = true)
    (phase : SupervisorPhase) (isOver : phase ≠ .driving)
    (allowsNext : phase ≠ .done →
      attempt.AllowsNext policy run.ended.length)
    (published : List Publication) :
    ({ run with
        supervisor :=
          run.supervisor.answered run.state attempt.result phase
        published
        ended := run.ended ++ [attempt] }).Kept policy := by
  refine
    { policy_eq := kept.policy_eq
      attempts_eq := ?_
      wasReady_of_isReady := kept.wasReady_of_isReady
      isPossible := ?_
      answer_of_ended_eq_nil := fun isNil => absurd isNil (by simp)
      answer_of_head := fun first isFirst => ?_
      allowsNext := fun index member isMember goesOn => ?_ }
  · have counted := kept.attempts_eq
    rw [if_pos isDriving] at counted
    change run.supervisor.attempts = _ + if phase = .driving then 1 else 0
    rw [if_neg isOver, List.length_append]
    exact counted
  · intro member isMember
    obtain isEarlier | isLast := List.mem_append.mp isMember
    · exact kept.isPossible member isEarlier
    · rw [List.mem_singleton.mp isLast]
      exact isPossible
  · change some ((run.supervisor.answerAfter? run.state).getD attempt.answer)
      = some first.answer
    cases ended : run.ended with
    | nil =>
        have isAttempt : attempt = first := by simpa [ended] using isFirst
        subst isAttempt
        obtain unanswered | ⟨answered, wasReady⟩ :=
          kept.answerAfter?_of_ended_eq_nil ended
        · rw [unanswered]
          rfl
        · rw [answered, Attempt.answer]
          cases result : attempt.result with
          | ok exit => rfl
          | error error =>
              simp [Attempt.isPossible, result, wasReady_eq, wasReady]
                at isPossible
    | cons other others =>
        have isOther : other = first := by simpa [ended] using isFirst
        subst isOther
        rw [kept.answerAfter?_of_head (by rw [ended]; rfl)]
        rfl
  · obtain isEarlier | isLast := Nat.lt_or_ge index run.ended.length
    · rw [List.getElem?_append_left isEarlier] at isMember
      refine kept.allowsNext index member isMember (.inr ?_)
      simp [isDriving]
    · rw [List.getElem?_append_right isLast, List.getElem?_singleton]
        at isMember
      split at isMember
      · rename_i isFirst
        have isIndex : index = run.ended.length := by omega
        cases isMember
        rw [isIndex]
        refine allowsNext (goesOn.resolve_left ?_)
        simp [isIndex]
      · cases isMember

/-- An attempt ends as its session can end. -/
theorem Kept.conclude (kept : run.Kept policy)
    (isDriving : run.supervisor.phase = .driving)
    {attempt : Attempt} (wasReady_eq : attempt.wasReady = run.wasReady)
    (isPossible : attempt.isPossible = true) (now : Nat) :
    ({ run.settle
          (run.supervisor.conclude run.state attempt.result now) with
        ended := run.ended ++ [attempt] }).Kept policy := by
  have conclusion := run.supervisor.conclusion run.state attempt.result now
  generalize run.supervisor.conclude run.state attempt.result now = step
    at conclusion ⊢
  cases conclusion with
  | stops isFinal =>
      exact kept.append isDriving wasReady_eq isPossible .done nofun
        (fun isNotDone => absurd rfl isNotDone) _
  | rests goesOn =>
      refine kept.append isDriving wasReady_eq isPossible (.resting _) nofun
        (fun _ => ?_) _
      obtain ⟨lost, isEnabled⟩ | ⟨failed, answered⟩ := goesOn
      · exact .inl ⟨lost, kept.policy_eq ▸ isEnabled⟩
      · exact .inr ⟨kept.length_pos_of_answered wasReady_eq isPossible failed
          answered, failed⟩
  | fails failed unanswered =>
      exact kept.append isDriving wasReady_eq isPossible .done nofun
        (fun isNotDone => absurd rfl isNotDone) _

theorem Kept.step {move : SupervisorMove} (kept : run.Kept policy)
    (stepped : run.step? move = some next) : next.Kept policy := by
  cases move with
  | begin =>
      obtain ⟨isDue, isNext⟩ := Option.ite_none_right_eq_some.mp stepped
      cases isNext
      exact kept.begin isDue
  | change state =>
      obtain ⟨isDriving, isNext⟩ := Option.ite_none_right_eq_some.mp stepped
      cases isNext
      exact kept.change state
  | observe =>
      obtain ⟨isDriving, isNext⟩ := Option.ite_none_right_eq_some.mp stepped
      cases isNext
      exact kept.observe isDriving
  | conclude result now =>
      obtain ⟨⟨isDriving, isPossible⟩, isNext⟩ :=
        Option.ite_none_right_eq_some.mp stepped
      cases isNext
      exact kept.conclude isDriving rfl isPossible now
  | wake now =>
      obtain ⟨step, woken, isNext⟩ := Option.map_eq_some_iff.mp stepped
      cases isNext
      exact kept.wake woken
  | cancel =>
      cases stepped
      exact { kept with }

theorem Kept.play {moves : List SupervisorMove} (kept : run.Kept policy)
    (played : run.play? moves = some next) : next.Kept policy :=
  play?_induction kept Kept.step played

/-! ## What follows from what -/

/-- What any later run has of an earlier one. -/
structure Precedes (run next : Supervision) : Prop where
  answer_eq : ∀ answer, run.supervisor.answer? = some answer →
    next.supervisor.answer? = some answer
  cancelled : run.supervisor.cancelled = true →
    next.supervisor.cancelled = true
  attempts_eq : run.supervisor.cancelled = true →
    next.supervisor.attempts = run.supervisor.attempts

theorem Precedes.refl (run : Supervision) : run.Precedes run :=
  ⟨fun _ => id, id, fun _ => rfl⟩

theorem Precedes.trans {last : Supervision} (first : run.Precedes next)
    (second : next.Precedes last) : run.Precedes last where
  answer_eq answer answered :=
    second.answer_eq answer (first.answer_eq answer answered)
  cancelled cancelled := second.cancelled (first.cancelled cancelled)
  attempts_eq cancelled :=
    (second.attempts_eq (first.cancelled cancelled)).trans
      (first.attempts_eq cancelled)

/-- Nothing that the supervisor decides takes an answer back, and nothing that
it decides at the end of an attempt begins another. -/
theorem precedes_conclude (run : Supervision)
    (result : Except Error SessionExit) (now : Nat) (ended : List Attempt) :
    run.Precedes
      { run.settle (run.supervisor.conclude run.state result now) with
        ended } := by
  have keepsAnswer : ∀ answer phase,
      run.supervisor.answer? = some answer →
        (run.supervisor.answered run.state result phase).answer?
          = some answer := by
    intro answer phase isAnswer
    rw [Supervisor.answered,
      Supervisor.answerAfter?_of_answered isAnswer run.state]
    rfl
  have conclusion := run.supervisor.conclusion run.state result now
  generalize run.supervisor.conclude run.state result now = step
    at conclusion ⊢
  cases conclusion with
  | stops => exact ⟨(keepsAnswer · _), id, fun _ => rfl⟩
  | rests => exact ⟨(keepsAnswer · _), id, fun _ => rfl⟩
  | fails => exact ⟨(keepsAnswer · _), id, fun _ => rfl⟩

theorem precedes_step {move : SupervisorMove}
    (stepped : run.step? move = some next) : run.Precedes next := by
  cases move with
  | begin =>
      obtain ⟨-, isNext⟩ := Option.ite_none_right_eq_some.mp stepped
      cases isNext
      rw [Supervisor.begin]
      split
      · exact ⟨fun _ => id, id, fun _ => rfl⟩
      · rename_i notCancelled
        exact ⟨fun _ => id, id, fun cancelled => absurd cancelled notCancelled⟩
  | change state =>
      obtain ⟨-, isNext⟩ := Option.ite_none_right_eq_some.mp stepped
      cases isNext
      exact ⟨fun _ => id, id, fun _ => rfl⟩
  | observe =>
      obtain ⟨-, isNext⟩ := Option.ite_none_right_eq_some.mp stepped
      cases isNext
      rw [Supervisor.observe_eq]
      exact ⟨fun _ isAnswer => Supervisor.answerAfter?_of_answered isAnswer _,
        id, fun _ => rfl⟩
  | conclude result now =>
      obtain ⟨-, isNext⟩ := Option.ite_none_right_eq_some.mp stepped
      cases isNext
      exact precedes_conclude run result now _
  | wake now =>
      obtain ⟨step, woken, isNext⟩ := Option.map_eq_some_iff.mp stepped
      cases isNext
      obtain ⟨-, phase, published, -, -, rfl⟩ :=
        Supervisor.exists_of_wake?_eq_some woken
      exact ⟨fun _ => id, id, fun _ => rfl⟩
  | cancel =>
      cases stepped
      exact ⟨fun _ => id, fun _ => rfl, fun _ => rfl⟩

theorem precedes_play {moves : List SupervisorMove}
    (played : run.play? moves = some next) : run.Precedes next :=
  play?_induction (.refl run)
    (fun precedes stepped => precedes.trans (precedes_step stepped)) played

/-! ## Asked to stop -/

/-- Whether the first attempt is over and failed. -/
def FailedFirst (run : Supervision) : Prop :=
  ∃ first, run.ended.head? = some first
    ∧ ∃ error, first.result = .error error

/-- A supervisor that was asked to stop in time leaves the connection closed,
unless its first attempt failed. -/
structure Closing (run : Supervision) : Prop where
  cancelled : run.supervisor.cancelled = true
  lastState?_eq : run.supervisor.phase = .done → ¬ run.FailedFirst →
    lastState? run.published = some .closed

/-- A supervisor that has not stopped yet. -/
theorem closing_of_ne_done (cancelled : run.supervisor.cancelled = true)
    (isNotDone : run.supervisor.phase ≠ .done) : run.Closing :=
  ⟨cancelled, fun isDone => absurd isDone isNotDone⟩

/-- To stop is to leave the connection closed. -/
theorem closing_of_published (cancelled : run.supervisor.cancelled = true)
    {published : List Publication}
    (isClosed : run.published = published ++ [.state .closed]) :
    run.Closing := by
  refine ⟨cancelled, fun _ _ => ?_⟩
  rw [isClosed, lastState?_append_state]

theorem closing_conclude (kept : run.Kept policy)
    (cancelled : run.supervisor.cancelled = true)
    (attempt : Attempt) (now : Nat) :
    ({ run.settle
          (run.supervisor.conclude run.state attempt.result now) with
        ended := run.ended ++ [attempt] }).Closing := by
  have conclusion := run.supervisor.conclusion run.state attempt.result now
  generalize run.supervisor.conclude run.state attempt.result now = step
    at conclusion ⊢
  cases conclusion with
  | stops isFinal =>
      rw [if_pos cancelled]
      exact closing_of_published cancelled
        (List.append_assoc run.published _ _).symm
  | rests goesOn => exact closing_of_ne_done cancelled nofun
  | fails failed unanswered =>
      refine ⟨cancelled, fun _ succeededFirst => absurd ?_ succeededFirst⟩
      have isFirst : run.ended = [] := by
        cases ended : run.ended with
        | nil => rfl
        | cons first others =>
            have answered := kept.answerAfter?_of_head (by rw [ended]; rfl)
            rw [unanswered] at answered
            cases answered
      exact ⟨attempt, by simp [isFirst], failed⟩

theorem Closing.step {move : SupervisorMove} (kept : run.Kept policy)
    (closing : run.Closing) (stepped : run.step? move = some next) :
    next.Closing := by
  have cancelled := (precedes_step stepped).cancelled closing.cancelled
  cases move with
  | begin =>
      obtain ⟨-, isNext⟩ := Option.ite_none_right_eq_some.mp stepped
      cases isNext
      rw [Supervisor.begin_of_cancelled closing.cancelled]
      exact closing_of_published closing.cancelled rfl
  | change state =>
      obtain ⟨isDriving, isNext⟩ := Option.ite_none_right_eq_some.mp stepped
      cases isNext
      exact closing_of_ne_done cancelled (by simp [isDriving])
  | observe =>
      obtain ⟨isDriving, isNext⟩ := Option.ite_none_right_eq_some.mp stepped
      cases isNext
      refine closing_of_ne_done cancelled ?_
      simp [settle, Supervisor.observe_eq, isDriving]
  | conclude result now =>
      obtain ⟨-, isNext⟩ := Option.ite_none_right_eq_some.mp stepped
      cases isNext
      exact closing_conclude kept closing.cancelled
        { wasReady := run.wasReady, result } now
  | wake now =>
      obtain ⟨step, woken, isNext⟩ := Option.map_eq_some_iff.mp stepped
      cases isNext
      obtain ⟨wake, -, -, isResting, -⟩ :=
        Supervisor.exists_of_wake?_eq_some woken
      rw [Supervisor.wake?_of_cancelled closing.cancelled isResting] at woken
      cases woken
      exact closing_of_published closing.cancelled rfl
  | cancel =>
      cases stepped
      exact ⟨cancelled, closing.lastState?_eq⟩

theorem Closing.play {moves : List SupervisorMove} (kept : run.Kept policy)
    (closing : run.Closing) (played : run.play? moves = some next) :
    next.Closing := by
  refine (play?_induction
    (motive := fun later => later.Kept policy ∧ later.Closing)
    ⟨kept, closing⟩ ?_ played).2
  rintro run next move ⟨kept, closing⟩ stepped
  exact ⟨kept.step stepped, closing.step kept stepped⟩

/-- What is known of a run at any time, and of all that can come of it. -/
structure Disciplined (policy : ReconnectPolicy) (run : Supervision) :
    Prop where
  /-- Every attempt but the first follows one that allows it. -/
  retried : ∀ index, index + 1 < run.supervisor.attempts →
    ∃ attempt, run.ended[index]? = some attempt
      ∧ attempt.AllowsNext policy index
  /-- There is more than one attempt only if the first one became ready. -/
  established : 1 < run.supervisor.attempts →
    ∃ first, run.ended.head? = some first ∧ first.wasReady = true
  /-- Until the first attempt is over, the starter learns at most that it became
  ready. -/
  unanswered : run.ended = [] →
    run.supervisor.answer? = none
      ∨ run.supervisor.answer? = some (.ok ()) ∧ run.wasReady = true
  /-- When the first attempt is over, the starter has its answer. -/
  answered : ∀ first, run.ended.head? = some first →
    run.supervisor.answer? = some first.answer
  /-- No answer is taken back or followed by another. -/
  answeredOnce : ∀ answer moves later,
    run.supervisor.answer? = some answer → run.play? moves = some later →
      later.supervisor.answer? = some answer
  /-- No attempt begins once the supervisor was asked to stop. -/
  halted : ∀ moves later, run.supervisor.cancelled = true →
    run.play? moves = some later →
      later.supervisor.attempts = run.supervisor.attempts
  /-- If the supervisor is asked to stop before it has, it begins no attempt any
  more, and unless the first one failed it leaves the connection closed. -/
  closed : ∀ moves later, run.supervisor.isRunning = true →
    run.play? (.cancel :: moves) = some later →
      later.supervisor.attempts = run.supervisor.attempts
        ∧ (later.supervisor.isRunning = false → ¬ later.FailedFirst →
          lastState? later.published = some .closed)
  /-- A supervisor that was asked to stop waits for nothing but the end of the
  session. -/
  stops : run.supervisor.cancelled = true →
    run.supervisor.isRunning = true → run.supervisor.phase ≠ .driving →
      ∀ now, ∃ move ∈ [SupervisorMove.begin, .wake now],
        ∃ later, run.step? move = some later
          ∧ later.supervisor.isRunning = false

/-- An attempt that is followed by another allows that. -/
theorem Kept.exists_allowsNext (kept : run.Kept policy) {index : Nat}
    (isFollowed : index + 1 < run.supervisor.attempts) :
    ∃ attempt, run.ended[index]? = some attempt
      ∧ attempt.AllowsNext policy index := by
  have counted := kept.attempts_eq
  have isOver : index < run.ended.length := by
    split at counted <;> omega
  refine ⟨run.ended[index], List.getElem?_eq_getElem isOver,
    kept.allowsNext index _ (List.getElem?_eq_getElem isOver) ?_⟩
  split at counted
  · rename_i isDriving
    exact .inr (by simp [isDriving])
  · exact .inl (by omega)

theorem Kept.exists_wasReady (kept : run.Kept policy)
    (isFollowed : 1 < run.supervisor.attempts) :
    ∃ first, run.ended.head? = some first ∧ first.wasReady = true := by
  obtain ⟨first, isFirst, ⟨lost, -⟩ | ⟨isLater, -⟩⟩ :=
    kept.exists_allowsNext isFollowed
  · refine ⟨first, by rw [List.head?_eq_getElem?, isFirst], ?_⟩
    have isPossible := kept.isPossible first (List.mem_of_getElem? isFirst)
    rw [Attempt.isPossible, lost] at isPossible
    exact isPossible
  · exact absurd isLater (by decide)

theorem Kept.closed (kept : run.Kept policy) {moves : List SupervisorMove}
    (isRunning : run.supervisor.isRunning = true)
    (played : run.play? (.cancel :: moves) = some next) :
    next.supervisor.attempts = run.supervisor.attempts
      ∧ (next.supervisor.isRunning = false → ¬ next.FailedFirst →
        lastState? next.published = some .closed) := by
  obtain ⟨cancelled, isCancelled, played⟩ :=
    Option.bind_eq_some_iff.mp played
  have isNotDone : run.supervisor.phase ≠ .done := of_decide_eq_true isRunning
  have keptCancelled := kept.step isCancelled
  cases isCancelled
  have isClosing : ({ run with supervisor := run.supervisor.cancel }).Closing :=
    closing_of_ne_done rfl isNotDone
  have closing := isClosing.play keptCancelled played
  refine ⟨(precedes_play played).attempts_eq rfl, fun isOver => ?_⟩
  have isDone : next.supervisor.phase = .done := by
    simpa [Supervisor.isRunning] using isOver
  exact closing.lastState?_eq isDone

theorem exists_stop (cancelled : run.supervisor.cancelled = true)
    (isRunning : run.supervisor.isRunning = true)
    (isBetween : run.supervisor.phase ≠ .driving) (now : Nat) :
    ∃ move ∈ [SupervisorMove.begin, .wake now],
      ∃ later, run.step? move = some later
        ∧ later.supervisor.isRunning = false := by
  cases phase : run.supervisor.phase with
  | due =>
      refine ⟨.begin, List.mem_cons_self, _, if_pos phase, ?_⟩
      rw [Supervisor.begin_of_cancelled cancelled]
      rfl
  | driving => exact absurd phase isBetween
  | resting wake =>
      refine ⟨.wake now, List.mem_cons_of_mem _ List.mem_cons_self, _,
        congrArg (Option.map run.settle)
          (Supervisor.wake?_of_cancelled cancelled phase now), rfl⟩
  | done => simp [Supervisor.isRunning, phase] at isRunning

/-- Whatever its sessions do and whenever it is asked to stop, a supervisor
keeps to its discipline. -/
theorem disciplined {moves : List SupervisorMove}
    (played : (ofPolicy policy).play? moves = some run) :
    run.Disciplined policy := by
  have kept := (kept_ofPolicy policy).play played
  exact
    { retried := fun index => kept.exists_allowsNext
      established := kept.exists_wasReady
      unanswered := fun isNil =>
        (kept.answer_of_ended_eq_nil isNil).imp_right
          fun ⟨answered, wasReady, _⟩ => ⟨answered, wasReady⟩
      answered := kept.answer_of_head
      answeredOnce := fun answer moves later isAnswer played =>
        (precedes_play played).answer_eq answer isAnswer
      halted := fun moves later cancelled played =>
        (precedes_play played).attempts_eq cancelled
      closed := fun _ _ => kept.closed
      stops := exists_stop }

end Supervision

/-! ## A connection that is lost and cannot be made again -/

namespace Unreachable

def policy : ReconnectPolicy :=
  { isEnabled := true
    interval := 50 }

/-- The transport is lost, the next attempt fails, and then the supervisor is
asked to stop. -/
def moves : List SupervisorMove :=
  [.begin, .change .connecting, .observe, .change .ready, .observe,
    .change .failed, .conclude (.ok .transportLost) 10, .wake 60,
    .begin, .change .failed, .conclude (.error .connectTimeout) 70,
    .cancel, .wake 71]

end Unreachable

open Unreachable in
theorem Supervision.disciplined_unreachable :
    ∃ run, (ofPolicy policy).play? moves = some run
      ∧ run.Disciplined policy
      ∧ run.supervisor.attempts = 2
      ∧ lastState? run.published = some .closed := by
  refine ⟨_, rfl, ?_, ?_⟩
  · exact disciplined (rfl : (ofPolicy policy).play? moves = _)
  · decide

end PlcLink
