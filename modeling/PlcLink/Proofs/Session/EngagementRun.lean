import Mathlib
import PlcLink.Proofs.Session.Engagement
import PlcLink.Proofs.Session.Operation

/-!
# Every job is answered once

An engagement is a session from when it became ready, with an account of its
jobs. Every step of it is a move of its service or the end of all jobs, so what
holds of runs of a service holds of it. Whatever makes the session leave off,
every job whose caller still waits has one outcome in the end.
-/

namespace PlcLink

variable {Ticket : Type}

/-- A session since it became ready, and the account of its jobs. -/
structure Engagement (Ticket : Type) where
  session : Session Ticket
  /-- The tickets of all jobs there have been. -/
  submitted : Multiset Ticket
  /-- Callers that gave up. -/
  gone : List Ticket
  /-- The outcomes that left the session, the oldest first. -/
  told : List (Outcome Ticket)

namespace Engagement

/-- The engagement of a session that just became ready. -/
def ofSession (session : Session Ticket) : Engagement Ticket :=
  { session, submitted := 0, gone := [], told := [] }

/-- The engagement after a move that led to a step. -/
def settle (engagement : Engagement Ticket) (move : SessionMove Ticket)
    (step : SessionStep Ticket) : Engagement Ticket :=
  { session := step.1
    submitted := move.came + engagement.submitted
    gone := move.left ++ engagement.gone
    told := engagement.told ++ noticeOutcomes step.2 }

variable [DecidableEq Ticket]

/-- Make a move, if it can be made. Every job has a ticket of its own. -/
def step? (engagement : Engagement Ticket) (move : SessionMove Ticket) :
    Option (Engagement Ticket) :=
  if ∀ ticket ∈ move.came, ticket ∉ engagement.submitted then
    (engagement.session.move? move).map (engagement.settle move)
  else
    none

/-- Make moves one after the other. -/
def play? (engagement : Engagement Ticket) :
    List (SessionMove Ticket) -> Option (Engagement Ticket)
  | [] => some engagement
  | move :: moves =>
      (engagement.step? move).bind fun next => next.play? moves

section

variable {engagement next : Engagement Ticket} {move : SessionMove Ticket}

/-- A step is a move of the session, and a job that comes with it is new. -/
theorem exists_of_step?_eq_some
    (stepped : engagement.step? move = some next) :
    (∀ ticket ∈ move.came, ticket ∉ engagement.submitted)
      ∧ ∃ step, engagement.session.move? move = some step
        ∧ next = engagement.settle move step := by
  unfold step? at stepped
  split at stepped
  · rename_i fresh
    obtain ⟨step, moved, rfl⟩ := Option.map_eq_some_iff.1 stepped
    exact ⟨fresh, step, moved, rfl⟩
  · cases stepped

/-- A move without a new job can be made if the session can make it. -/
theorem step?_eq_some {step : SessionStep Ticket} (noneComes : move.came = 0)
    (moved : engagement.session.move? move = some step) :
    engagement.step? move = some (engagement.settle move step) := by
  have fresh : ∀ ticket ∈ move.came, ticket ∉ engagement.submitted := by
    rw [noneComes]
    exact fun ticket member => absurd member (Multiset.notMem_zero ticket)
  rw [step?, if_pos fresh, moved]
  rfl

end

/-! ## Engagements and runs of a service -/

omit [DecidableEq Ticket] in
/-- A run of a service has the account of an engagement, and its service is the
one of the session, or the session is down and no jobs are left. -/
structure Reflects (engagement : Engagement Ticket)
    (run : ServiceRun Ticket) : Prop where
  submitted_eq : run.submitted = engagement.submitted
  gone_eq : run.gone = engagement.gone
  told_eq : outcomeTickets run.told = outcomeTickets engagement.told
  serves :
    engagement.session.Serves run.service
      ∨ engagement.session.phase.IsDown ∧ run.service.tickets = 0

variable {engagement next : Engagement Ticket} {run : ServiceRun Ticket}
  {move : SessionMove Ticket} {service : Service Ticket}

/-- A step of a session that serves is at most one move of its service, or all
jobs end. -/
theorem Reflects.settle_of_serves {step : SessionStep Ticket}
    (reflects : engagement.Reflects run)
    (serves : engagement.session.Serves run.service)
    (fresh : ∀ ticket ∈ move.came, ticket ∉ engagement.submitted)
    (moved : engagement.session.move? move = some step) :
    ∃ works after,
      run.play? works = some after
        ∧ (engagement.settle move step).Reflects after := by
  rw [← reflects.submitted_eq] at fresh
  cases Session.effect_of_move? serves moved with
  | rests servesOn outcomes_eq came_eq left_eq =>
      refine ⟨[], run, rfl, ?_, ?_, ?_, .inl servesOn⟩
      · rw [settle, came_eq, zero_add, reflects.submitted_eq]
      · rw [settle, left_eq, List.nil_append, reflects.gone_eq]
      · rw [settle, outcomes_eq, List.append_nil, reflects.told_eq]
  | works work after performed servesOn came_eq left_eq =>
      rw [← came_eq] at fresh
      have worked := ServiceRun.step?_eq_some fresh performed
      refine ⟨[work], _, (run.play?_singleton work).trans worked, ?_⟩
      refine ⟨?_, ?_, ?_, .inl servesOn⟩
      · rw [settle, ← came_eq, ← reflects.submitted_eq]
        rfl
      · rw [settle, ← left_eq, ← reflects.gone_eq]
        rfl
      · rw [settle, outcomeTickets_append, ← reflects.told_eq]
        exact outcomeTickets_append _ _
  | leaves isDown ends came_eq left_eq =>
      rw [came_eq] at fresh
      have tornDown : run.step? .tearDown
          = some
            (run.settle .tearDown run.service.tearDown.1
              run.service.tearDown.2) :=
        ServiceRun.step?_eq_some fresh rfl
      refine ⟨[.tearDown], _, (run.play?_singleton _).trans tornDown, ?_⟩
      refine ⟨?_, ?_, ?_, .inr ⟨isDown, run.service.tickets_tearDown⟩⟩
      · rw [settle, came_eq, ← reflects.submitted_eq]
        rfl
      · rw [settle, left_eq, ← reflects.gone_eq]
        rfl
      · rw [settle, outcomeTickets_append, ends.tickets_eq, ← reflects.told_eq,
          ← run.service.outcomeTickets_tearDown]
        exact outcomeTickets_append _ _

/-- If a session is down, only its callers can do something, and that is to give
up. -/
theorem Reflects.settle_of_isDown {step : SessionStep Ticket}
    (reflects : engagement.Reflects run)
    (isDown : engagement.session.phase.IsDown)
    (noneLeft : run.service.tickets = 0)
    (moved : engagement.session.move? move = some step) :
    ∃ works after,
      run.play? works = some after
        ∧ (engagement.settle move step).Reflects after := by
  obtain ⟨staysDown, outcomes_eq, came_eq⟩ :=
    Session.isDown_of_move? isDown moved
  have told : outcomeTickets run.told
      = outcomeTickets (engagement.settle move step).told := by
    rw [settle, outcomes_eq, List.append_nil, reflects.told_eq]
  have submitted : run.submitted
      = (engagement.settle move step).submitted := by
    rw [settle, came_eq, zero_add, reflects.submitted_eq]
  -- Only giving up changes the account, and the service can do that too.
  by_cases isGivenUp : ∃ ticket, move = .giveUp ticket
  · obtain ⟨ticket, rfl⟩ := isGivenUp
    have gaveUp : run.step? (.giveUp ticket)
        = some (run.settle (.giveUp ticket) (run.service.giveUp ticket) []) :=
      ServiceRun.step?_eq_some
        (fun _ member => absurd member (Multiset.notMem_zero _)) rfl
    refine ⟨[.giveUp ticket], _, (run.play?_singleton _).trans gaveUp, ?_⟩
    refine ⟨?_, ?_, ?_, .inr ⟨staysDown, ?_⟩⟩
    · rw [← submitted]
      exact zero_add _
    · rw [settle, ← reflects.gone_eq]
      rfl
    · rw [← told]
      exact congrArg outcomeTickets (List.append_nil _)
    · have fewer := (run.service.giveUp_frame ticket).1
      rw [noneLeft] at fewer
      exact Multiset.le_zero.1 fewer
  · have noneLeaves : move.left = [] := by
      cases move with
      | giveUp ticket => exact absurd ⟨ticket, rfl⟩ isGivenUp
      | _ => rfl
    refine ⟨[], run, rfl, submitted, ?_, told, .inr ⟨staysDown, noneLeft⟩⟩
    rw [settle, noneLeaves, List.nil_append, reflects.gone_eq]

theorem Reflects.step (reflects : engagement.Reflects run)
    (stepped : engagement.step? move = some next) :
    ∃ works after, run.play? works = some after ∧ next.Reflects after := by
  obtain ⟨fresh, step, moved, rfl⟩ := exists_of_step?_eq_some stepped
  obtain serves | ⟨isDown, noneLeft⟩ := reflects.serves
  · exact reflects.settle_of_serves serves fresh moved
  · exact reflects.settle_of_isDown isDown noneLeft moved

/-- However an engagement goes, a run of the service has its account. -/
theorem exists_reflects {context : Context} {moves : List (SessionMove Ticket)}
    {last : Engagement Ticket}
    (kept : run.Kept context) (reflects : engagement.Reflects run)
    (played : engagement.play? moves = some last) :
    ∃ after : ServiceRun Ticket, after.Kept context ∧ last.Reflects after := by
  -- The run of the service grows with the engagement, so both are generalised.
  induction moves generalizing engagement run with
  | nil =>
      cases Option.some.inj played
      exact ⟨run, kept, reflects⟩
  | cons move moves inductionHypothesis =>
      obtain ⟨next, stepped, played⟩ := Option.bind_eq_some_iff.1 played
      obtain ⟨works, after, worked, later⟩ := reflects.step stepped
      exact inductionHypothesis (kept.play worked) later played

/-! ## Every job has one outcome -/

/-- What holds of an engagement at any time. -/
structure AnsweredOnce (engagement : Engagement Ticket) : Prop where
  /-- No job has two outcomes. -/
  told_nodup : (outcomeTickets engagement.told).Nodup
  /-- While the session serves, a job whose caller waits is in its service and
  has no outcome, or has one and is not there any more. -/
  count_serving : ∀ service,
    engagement.session.phase.service? = some service →
      ∀ ticket ∈ engagement.submitted, ticket ∉ engagement.gone →
        service.tickets.count ticket
          + (outcomeTickets engagement.told).count ticket = 1
  /-- Whatever makes the session leave off ends all jobs of its service. -/
  ends_all : ∀ service move next,
    engagement.session.phase.service? = some service →
      engagement.step? move = some next →
        next.session.phase.service? = none →
          ∃ ended, next.told = engagement.told ++ ended
            ∧ service.EndsAll ended
  /-- A session leaves off that cannot write, and the job that it was writing
  ends with the others. -/
  cannot_write : ∀ service reference datagram others,
    engagement.session.phase = .sending service reference datagram others →
      ∃ ticket next,
        service.table.find? reference = some ticket
          ∧ engagement.step? (.hear (.written false)) = some next
          ∧ next.session.phase.service? = none
          ∧ { ticket, result := .error .notConnected } ∈ next.told
  /-- A session that is not writing may leave off for any reason. -/
  may_leave : ∀ service reason,
    engagement.session.phase = .serving service →
      ∃ next, engagement.step? (.leave reason) = some next
        ∧ next.session.phase.service? = none
  /-- In the end every job whose caller waits has one outcome. -/
  count_down : engagement.session.phase.service? = none →
    ∀ ticket ∈ engagement.submitted, ticket ∉ engagement.gone →
      (outcomeTickets engagement.told).count ticket = 1
  /-- Nothing more comes of a session that left off. -/
  stays_down : engagement.session.phase.service? = none →
    ∀ moves last, engagement.play? moves = some last →
      last.session.phase.service? = none ∧ last.told = engagement.told
  refuses : engagement.session.phase.service? = none →
    ∀ ticket body now,
      engagement.session.submit ticket body now = .error .notConnected
  /-- No job is pending after all jobs ended. -/
  size_tearDown : ∀ service : Service Ticket,
    service.tearDown.1.table.size = 0

omit [DecidableEq Ticket] in
theorem Reflects.serves_of (reflects : engagement.Reflects run)
    (serves : engagement.session.phase.service? = some service) :
    engagement.session.Serves service ∧ run.service = service := by
  obtain servesRun | ⟨isDown, -⟩ := reflects.serves
  · cases Option.some.inj (servesRun.service_eq.symm.trans serves)
    exact ⟨servesRun, rfl⟩
  · rw [isDown.without_service.1] at serves
    cases serves

omit [DecidableEq Ticket] in
theorem Reflects.isDown_of (reflects : engagement.Reflects run)
    (noService : engagement.session.phase.service? = none) :
    engagement.session.phase.IsDown ∧ run.service.tickets = 0 := by
  obtain serves | down := reflects.serves
  · rw [serves.service_eq] at noService
    cases noService
  · exact down

/-- A step after which a session does not serve any more ends all jobs. -/
theorem endsAll_of_step? (serves : engagement.session.Serves service)
    (stepped : engagement.step? move = some next)
    (noService : next.session.phase.service? = none) :
    ∃ ended, next.told = engagement.told ++ ended ∧ service.EndsAll ended := by
  obtain ⟨-, step, moved, rfl⟩ := exists_of_step?_eq_some stepped
  cases Session.effect_of_move? serves moved with
  | rests servesOn _ _ _ =>
      exact absurd (servesOn.service_eq.symm.trans noService) nofun
  | works _ after _ servesOn _ _ =>
      exact absurd (servesOn.service_eq.symm.trans noService) nofun
  | leaves _ ends _ _ => exact ⟨_, rfl, ends⟩

/-- A session that is down stays down. -/
theorem isDown_play? {moves : List (SessionMove Ticket)}
    {last : Engagement Ticket}
    (isDown : engagement.session.phase.IsDown)
    (played : engagement.play? moves = some last) :
    last.session.phase.IsDown ∧ last.told = engagement.told := by
  induction moves generalizing engagement with
  | nil =>
      cases Option.some.inj played
      exact ⟨isDown, rfl⟩
  | cons move moves inductionHypothesis =>
      obtain ⟨next, stepped, played⟩ := Option.bind_eq_some_iff.1 played
      obtain ⟨-, step, moved, rfl⟩ := exists_of_step?_eq_some stepped
      obtain ⟨staysDown, outcomes_eq, -⟩ :=
        Session.isDown_of_move? isDown moved
      obtain ⟨lastDown, sameTold⟩ := inductionHypothesis staysDown played
      refine ⟨lastDown, sameTold.trans ?_⟩
      rw [settle, outcomes_eq, List.append_nil]

/-- A session that could not write leaves off, and its caller is told. -/
theorem exists_step_of_sending (serves : engagement.session.Serves service)
    {reference : UInt16} {datagram : Bytes} {others : List Bytes}
    (isSending :
      engagement.session.phase = .sending service reference datagram others) :
    ∃ ticket next,
      service.table.find? reference = some ticket
        ∧ engagement.step? (.hear (.written false)) = some next
        ∧ next.session.phase.service? = none
        ∧ { ticket, result := .error .notConnected } ∈ next.told := by
  obtain ⟨ticket, found⟩ := serves.writes isSending
  have stepped : engagement.step? (.hear (.written false)) = _ :=
    step?_eq_some rfl rfl
  have noService :=
    (Session.isDown_hear_written isSending).without_service.1
  obtain ⟨ended, told, tickets, result⟩ :=
    endsAll_of_step? serves stepped noService
  refine ⟨ticket, _, found, stepped, noService, ?_⟩
  have isHere := Service.mem_tickets_of_find? found
  rw [← tickets] at isHere
  obtain ⟨outcome, isEnded, rfl⟩ := mem_outcomeTickets.1 isHere
  rw [told, ← result outcome isEnded]
  exact List.mem_append_right _ isEnded

/-- A session that is not writing can leave off. -/
theorem exists_step_of_serving
    (isServing : engagement.session.phase = .serving service)
    (reason : DownReason) :
    ∃ next, engagement.step? (.leave reason) = some next
      ∧ next.session.phase.service? = none := by
  have left : engagement.session.move? (.leave reason)
      = some (engagement.session.goDown service reason) := by
    rw [Session.move?, isServing]
    rfl
  exact ⟨_, step?_eq_some rfl left,
    (Session.isDown_goDown _ service reason).1.without_service.1⟩

/-- A job whose caller waits is in the service or was told of. -/
theorem Reflects.count_eq_one {context : Context}
    (reflects : engagement.Reflects run) (kept : run.Kept context)
    {ticket : Ticket} (isSubmitted : ticket ∈ engagement.submitted)
    (waits : ticket ∉ engagement.gone) :
    run.service.tickets.count ticket
      + (outcomeTickets engagement.told).count ticket = 1 := by
  rw [← reflects.submitted_eq] at isSubmitted
  rw [← reflects.gone_eq] at waits
  rw [← reflects.told_eq]
  exact kept.count_eq_one isSubmitted waits

theorem Reflects.answered {context : Context}
    (reflects : engagement.Reflects run) (kept : run.Kept context) :
    engagement.AnsweredOnce := by
  refine
    { told_nodup := ?_
      count_serving := ?_
      ends_all := ?_
      cannot_write := ?_
      may_leave := ?_
      count_down := ?_
      stays_down := ?_
      refuses := ?_
      size_tearDown := ?_ }
  · rw [← reflects.told_eq]
    exact kept.nodup_told
  · intro service serves ticket isSubmitted waits
    obtain ⟨-, rfl⟩ := reflects.serves_of serves
    exact reflects.count_eq_one kept isSubmitted waits
  · intro service move next serves stepped noService
    exact endsAll_of_step? (reflects.serves_of serves).1 stepped noService
  · intro service reference datagram others isSending
    have isService : engagement.session.phase.service? = some service := by
      rw [isSending]
      rfl
    exact exists_step_of_sending (reflects.serves_of isService).1 isSending
  · intro service reason isServing
    exact exists_step_of_serving isServing reason
  · intro noService ticket isSubmitted waits
    have once := reflects.count_eq_one kept isSubmitted waits
    rwa [(reflects.isDown_of noService).2, Multiset.count_zero,
      zero_add] at once
  · intro noService moves last played
    obtain ⟨staysDown, sameTold⟩ :=
      isDown_play? (reflects.isDown_of noService).1 played
    exact ⟨staysDown.without_service.1, sameTold⟩
  · intro noService
    exact Session.submit_of_isDown (reflects.isDown_of noService).1
  · intro service
    change service.table.clear.size = 0
    rw [← JobTable.length_tickets, JobTable.tickets_clear]
    rfl

/-- However a ready session and its callers go on, every job is answered
once. -/
theorem answeredOnce {session : Session Ticket} {context : Context}
    {queueCapacity grace ceiling : Nat}
    (ready :
      session.phase = .serving (.start context queueCapacity grace ceiling))
    {moves : List (SessionMove Ticket)} {last : Engagement Ticket}
    (played : (ofSession session).play? moves = some last) :
    last.AnsweredOnce := by
  have begun : (ofSession session).Reflects
      (.start context queueCapacity grace ceiling) :=
    ⟨rfl, rfl, rfl, .inl (Session.serves_of_serving ready)⟩
  obtain ⟨run, kept, reflects⟩ := exists_reflects
    (ServiceRun.kept_start context queueCapacity grace ceiling) begun played
  exact reflects.answered kept

/-! ## A job that cannot be written -/

namespace BrokenWrite

open TwoBytes

def body : Body :=
  .readRequest specs

/-- The first of four jobs is being written. The second is in the queue, the
third is admitted and the last waits for a permit. -/
def moves : List (SessionMove Nat) :=
  [.submit 0 body 0, .submit 1 body 0, .submit 2 body 0, .submit 3 body 0,
    .enqueue 0, .dispatch 0, .enqueue 1, .hear (.written false)]

end BrokenWrite

theorem answeredOnce_brokenWrite :
    ∃ last,
      (ofSession TwoBytes.session).play? BrokenWrite.moves = some last
        ∧ last.told.map Outcome.ticket = [0, 2, 3, 1]
        ∧ last.session.phase.service?.isNone
        ∧ last.AnsweredOnce := by
  have ended :
      ((ofSession TwoBytes.session).play? BrokenWrite.moves).any
        (fun last =>
          last.told.map Outcome.ticket = [0, 2, 3, 1]
            ∧ last.session.phase.service?.isNone) = true := by
    decide +kernel
  obtain ⟨last, played, ended⟩ := (Option.any_eq_true _ _).1 ended
  obtain ⟨told, noService⟩ := of_decide_eq_true ended
  exact ⟨last, played, told, noService, answeredOnce rfl played⟩

end Engagement
end PlcLink
