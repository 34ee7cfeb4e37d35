import Mathlib
import PlcLink.Proofs.Session.Serving
import PlcLink.Proofs.Session.ServiceRun

/-!
# A ready session and its callers

A ready session does one thing at a time: it takes a job from its queue, looks
at what its peer sent, lets jobs run out of time, or leaves off. While it writes
the datagrams of a job it does nothing else. Its callers act at any time, and so
does the network.

A move either leaves the session ready, and is at most one move of its service,
or all jobs of the service end because nothing is connected any more.
-/

namespace PlcLink

variable {Ticket : Type}

/-- What a ready session, its callers and the network can do. -/
inductive SessionMove (Ticket : Type)
  | submit (ticket : Ticket) (body : Body) (now : Nat)
  | enqueue (ticket : Ticket)
  | giveUp (ticket : Ticket)
  /-- Callers run out of patience whose jobs are not in the queue yet. -/
  | lapse (now : Nat)
  | cancel
  | shutDown
  | hear (report : NetworkReport)
  /-- The session takes a job from its queue. -/
  | dispatch (now : Nat)
  /-- The session looks at what the peer sent. -/
  | look
  /-- Jobs that wait for a reply run out of time. -/
  | expire (now : Nat)
  | leave (reason : DownReason)

namespace SessionMove

/-- The ticket of the job that comes, if one does. -/
def came : SessionMove Ticket -> Multiset Ticket
  | submit ticket _ _ => {ticket}
  | _ => 0

/-- The ticket of the caller that gives up, if one does. -/
def left : SessionMove Ticket -> List Ticket
  | giveUp ticket => [ticket]
  | _ => []

end SessionMove

namespace Phase

/-- The service of a session that is not writing. -/
def serving? : Phase Ticket -> Option (Service Ticket)
  | serving service => some service
  | _ => none

/-- Whether the session departs or has ended. -/
def IsDown : Phase Ticket -> Prop
  | departing _ | ended _ => True
  | _ => False

theorem IsDown.eq {phase : Phase Ticket} (isDown : phase.IsDown) :
    (∃ farewell, phase = departing farewell)
      ∨ ∃ result, phase = ended result := by
  cases phase with
  | departing farewell => exact .inl ⟨farewell, rfl⟩
  | ended result => exact .inr ⟨result, rfl⟩
  | _ => exact isDown.elim

/-- A session that is down has no service, and none that it could go on with. -/
theorem IsDown.without_service {phase : Phase Ticket}
    (isDown : phase.IsDown) :
    phase.service? = none ∧ phase.serving? = none := by
  obtain ⟨farewell, rfl⟩ | ⟨result, rfl⟩ := isDown.eq
  · exact ⟨rfl, rfl⟩
  · exact ⟨rfl, rfl⟩

end Phase

namespace Session

variable [DecidableEq Ticket]

/-- Make a move, if it can be made. -/
def move? (session : Session Ticket) :
    SessionMove Ticket -> Option (SessionStep Ticket)
  | .submit ticket body now =>
      (session.submit ticket body now).toOption.map (·, [])
  | .enqueue ticket => some (session.enqueue ticket, [])
  | .giveUp ticket => some (session.giveUp ticket, [])
  | .lapse now =>
      session.phase.service?.map fun service =>
        let (service, lapsed) := service.lapse now
        (session.withService service, outcomes lapsed)
  | .cancel => some (session.cancel, [])
  | .shutDown => some session.shutDown
  | .hear report => some (session.hear report)
  | .dispatch now =>
      session.phase.serving?.bind fun service =>
        (service.dispatch? now).map fun (service, dispatch) =>
          session.afterDispatch service dispatch
  | .look =>
      session.phase.serving?.bind fun service =>
        match session.arrival with
        | (.nothing, _) => none
        | (.over streamEnd, session) =>
            some (session.goDown service (streamDown streamEnd))
        | (.datagram datagram, session) =>
            let (service, reception) := service.receive datagram.frame
            some (session.afterReception service reception)
  | .expire now =>
      session.phase.serving?.map fun service =>
        let (service, expired) := service.expire now
        (session.withService service,
          outcomes (expired.map Prod.snd)
            ++ expired.map fun (reference, _) => .event (.timeout reference))
  | .leave reason =>
      session.phase.serving?.map fun service => session.goDown service reason

end Session

/-! ## What notices tell -/

@[simp] theorem noticeOutcomes_nil :
    noticeOutcomes ([] : List (Notice Ticket)) = [] := rfl

@[simp] theorem noticeOutcomes_event_cons (event : SessionEvent)
    (notices : List (Notice Ticket)) :
    noticeOutcomes (.event event :: notices) = noticeOutcomes notices := rfl

@[simp] theorem noticeOutcomes_append (first second : List (Notice Ticket)) :
    noticeOutcomes (first ++ second)
      = noticeOutcomes first ++ noticeOutcomes second :=
  List.filterMap_append

@[simp] theorem noticeOutcomes_outcomes (outcomes : List (Outcome Ticket)) :
    noticeOutcomes (Session.outcomes outcomes) = outcomes := by
  rw [noticeOutcomes, Session.outcomes, List.filterMap_map]
  exact List.filterMap_some

@[simp] theorem noticeOutcomes_events {value : Type}
    (event : value -> SessionEvent) (values : List value) :
    noticeOutcomes
      (values.map fun value => (.event (event value) : Notice Ticket)) = [] := by
  rw [noticeOutcomes, List.filterMap_map]
  exact List.filterMap_eq_nil_iff.2 fun _ _ => rfl

namespace Service

/-- All jobs of a service end because nothing is connected any more. -/
structure EndsAll (service : Service Ticket)
    (outcomes : List (Outcome Ticket)) : Prop where
  tickets_eq : outcomeTickets outcomes = service.tickets
  result_eq : ∀ outcome ∈ outcomes, outcome.result = .error .notConnected

theorem endsAll_tearDown (service : Service Ticket) :
    service.EndsAll service.tearDown.2 := by
  refine ⟨service.outcomeTickets_tearDown, ?_⟩
  intro outcome isTold
  obtain isEarlier | isBegun := List.mem_append.1 isTold
  · obtain isPending | isWaiting := List.mem_append.1 isEarlier
    · obtain ⟨_, -, rfl⟩ := List.mem_map.1 isPending
      rfl
    · obtain ⟨_, -, rfl⟩ := List.mem_map.1 isWaiting
      rfl
  · obtain ⟨_, -, rfl⟩ := List.mem_map.1 isBegun
    rfl

theorem endsAll_sendFailed (service : Service Ticket) (reference : UInt16) :
    service.EndsAll
      ((service.sendFailed reference).2
        ++ (service.sendFailed reference).1.tearDown.2) := by
  cases found : service.table.find? reference with
  | none =>
      rw [sendFailed_of_find?_eq_none found]
      exact service.endsAll_tearDown
  | some ticket =>
      rw [sendFailed_of_find?_eq_some found]
      obtain ⟨tickets, result⟩ := endsAll_tearDown
        (release { service with table := service.table.remove reference })
      refine ⟨?_, ?_⟩
      · rw [List.singleton_append, outcomeTickets_cons, tickets,
          (release_frame _).1]
        simp only [Service.tickets]
        rw [(JobTable.strikes_remove found).tickets_eq]
        change _ = _ + ({ticket} + _)
        abel
      · exact List.forall_mem_cons.2 ⟨rfl, result⟩

theorem receivePdu_ne_disconnected (service : Service Ticket) (raw : Bytes) :
    (service.receivePdu raw).2 ≠ .disconnected := by
  unfold receivePdu
  split
  · exact nofun
  · split
    · exact nofun
    · exact nofun

/-- A request to disconnect changes nothing about the jobs. -/
theorem eq_of_receive_disconnected {service after : Service Ticket}
    {frame : Except Error Frame}
    (received : service.receive frame = (after, .disconnected)) :
    after = service := by
  unfold receive at received
  split at received
  · cases received
  · split at received
    · dsimp only at received
      split at received
      · exact absurd (congrArg Prod.snd received)
          (receivePdu_ne_disconnected _ _)
      · cases received
      · cases received
    · cases received
      rfl
    · cases received

end Service

namespace Session

/-- A session serves. While it writes a job, that job is in the table. -/
structure Serves (session : Session Ticket) (service : Service Ticket) :
    Prop where
  service_eq : session.phase.service? = some service
  writes : ∀ {reference datagram others},
    session.phase = .sending service reference datagram others →
      ∃ ticket, service.table.find? reference = some ticket

variable [DecidableEq Ticket]

/-- What a move does to a session that serves. -/
inductive Effect (service : Service Ticket) (move : SessionMove Ticket)
    (step : SessionStep Ticket) : Prop
  /-- The jobs stay where they are. -/
  | rests
      (serves : step.1.Serves service)
      (outcomes_eq : noticeOutcomes step.2 = [])
      (came_eq : move.came = 0)
      (left_eq : move.left = [])
  /-- The service makes a move. -/
  | works
      (work : ServiceMove Ticket)
      (after : Service Ticket)
      (performed : service.perform? work = some (after, noticeOutcomes step.2))
      (serves : step.1.Serves after)
      (came_eq : work.came = move.came)
      (left_eq : work.left = move.left)
  /-- The session goes down. -/
  | leaves
      (isDown : step.1.phase.IsDown)
      (ends : service.EndsAll (noticeOutcomes step.2))
      (came_eq : move.came = 0)
      (left_eq : move.left = [])

variable {session : Session Ticket} {service : Service Ticket}
  {move : SessionMove Ticket} {step : SessionStep Ticket}

omit [DecidableEq Ticket] in
theorem serves_of_serving (isServing : session.phase = .serving service) :
    session.Serves service where
  service_eq := by rw [isServing]; rfl
  writes := fun isSending => by
    rw [isServing] at isSending
    cases isSending

omit [DecidableEq Ticket] in
theorem Serves.withService (serves : session.Serves service)
    {after : Service Ticket} (table_eq : after.table = service.table) :
    (session.withService after).Serves after where
  service_eq := Phase.service?_withService serves.service_eq after
  writes := by
    intro reference datagram others isSending
    rw [table_eq]
    obtain isServing | ⟨other, _, _, wasSending⟩ :=
      Phase.eq_of_service? serves.service_eq
    · rw [Session.withService, isServing] at isSending
      cases isSending
    · rw [Session.withService, wasSending] at isSending
      cases isSending
      exact serves.writes wasSending

omit [DecidableEq Ticket] in
theorem serves_sendNext (session : Session Ticket)
    {reference : UInt16} {ticket : Ticket}
    (found : service.table.find? reference = some ticket)
    (datagrams : List Bytes) :
    (session.sendNext service reference datagrams).1.Serves service
      ∧ noticeOutcomes (session.sendNext service reference datagrams).2
        = [] := by
  cases datagrams with
  | nil => exact ⟨serves_of_serving rfl, rfl⟩
  | cons datagram others =>
      refine ⟨⟨rfl, ?_⟩, rfl⟩
      intro other _ _ isSending
      cases isSending
      exact ⟨ticket, found⟩

omit [DecidableEq Ticket] in
theorem isDown_goDown (session : Session Ticket) (service : Service Ticket)
    (reason : DownReason) :
    (session.goDown service reason).1.phase.IsDown
      ∧ noticeOutcomes (session.goDown service reason).2
        = service.tearDown.2 := by
  unfold goDown
  dsimp only
  split
  · exact ⟨trivial, by simp [enterState, enter]⟩
  · split
    · exact ⟨trivial, by simp [enter]⟩
    · exact ⟨trivial, by simp [enterState, enter]⟩

omit [DecidableEq Ticket] in
theorem Serves.serving (serves : session.Serves service)
    {other : Service Ticket} (isServing : session.phase.serving? = some other) :
    session.phase = .serving service ∧ other = service := by
  have service_eq := serves.service_eq
  unfold Phase.serving? at isServing
  split at isServing
  · rename_i phase
    rw [phase] at service_eq ⊢
    cases isServing
    cases service_eq
    exact ⟨rfl, rfl⟩
  · cases isServing

/-- A session that goes down ends all jobs. -/
theorem effect_goDown {reason : DownReason}
    (came_eq : move.came = 0) (left_eq : move.left = []) :
    Effect service move (session.goDown service reason) := by
  obtain ⟨isDown, outcomes_eq⟩ := session.isDown_goDown service reason
  refine .leaves isDown ?_ came_eq left_eq
  rw [outcomes_eq]
  exact service.endsAll_tearDown

theorem serves_afterDispatch (session : Session Ticket)
    {after : Service Ticket} {now : Nat} {dispatch : Dispatch Ticket}
    (dispatched : service.dispatch? now = some (after, dispatch)) :
    (session.afterDispatch after dispatch).1.Serves after
      ∧ noticeOutcomes (session.afterDispatch after dispatch).2
        = dispatch.outcomes := by
  cases dispatch with
  | skipped => exact ⟨serves_of_serving rfl, rfl⟩
  | refused outcome => exact ⟨serves_of_serving rfl, rfl⟩
  | sending reference datagrams =>
      obtain ⟨job, queue, table, -, -, ⟨-, ⟨-, isOther⟩ | ⟨_, isOther⟩⟩
        | ⟨_, _, -, rfl, isSending⟩⟩ := Service.dispatch_cases dispatched
      · cases isOther
      · cases isOther
      · cases isSending
        have found :
            (table.register reference job.ticket job.deadline).find? reference
              = some job.ticket := by
          rw [JobTable.find?_register, if_pos rfl]
        exact session.serves_sendNext found datagrams

/-- A session that took a frame serves on, unless the peer asked to
disconnect. -/
theorem effect_afterReception {frame : Except Error Frame}
    {after : Service Ticket} {reception : Reception Ticket}
    (received : service.receive frame = (after, reception)) :
    Effect service .look (session.afterReception after reception) := by
  have performed : service.perform? (.receive frame)
      = some (after, reception.outcomes) := by
    rw [Service.perform?, received]
  cases reception with
  | disconnected =>
      rw [Service.eq_of_receive_disconnected received]
      change Effect service .look (session.goDown service .peerDisconnected)
      exact effect_goDown rfl rfl
  | ignored => exact .works _ after performed (serves_of_serving rfl) rfl rfl
  | answered outcome =>
      exact .works _ after performed (serves_of_serving rfl) rfl rfl
  | missed reference =>
      exact .works _ after performed (serves_of_serving rfl) rfl rfl
  | overflowed length =>
      exact .works _ after performed (serves_of_serving rfl) rfl rfl

omit [DecidableEq Ticket] in
theorem isDown_hear_written {reference : UInt16} {datagram : Bytes}
    {others : List Bytes}
    (isSending :
      session.phase = .sending service reference datagram others) :
    (session.hear (.written false)).1.phase.IsDown := by
  simp only [hear, isSending]
  exact (session.isDown_goDown (service.sendFailed reference).1
    .sendFailed).1

/-- A session that hears of the network serves on, unless it could not
write. -/
theorem effect_hear (serves : session.Serves service)
    (report : NetworkReport) :
    Effect service (.hear report) (session.hear report) := by
  have same : ∀ inbound streamEnd?,
      Serves { session with inbound, streamEnd? } service :=
    fun _ _ => ⟨serves.service_eq, serves.writes⟩
  cases report with
  | received bytes => exact .rests (same _ _) rfl rfl rfl
  | ended streamEnd => exact .rests (same _ _) rfl rfl rfl
  | resolved endpoints? =>
      have unchanged : session.hear (.resolved endpoints?)
          = (session, []) := by
        obtain isServing | ⟨_, _, _, isSending⟩ :=
          Phase.eq_of_service? serves.service_eq
        · simp only [hear, isServing]
        · simp only [hear, isSending]
      rw [unchanged]
      exact .rests serves rfl rfl rfl
  | connected succeeded =>
      have unchanged : session.hear (.connected succeeded)
          = (session, []) := by
        obtain isServing | ⟨_, _, _, isSending⟩ :=
          Phase.eq_of_service? serves.service_eq
        · simp only [hear, isServing]
        · simp only [hear, isSending]
      rw [unchanged]
      exact .rests serves rfl rfl rfl
  | written succeeded =>
      obtain isServing | ⟨reference, datagram, others, isSending⟩ :=
        Phase.eq_of_service? serves.service_eq
      · have unchanged : session.hear (.written succeeded) = (session, []) := by
          simp only [hear, isServing]
        rw [unchanged]
        exact .rests serves rfl rfl rfl
      · have isAfterSend : session.hear (.written succeeded)
            = session.afterSend service reference others succeeded := by
          simp only [hear, isSending]
        rw [isAfterSend]
        obtain ⟨ticket, found⟩ := serves.writes isSending
        cases succeeded with
        | true =>
            obtain ⟨servesOn, outcomes_eq⟩ :=
              session.serves_sendNext found others
            exact .rests servesOn outcomes_eq rfl rfl
        | false =>
            -- The job that could not be written ends first, then all others.
            obtain ⟨isDown, outcomes_eq⟩ := session.isDown_goDown
              (service.sendFailed reference).1 .sendFailed
            refine .leaves isDown ?_ rfl rfl
            have told : noticeOutcomes
                  (session.afterSend service reference others false).2
                = (service.sendFailed reference).2
                  ++ (service.sendFailed reference).1.tearDown.2 := by
              rw [← outcomes_eq]
              exact (noticeOutcomes_append _ _).trans
                (congrArg (· ++ _) (noticeOutcomes_outcomes _))
            rw [told]
            exact service.endsAll_sendFailed reference

/-- A session whose service makes a move that leaves the table as it is. -/
theorem Serves.effect_withService (serves : session.Serves service)
    {work : ServiceMove Ticket} {after : Service Ticket}
    {notices : List (Notice Ticket)}
    (performed : service.perform? work = some (after, noticeOutcomes notices))
    (table_eq : after.table = service.table)
    (came_eq : work.came = move.came) (left_eq : work.left = move.left) :
    Effect service move (session.withService after, notices) :=
  .works work after performed (serves.withService table_eq) came_eq left_eq

theorem effect_submit (serves : session.Serves service) {ticket : Ticket}
    {body : Body} {now : Nat} {after : Session Ticket}
    (submitted : session.submit ticket body now = .ok after) :
    Effect service (.submit ticket body now) (after, []) := by
  obtain ⟨job, later, rfl, isSubmitted, rfl⟩ :=
    submit_eq_ok serves.service_eq submitted
  have performed : service.perform? (.submit job) = some (later, []) := by
    rw [Service.perform?, isSubmitted]
    rfl
  exact serves.effect_withService performed
    (Service.submit_frame isSubmitted).2.1 rfl rfl

theorem effect_enqueue (serves : session.Serves service) (ticket : Ticket) :
    Effect service (.enqueue ticket) (session.enqueue ticket, []) := by
  have performed : service.perform? (.enqueue ticket)
      = some (service.enqueue ticket, []) := rfl
  rw [Session.enqueue, serves.service_eq]
  exact serves.effect_withService performed
    (service.enqueue_frame ticket).2.1 rfl rfl

theorem effect_giveUp (serves : session.Serves service) (ticket : Ticket) :
    Effect service (.giveUp ticket) (session.giveUp ticket, []) := by
  have performed : service.perform? (.giveUp ticket)
      = some (service.giveUp ticket, []) := rfl
  rw [Session.giveUp, serves.service_eq]
  exact serves.effect_withService performed
    (service.giveUp_frame ticket).2.1 rfl rfl

theorem effect_lapse (serves : session.Serves service) (now : Nat) :
    Effect service (.lapse now)
      (session.withService (service.lapse now).1,
        outcomes (service.lapse now).2) := by
  have performed : service.perform? (.lapse now)
      = some ((service.lapse now).1,
        noticeOutcomes (outcomes (service.lapse now).2)) := by
    rw [noticeOutcomes_outcomes]
    rfl
  exact serves.effect_withService performed (service.lapse_frame now).2.1 rfl
    rfl

theorem effect_shutDown (serves : session.Serves service) :
    Effect service .shutDown session.shutDown := by
  have cancelled : session.cancel.Serves service :=
    ⟨serves.service_eq, serves.writes⟩
  have performed : service.perform? .close
      = some (service.close.1, noticeOutcomes (outcomes service.close.2)) := by
    rw [noticeOutcomes_outcomes]
    rfl
  rw [shutDown]
  dsimp only
  rw [cancelled.service_eq]
  exact cancelled.effect_withService performed rfl rfl rfl

theorem effect_dispatch {after : Service Ticket} {now : Nat}
    {dispatch : Dispatch Ticket}
    (dispatched : service.dispatch? now = some (after, dispatch)) :
    Effect service (.dispatch now) (session.afterDispatch after dispatch) := by
  obtain ⟨servesOn, outcomes_eq⟩ := session.serves_afterDispatch dispatched
  refine .works (.dispatch now) after ?_ servesOn rfl rfl
  rw [outcomes_eq, Service.perform?, dispatched]
  rfl

/-- Jobs run out of time only while a session is not writing. -/
theorem effect_expire (isServing : session.phase = .serving service)
    (now : Nat) :
    Effect service (.expire now)
      (session.withService (service.expire now).1,
        outcomes ((service.expire now).2.map Prod.snd)
          ++ (service.expire now).2.map
            fun (reference, _) => .event (.timeout reference)) := by
  refine .works (.expire now) (service.expire now).1 ?_
    (serves_of_serving ?_) rfl rfl
  · simp only [noticeOutcomes_append, noticeOutcomes_outcomes,
      noticeOutcomes_events, List.append_nil]
    rfl
  · simp only [Session.withService, isServing, Phase.withService]

/-- A move of a session that serves. -/
theorem effect_of_move? (serves : session.Serves service)
    (moved : session.move? move = some step) : Effect service move step := by
  cases move with
  | submit ticket body now =>
      obtain ⟨after, submitted, rfl⟩ := Option.map_eq_some_iff.1 moved
      exact effect_submit serves (eq_ok_of_toOption_eq_some submitted)
  | enqueue ticket =>
      cases moved
      exact effect_enqueue serves ticket
  | giveUp ticket =>
      cases moved
      exact effect_giveUp serves ticket
  | lapse now =>
      obtain ⟨other, isOther, rfl⟩ := Option.map_eq_some_iff.1 moved
      cases Option.some.inj (serves.service_eq.symm.trans isOther)
      exact effect_lapse serves now
  | cancel =>
      cases moved
      exact .rests ⟨serves.service_eq, serves.writes⟩ rfl rfl rfl
  | shutDown =>
      cases moved
      exact effect_shutDown serves
  | hear report =>
      cases moved
      exact effect_hear serves report
  | dispatch now =>
      obtain ⟨other, isServing, moved⟩ := Option.bind_eq_some_iff.1 moved
      obtain ⟨-, rfl⟩ := serves.serving isServing
      obtain ⟨⟨after, dispatch⟩, dispatched, rfl⟩ :=
        Option.map_eq_some_iff.1 moved
      exact effect_dispatch dispatched
  | look =>
      obtain ⟨other, isServing, moved⟩ := Option.bind_eq_some_iff.1 moved
      obtain ⟨-, rfl⟩ := serves.serving isServing
      split at moved
      · cases moved
      · cases moved
        exact effect_goDown rfl rfl
      · cases moved
        exact effect_afterReception rfl
  | expire now =>
      obtain ⟨other, isServing, rfl⟩ := Option.map_eq_some_iff.1 moved
      obtain ⟨phase, rfl⟩ := serves.serving isServing
      exact effect_expire phase now
  | leave reason =>
      obtain ⟨other, isServing, rfl⟩ := Option.map_eq_some_iff.1 moved
      obtain ⟨-, rfl⟩ := serves.serving isServing
      exact effect_goDown rfl rfl

omit [DecidableEq Ticket] in
theorem submit_of_isDown (isDown : session.phase.IsDown) (ticket : Ticket)
    (body : Body) (now : Nat) :
    session.submit ticket body now = .error .notConnected := by
  rw [submit, isDown.without_service.1]

/-- A session that is down stays down, and nothing more comes of it. -/
theorem isDown_of_move? (isDown : session.phase.IsDown)
    (moved : session.move? move = some step) :
    step.1.phase.IsDown ∧ noticeOutcomes step.2 = [] ∧ move.came = 0 := by
  obtain ⟨noService, notServing⟩ := isDown.without_service
  cases move with
  | submit ticket body now =>
      rw [move?, submit_of_isDown isDown] at moved
      cases moved
  | enqueue ticket =>
      rw [move?, Session.enqueue, noService] at moved
      cases moved
      exact ⟨isDown, rfl, rfl⟩
  | giveUp ticket =>
      rw [move?, Session.giveUp, noService] at moved
      cases moved
      exact ⟨isDown, rfl, rfl⟩
  | lapse now =>
      rw [move?, noService] at moved
      cases moved
  | cancel =>
      cases moved
      exact ⟨isDown, rfl, rfl⟩
  | shutDown =>
      have isShutDown : session.shutDown = (session.cancel, []) := by
        rw [shutDown]
        dsimp only
        rw [show session.cancel.phase.service? = none from noService]
      rw [move?, isShutDown] at moved
      cases moved
      exact ⟨isDown, rfl, rfl⟩
  | hear report =>
      cases moved
      obtain ⟨farewell, phase⟩ | ⟨result, phase⟩ := isDown.eq
      · cases report <;>
          simp only [hear, phase] <;> exact ⟨trivial, rfl, rfl⟩
      · cases report <;>
          simp only [hear, phase] <;> exact ⟨trivial, rfl, rfl⟩
  | dispatch now =>
      rw [move?, notServing] at moved
      cases moved
  | look =>
      rw [move?, notServing] at moved
      cases moved
  | expire now =>
      rw [move?, notServing] at moved
      cases moved
  | leave reason =>
      rw [move?, notServing] at moved
      cases moved

/-- What a session that serves does by itself is one of its moves. -/
theorem exists_move_of_advance (serves : session.Serves service) {now : Nat}
    (advanced : session.advance now = some step) :
    ∃ move, session.move? move = some step := by
  unfold advance at advanced
  obtain phase | ⟨reference, datagram, others, phase⟩ :=
    Phase.eq_of_service? serves.service_eq
  · have isServing : session.phase.serving? = some service := by
      rw [phase]
      rfl
    split at advanced
    · simp only [stop?, phase] at advanced
      refine ⟨.leave .requested, ?_⟩
      rw [move?, isServing]
      exact advanced
    · simp only [phase, serve] at advanced
      split at advanced
      · rename_i after dispatch dispatched
        refine ⟨.dispatch now, ?_⟩
        rw [move?, isServing, Option.bind_some, dispatched]
        exact advanced
      · refine ⟨.look, ?_⟩
        rw [move?, isServing]
        exact advanced
  · split at advanced
    · simp only [stop?, phase] at advanced
      cases advanced
    · simp only [phase] at advanced
      cases advanced

/-- When time passes for a session that is not writing, callers run out of
patience, and then jobs run out of time. -/
theorem exists_moves_of_tick (isServing : session.phase = .serving service)
    (now : Nat) :
    ∃ lapsed expired,
      session.move? (.lapse now) = some lapsed
        ∧ lapsed.1.move? (.expire now) = some expired
        ∧ (session.tick now).1 = expired.1
        ∧ noticeOutcomes (session.tick now).2
          = noticeOutcomes lapsed.2 ++ noticeOutcomes expired.2 := by
  have lapses : session.move? (.lapse now)
      = some (session.withService (service.lapse now).1,
        outcomes (service.lapse now).2) := by
    rw [move?, isServing]
    rfl
  have phase : (session.withService (service.lapse now).1).phase
      = .serving (service.lapse now).1 := by
    rw [Session.withService, isServing, Phase.withService]
  refine ⟨_, _, lapses, by rw [move?, phase]; rfl, ?_, ?_⟩
  · simp only [tick, isServing, Phase.service?, Session.withService,
      Phase.withService]
  · simp only [tick, isServing, Phase.service?, outcomes, List.map_append,
      noticeOutcomes_append, List.append_assoc]

end Session
end PlcLink
