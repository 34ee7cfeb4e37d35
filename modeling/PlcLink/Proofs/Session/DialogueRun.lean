import Mathlib
import PlcLink.Proofs.Session.Ledger
import PlcLink.Proofs.Session.Serving

/-!
# Runs of dialogues

Each move of a dialogue keeps its ledger and the stream of datagrams in order,
and so does every run.
-/

namespace PlcLink

variable {Ticket : Type}

/-- A dialogue whose session is ready and reads just the PDUs under way. -/
structure Orderly
    (jobs : List (PlannedJob Ticket))
    (dialogue : Dialogue Ticket)
    (service : Service Ticket)
    (datagrams : List Bytes) : Prop where
  serves : dialogue.session.phase.service? = some service
  notCancelled : dialogue.session.cancelled = false
  goesOn : dialogue.session.streamEnd? = none
  ceiling : service.reassembler.ceiling
    = dialogue.session.settings.maxReassemblyBytes
  holds : dialogue.session.inbound.Holds dialogue.wire datagrams
  reads : service.reassembler.Reads datagrams dialogue.underWay
  ledger : Ledger jobs service dialogue.underWay dialogue.answers
    dialogue.told dialogue.used

/-- No planned job got a reference under which a PDU is on its way. -/
def NoneGiven (jobs : List (PlannedJob Ticket)) (underWay : List Pdu)
    (before after : Service Ticket) : Prop :=
  ∀ pdu ∈ underWay, ∀ job ∈ jobs,
    after.table.find? pdu.reference = some job.ticket →
      before.table.find? pdu.reference = some job.ticket

namespace Orderly

variable {jobs : List (PlannedJob Ticket)} {dialogue : Dialogue Ticket}
  {service after : Service Ticket} {datagrams : List Bytes}

theorem holder?_eq (orderly : Orderly jobs dialogue service datagrams)
    (reference : UInt16) :
    dialogue.holder? reference = service.table.find? reference := by
  rw [Dialogue.holder?, orderly.serves]
  rfl

/-- A step of the session that takes no PDU. -/
theorem absorb {step : SessionStep Ticket} {outcomes : List (Outcome Ticket)}
    (orderly : Orderly jobs dialogue service datagrams)
    (servesOn : dialogue.session.ServesOn step.1 after)
    (tells : Tells step.2 outcomes 0)
    (reassembler : after.reassembler = service.reassembler)
    (same : ∀ pdu ∈ dialogue.underWay, ∀ job ∈ jobs,
      after.table.find? pdu.reference = some job.ticket ↔
        service.table.find? pdu.reference = some job.ticket)
    (accounts : outcomeTickets outcomes + after.tickets ≤ service.tickets) :
    Orderly jobs (dialogue.absorb step) after datagrams := by
  have underWay : (dialogue.absorb step).underWay = dialogue.underWay := by
    rw [Dialogue.absorb, tells.taken_eq]
    exact List.drop_zero
  have told : (dialogue.absorb step).told = dialogue.told ++ outcomes := by
    rw [← tells.outcomes_eq]
    rfl
  refine ⟨servesOn.serves, ?_, ?_, ?_, ?_, ?_, ?_⟩
  · exact servesOn.cancelled_eq.trans orderly.notCancelled
  · exact servesOn.streamEnd_eq.trans orderly.goesOn
  · change _ = step.1.settings.maxReassemblyBytes
    rw [reassembler, servesOn.settings_eq, orderly.ceiling]
  · change step.1.inbound.Holds dialogue.wire datagrams
    rw [servesOn.inbound_eq]
    exact orderly.holds
  · rw [reassembler, underWay]
    exact orderly.reads
  · rw [underWay, told]
    exact orderly.ledger.change same accounts

/-- A step of the session that tells nothing and leaves its table alone. -/
theorem update {session : Session Ticket}
    (orderly : Orderly jobs dialogue service datagrams)
    (servesOn : dialogue.session.ServesOn session after)
    (tickets : after.tickets ≤ service.tickets)
    (table : after.table = service.table)
    (reassembler : after.reassembler = service.reassembler) :
    Orderly jobs { dialogue with session } after datagrams := by
  have accounts : outcomeTickets [] + after.tickets ≤ service.tickets := by
    rw [outcomeTickets_nil, zero_add]
    exact tickets
  have absorbed : Orderly jobs (dialogue.absorb (session, [])) after
      datagrams := by
    refine orderly.absorb servesOn .nothing reassembler ?_ accounts
    intro pdu _ job _
    rw [table]
  rw [Dialogue.absorb_of_tells .nothing] at absorbed
  exact absorbed

theorem written (orderly : Orderly jobs dialogue service datagrams) :
    Orderly jobs (dialogue.absorb (dialogue.session.hear (.written true)))
      service datagrams := by
  obtain ⟨servesOn, tells⟩ := Session.servesOn_written orderly.serves
  rw [Dialogue.absorb_of_tells tells]
  exact orderly.update servesOn le_rfl rfl rfl

/-- Chunks of any size arrive in order. -/
theorem deliver (count : Nat)
    (orderly : Orderly jobs dialogue service datagrams) :
    Orderly jobs (dialogue.deliver count) service datagrams := by
  have heard : dialogue.session.hear (.received (dialogue.wire.take count))
      = ({ dialogue.session with
          inbound :=
            dialogue.session.inbound.feed (dialogue.wire.take count) }, []) :=
    rfl
  have holds := orderly.holds
  rw [← List.take_append_drop count dialogue.wire] at holds
  rw [Dialogue.deliver, heard, Dialogue.absorb_of_tells .nothing]
  exact
    { serves := orderly.serves
      notCancelled := orderly.notCancelled
      goesOn := orderly.goesOn
      ceiling := orderly.ceiling
      holds := holds.feed
      reads := orderly.reads
      ledger := orderly.ledger }

/-- A session that took a datagram is in order if it read it in order. -/
theorem take {inbound : Inbound} {others : List Bytes}
    {notices : List (Notice Ticket)}
    (orderly : Orderly jobs dialogue service datagrams)
    (left : inbound.Holds dialogue.wire others)
    (ceiling : after.reassembler.ceiling = service.reassembler.ceiling)
    (reads : after.reassembler.Reads others
      (dialogue.underWay.drop (pdusTaken notices)))
    (ledger : Ledger jobs after (dialogue.underWay.drop (pdusTaken notices))
      dialogue.answers (dialogue.told ++ noticeOutcomes notices)
      dialogue.used) :
    Orderly jobs
      (dialogue.absorb
        ({ dialogue.session with inbound, phase := .serving after }, notices))
      after others where
  serves := rfl
  notCancelled := orderly.notCancelled
  goesOn := orderly.goesOn
  ceiling := ceiling.trans orderly.ceiling
  holds := left
  reads := reads
  ledger := ledger

/-- The session takes the next datagram. Jobs leave its table, if any. -/
theorem receive {datagram : Datagram} {others : List Bytes} {inbound : Inbound}
    {step : SessionStep Ticket}
    (orderly : Orderly jobs dialogue service datagrams)
    (isNext : datagrams = datagram.content :: others)
    (left : inbound.Holds dialogue.wire others)
    (received :
      Session.afterReception { dialogue.session with inbound }
          (service.receive datagram.frame).1
          (service.receive datagram.frame).2
        = step) :
    ∃ after,
      Orderly jobs (dialogue.absorb step) after others
        ∧ after.queue = service.queue
        ∧ ∀ reference ticket,
          after.table.find? reference = some ticket →
            service.table.find? reference = some ticket := by
  have reads := orderly.reads
  rw [isNext] at reads
  generalize isReassembler : service.reassembler = reassembler at reads
  generalize isUnderWay : dialogue.underWay = underWay at reads
  have ledger := orderly.ledger
  rw [isUnderWay] at ledger
  cases reads with
  | @pending _ next _ payload isLast _ _ carries pushed later =>
      rw [← isReassembler] at pushed
      rw [Service.receive_fragment carries, pushed] at received
      subst received
      have sameLedger :
          Ledger jobs { service with reassembler := next } dialogue.underWay
            dialogue.answers (dialogue.told ++ []) dialogue.used := by
        rw [isUnderWay, List.append_nil]
        exact ⟨ledger.pending, ledger.answered, ledger.planned, ledger.places,
          ledger.nodup⟩
      refine ⟨{ service with reassembler := next }, ?_, rfl,
        fun _ _ found => found⟩
      exact orderly.take left (Reassembler.ceiling_of_push pushed)
        (isUnderWay ▸ later) sameLedger
  | @complete _ next _ payload raw isLast pdu _ pdus carries pushed parsed
      later =>
      rw [← isReassembler] at pushed
      have ceiling := Reassembler.ceiling_of_push pushed
      have rest : pdus = dialogue.underWay.drop 1 := by
        rw [isUnderWay]
        rfl
      subst rest
      cases found : service.table.find? pdu.reference with
      | some ticket =>
          obtain ⟨after, isAfter, table, reassembler, queue, tickets⟩ :=
            Service.receive_answer carries pushed parsed found
          rw [isAfter] at received
          subst received
          rw [← reassembler] at ceiling later
          refine ⟨after, ?_, queue, ?_⟩
          · exact orderly.take left ceiling later
              (ledger.settle found table tickets)
          · intro reference ticket stillFound
            rw [table] at stillFound
            exact (JobTable.strikes_remove found).find?_some stillFound
      | none =>
          rw [Service.receive_miss carries pushed parsed found] at received
          subst received
          have missed :
              Ledger jobs { service with reassembler := next } _ _ _ _ :=
            ledger.miss found rfl rfl
          rw [← List.append_nil dialogue.told] at missed
          refine ⟨{ service with reassembler := next }, ?_, rfl,
            fun _ _ found => found⟩
          exact orderly.take left ceiling later missed

variable [DecidableEq Ticket]

/-- The peer may send any PDU that is no wrong answer to a planned job. -/
theorem send {pieces : List Bytes} {next : Dialogue Ticket}
    (orderly : Orderly jobs dialogue service datagrams)
    (sent : dialogue.send? jobs pieces = some next) :
    Orderly jobs next service (datagrams ++ pieces) := by
  unfold Dialogue.send? at sent
  obtain ⟨raw, joined, sent⟩ := Option.bind_eq_some_iff.1 sent
  obtain ⟨pdu, isPdu, sent⟩ := Option.bind_eq_some_iff.1 sent
  have parsed := eq_ok_of_toOption_eq_some isPdu
  split at sent
  · rename_i conditions
    obtain ⟨fits, isPlanned⟩ := conditions
    rw [orderly.holder?_eq] at sent isPlanned
    cases Option.some.inj sent
    rw [← orderly.ceiling] at fits
    exact
      { serves := orderly.serves
        notCancelled := orderly.notCancelled
        goesOn := orderly.goesOn
        ceiling := orderly.ceiling
        holds := orderly.holds.send (framed_of_joined? joined)
        reads := orderly.reads.append
          (Reassembler.reads_of_joined? joined fits parsed)
        ledger := orderly.ledger.send isPlanned }
  · cases sent

theorem submit {ticket : Ticket} {body : Body} {now : Nat}
    {next : Dialogue Ticket}
    (orderly : Orderly jobs dialogue service datagrams)
    (submitted : dialogue.submit? jobs ticket body now = some next) :
    ∃ after, Orderly jobs next after datagrams := by
  unfold Dialogue.submit? at submitted
  split at submitted
  · rename_i conditions
    split at submitted
    · rename_i session isSubmitted
      cases Option.some.inj submitted
      obtain ⟨job, later, rfl, isLater, rfl⟩ :=
        Session.submit_eq_ok orderly.serves isSubmitted
      obtain ⟨tickets, table, reassembler⟩ := Service.submit_frame isLater
      refine ⟨later, ?_⟩
      exact
        { serves := Phase.service?_withService orderly.serves later
          notCancelled := orderly.notCancelled
          goesOn := orderly.goesOn
          ceiling := reassembler ▸ orderly.ceiling
          holds := orderly.holds
          reads := reassembler ▸ orderly.reads
          ledger := orderly.ledger.submit conditions.1 table tickets }
    · cases submitted
  · cases submitted

theorem enqueue (ticket : Ticket)
    (orderly : Orderly jobs dialogue service datagrams) :
    Orderly jobs
      { dialogue with session := dialogue.session.enqueue ticket }
      (service.enqueue ticket) datagrams := by
  obtain ⟨tickets, table, reassembler⟩ := service.enqueue_frame ticket
  refine orderly.update ?_ tickets.le table reassembler
  unfold Session.enqueue
  rw [orderly.serves]
  exact Session.servesOn_withService orderly.serves _

theorem giveUp (ticket : Ticket)
    (orderly : Orderly jobs dialogue service datagrams) :
    Orderly jobs
      { dialogue with session := dialogue.session.giveUp ticket }
      (service.giveUp ticket) datagrams := by
  obtain ⟨tickets, table, reassembler⟩ := service.giveUp_frame ticket
  refine orderly.update ?_ tickets table reassembler
  unfold Session.giveUp
  rw [orderly.serves]
  exact Session.servesOn_withService orderly.serves _

/-- Time that passes ends no planned job. -/
theorem tick {now : Nat} {next : Dialogue Ticket}
    (orderly : Orderly jobs dialogue service datagrams)
    (ticked : dialogue.tick? jobs now = some next) :
    ∃ after, Orderly jobs next after datagrams := by
  unfold Dialogue.tick? at ticked
  dsimp only at ticked
  obtain ⟨servesOn, tells⟩ := Session.servesOn_tick orderly.serves now
  obtain ⟨lapsed, lapsedTable, lapsedReassembler⟩ := service.lapse_frame now
  obtain ⟨expired, strikes, expiredReassembler⟩ :=
    (service.lapse now).1.expire_frame now
  split at ticked
  · rename_i spared
    cases Option.some.inj ticked
    refine ⟨_, orderly.absorb servesOn tells
      (expiredReassembler.trans lapsedReassembler) ?_ ?_⟩
    · intro pdu _ job member
      rw [← lapsedTable]
      refine ⟨strikes.find?_some, ?_⟩
      intro found
      rw [strikes.find?_eq, if_neg, found]
      intro isExpired
      obtain ⟨⟨_, ticket⟩, ended, rfl⟩ := List.mem_map.1 isExpired
      have otherFound := strikes.found _ ended
      rw [found] at otherFound
      cases Option.some.inj otherFound
      have isTicket := List.mem_map_of_mem (f := Prod.snd) ended
      rw [← JobTable.map_ticket_timeOut] at isTicket
      obtain ⟨outcome, isTold, same⟩ := List.mem_map.1 isTicket
      refine spared outcome ?_ job member same
      rw [tells.outcomes_eq]
      exact List.mem_append_right _ isTold
    · rw [outcomeTickets_append, add_assoc, expired, lapsed]
  · cases ticked

/-- The session takes a job from its queue. -/
theorem dispatch {now : Nat} {taken : Dispatch Ticket}
    (orderly : Orderly jobs dialogue service datagrams)
    (dispatched : service.dispatch? now = some (after, taken))
    (noneGiven : NoneGiven jobs dialogue.underWay service after) :
    Orderly jobs
      (dialogue.absorb (dialogue.session.afterDispatch after taken))
      after datagrams := by
  obtain ⟨servesOn, tells⟩ :=
    dialogue.session.servesOn_afterDispatch after
      fun _ => Service.result_of_dispatch dispatched
  obtain ⟨accounts, keeps, -⟩ := Service.dispatch_frame dispatched
  refine orderly.absorb servesOn tells keeps.reassembler_eq ?_ accounts
  intro pdu isUnderWay job member
  exact ⟨noneGiven pdu isUnderWay job member, keeps.found _ _⟩

/-- What the session does by itself leaves it less to do. Only a job that it
takes from its queue may get a reference. -/
theorem advance {now : Nat} {step : SessionStep Ticket}
    (orderly : Orderly jobs dialogue service datagrams)
    (advances : dialogue.session.advance now = some step)
    (noneGiven : ∀ after : Service Ticket,
      step.1.phase.service? = some after →
      service.Keeps after →
      after.tickets ≤ service.tickets →
        NoneGiven jobs dialogue.underWay service after) :
    ∃ after others,
      Orderly jobs (dialogue.absorb step) after others
        ∧ NoneGiven jobs dialogue.underWay service after
        ∧ after.queue.length + others.length
          < service.queue.length + datagrams.length := by
  unfold Session.advance at advances
  rw [orderly.notCancelled, if_neg Bool.false_ne_true] at advances
  obtain isServing | ⟨reference, datagram, others, isSending⟩ :=
    Phase.eq_of_service? orderly.serves
  · rw [isServing] at advances
    dsimp only at advances
    unfold Session.serve at advances
    split at advances
    · rename_i after taken dispatched
      cases Option.some.inj advances
      have servesOn := (dialogue.session.servesOn_afterDispatch after
        fun _ => Service.result_of_dispatch dispatched).1
      obtain ⟨accounts, keeps, shorter⟩ := Service.dispatch_frame dispatched
      have fewer : after.tickets ≤ service.tickets :=
        (Multiset.le_add_left _ _).trans accounts
      have unused := noneGiven after servesOn.serves keeps fewer
      exact ⟨after, datagrams, orderly.dispatch dispatched unused, unused,
        Nat.add_lt_add_right shorter _⟩
    · unfold Session.arrival at advances
      obtain ⟨datagram, others, inbound, isNext, asked, left⟩
          | ⟨inbound, asked, -, -⟩ := orderly.holds.next
      · rw [asked] at advances
        obtain ⟨after, later, queue, foundBefore⟩ :=
          orderly.receive isNext left (Option.some.inj advances)
        refine ⟨after, others, later,
          fun _ _ _ _ found => foundBefore _ _ found, ?_⟩
        rw [queue, isNext]
        exact Nat.lt_succ_self _
      · rw [asked, orderly.goesOn] at advances
        cases advances
  · rw [isSending] at advances
    cases advances

theorem act {now : Nat} {next : Dialogue Ticket}
    (orderly : Orderly jobs dialogue service datagrams)
    (acted : dialogue.act? jobs now = some next) :
    ∃ after others, Orderly jobs next after others := by
  unfold Dialogue.act? at acted
  obtain ⟨step, advances, acted⟩ := Option.bind_eq_some_iff.1 acted
  dsimp only at acted
  split at acted
  · rename_i unused
    cases Option.some.inj acted
    have noneGiven (after : Service Ticket)
        (serves : step.1.phase.service? = some after) :
        NoneGiven jobs dialogue.underWay service after := by
      intro pdu isUnderWay job member found
      have still := unused pdu isUnderWay job member
      rw [orderly.holder?_eq] at still
      refine still ?_
      rw [Dialogue.holder?, Dialogue.absorb, serves]
      exact found
    obtain ⟨after, others, later, -, -⟩ :=
      orderly.advance advances fun after serves _ _ => noneGiven after serves
    exact ⟨after, others, later⟩
  · cases acted

/-- A session whose planned jobs are all answered gives none of them a new
reference, and may always act. -/
theorem exists_act {now : Nat} {step : SessionStep Ticket}
    (orderly : Orderly jobs dialogue service datagrams)
    (answered : ∀ job ∈ jobs, dialogue.Answered job.ticket)
    (advances : dialogue.session.advance now = some step) :
    ∃ after others,
      dialogue.act? jobs now = some (dialogue.absorb step)
        ∧ Orderly jobs (dialogue.absorb step) after others
        ∧ after.queue.length + others.length
          < service.queue.length + datagrams.length := by
  have noneGiven (after : Service Ticket) (keeps : service.Keeps after)
      (fewer : after.tickets ≤ service.tickets) :
      NoneGiven jobs dialogue.underWay service after := by
    intro pdu _ job member found
    obtain ⟨answer, isAnswered⟩ := (answered job member).exists_answer
    exact orderly.ledger.find?_of_answered member isAnswered keeps.found
      fewer found
  obtain ⟨after, others, later, unused, shorter⟩ :=
    orderly.advance advances fun after _ => noneGiven after
  refine ⟨after, others, ?_, later, shorter⟩
  unfold Dialogue.act?
  rw [advances]
  change (if _ then some (dialogue.absorb step) else none) = _
  rw [if_pos]
  intro pdu isUnderWay job member found
  rw [later.holder?_eq] at found
  rw [orderly.holder?_eq]
  exact unused pdu isUnderWay job member found

/-- Every move keeps a dialogue in order. -/
theorem step {move : DialogueMove Ticket} {next : Dialogue Ticket}
    (orderly : Orderly jobs dialogue service datagrams)
    (moved : dialogue.step? jobs move = some next) :
    ∃ after datagrams, Orderly jobs next after datagrams := by
  cases move with
  | submit ticket body now =>
      obtain ⟨after, later⟩ := orderly.submit moved
      exact ⟨after, datagrams, later⟩
  | enqueue ticket =>
      cases Option.some.inj moved
      exact ⟨_, datagrams, orderly.enqueue ticket⟩
  | giveUp ticket =>
      cases Option.some.inj moved
      exact ⟨_, datagrams, orderly.giveUp ticket⟩
  | act now => exact orderly.act moved
  | written =>
      cases Option.some.inj moved
      exact ⟨service, datagrams, orderly.written⟩
  | send pieces => exact ⟨service, datagrams ++ pieces, orderly.send moved⟩
  | deliver count =>
      cases Option.some.inj moved
      exact ⟨service, datagrams, orderly.deliver count⟩
  | tick now =>
      obtain ⟨after, later⟩ := orderly.tick moved
      exact ⟨after, datagrams, later⟩

/-- Every run keeps a dialogue in order. -/
theorem play {moves : List (DialogueMove Ticket)} {last : Dialogue Ticket}
    (orderly : Orderly jobs dialogue service datagrams)
    (played : dialogue.play? jobs moves = some last) :
    ∃ after datagrams, Orderly jobs last after datagrams := by
  induction moves generalizing dialogue service datagrams with
  | nil =>
      cases Option.some.inj played
      exact ⟨service, datagrams, orderly⟩
  | cons move moves inductionHypothesis =>
      obtain ⟨next, moved, played⟩ := Option.bind_eq_some_iff.1 played
      obtain ⟨after, datagrams, later⟩ := orderly.step moved
      exact inductionHypothesis later played

end Orderly

end PlcLink
