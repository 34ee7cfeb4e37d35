import Mathlib
import PlcLink.Proofs.Session.DialogueRun

/-!
# How dialogues begin and end

A dialogue may begin as soon as its session is ready. When all planned jobs are
answered, the session by itself brings the dialogue to an end at which all of
them have their replies.
-/

namespace PlcLink

variable {Ticket : Type}

/-- A session that is ready and has nothing half received. Its jobs may be
anywhere. -/
structure Session.Attentive (session : Session Ticket)
    (service : Service Ticket) : Prop where
  serves : session.phase.service? = some service
  notCancelled : session.cancelled = false
  goesOn : session.streamEnd? = none
  nothingReceived : session.inbound = .empty
  between : service.reassembler = .empty session.settings.maxReassemblyBytes
  distinct : service.tickets.Nodup

/-- A session that becomes ready is attentive if the peer sent nothing but its
answers to the handshake. -/
theorem Session.attentive_of_awaitSetup {session : Session Ticket}
    {frameSize : Nat} {step : SessionStep Ticket} {service : Service Ticket}
    (advances : session.awaitSetup frameSize = some step)
    (serves : step.1.phase.service? = some service)
    (notCancelled : step.1.cancelled = false)
    (goesOn : step.1.streamEnd? = none)
    (nothingReceived : step.1.inbound = .empty) :
    step.1.Attentive service := by
  have begins : ∃ context,
      service = .start context step.1.settings.sendQueueCapacity
        step.1.settings.referenceGrace
        step.1.settings.maxReassemblyBytes := by
    unfold awaitSetup at advances
    split at advances
    · cases advances
    · cases Option.some.inj advances
      cases serves
    · rename_i datagram _ _
      cases Option.some.inj advances
      unfold orFail at serves ⊢
      split at serves
      · rename_i other isReady
        cases Option.some.inj serves
        obtain ⟨granted, -, isReady⟩ := exists_of_bind_eq_ok isReady
        obtain ⟨context, -, isReady⟩ := exists_of_bind_eq_ok isReady
        cases Except.ok.inj isReady
        exact ⟨context, rfl⟩
      · cases serves
  obtain ⟨context, rfl⟩ := begins
  exact
    { serves
      notCancelled
      goesOn
      nothingReceived
      between := rfl
      distinct := Multiset.nodup_zero }

theorem Session.Attentive.orderly {session : Session Ticket}
    {service : Service Ticket}
    (attentive : session.Attentive service)
    (jobs : List (PlannedJob Ticket)) :
    Orderly jobs (.ofSession session) service [] where
  serves := attentive.serves
  notCancelled := attentive.notCancelled
  goesOn := attentive.goesOn
  ceiling := by
    rw [attentive.between]
    rfl
  holds := by
    change session.inbound.Holds [] []
    rw [attentive.nothingReceived]
    exact .empty
  reads := by
    rw [attentive.between]
    exact .done _
  ledger := by
    have used : (Dialogue.ofSession session).used = service.tickets := by
      rw [Dialogue.ofSession, attentive.serves]
      rfl
    refine ⟨?_, ?_, ?_, ?_, ?_⟩
    · intro pdu isUnderWay
      cases isUnderWay
    · intro job _ pdu isAnswered
      cases isAnswered
    · intro job _ pdu isAnswered
      cases isAnswered
    · rw [used]
      exact (zero_add _).le
    · rw [used]
      exact attentive.distinct

theorem Dialogue.play?_append [DecidableEq Ticket]
    (jobs : List (PlannedJob Ticket))
    (first second : List (DialogueMove Ticket))
    (dialogue : Dialogue Ticket) :
    dialogue.play? jobs (first ++ second)
      = (dialogue.play? jobs first).bind fun between =>
        between.play? jobs second := by
  induction first generalizing dialogue with
  | nil => rfl
  | cons move moves inductionHypothesis =>
      simp only [List.cons_append, play?]
      cases dialogue.step? jobs move with
      | none => rfl
      | some next => exact inductionHypothesis next

/-- Whether all that the peer sent has been received and dealt with. -/
structure Dialogue.Settled [DecidableEq Ticket] (dialogue : Dialogue Ticket)
    (now : Nat) : Prop where
  received : dialogue.wire = []
  serving : ∃ service, dialogue.session.phase = .serving service
  idle : dialogue.session.advance now = none

namespace Orderly

variable [DecidableEq Ticket] {jobs : List (PlannedJob Ticket)}
  {dialogue : Dialogue Ticket} {service : Service Ticket}
  {datagrams : List Bytes}

/-- In the end no PDU is under way. -/
theorem underWay_eq_nil {now : Nat}
    (orderly : Orderly jobs dialogue service datagrams)
    (settled : dialogue.Settled now) : dialogue.underWay = [] := by
  obtain ⟨received, ⟨other, isServing⟩, idle⟩ := settled
  have nothingLeft : datagrams = [] := by
    have holds := orderly.holds
    rw [received] at holds
    unfold Session.advance at idle
    rw [orderly.notCancelled, if_neg Bool.false_ne_true, isServing] at idle
    dsimp only at idle
    unfold Session.serve at idle
    split at idle
    · cases idle
    · unfold Session.arrival at idle
      obtain ⟨datagram, others, inbound, -, asked, -⟩
          | ⟨inbound, -, -, none⟩ := holds.next
      · rw [asked] at idle
        cases idle
      · exact none rfl
  have reads := orderly.reads
  rw [nothingLeft] at reads
  generalize service.reassembler = reassembler at reads
  generalize dialogue.underWay = underWay at reads
  cases reads
  rfl

/-- What came of an answered job, once it is known, is the planned reply under
the reference of the job. -/
theorem result?_eq {job : PlannedJob Ticket} {result : Except Error Pdu}
    (orderly : Orderly jobs dialogue service datagrams)
    (member : job ∈ jobs)
    (answered : dialogue.Answered job.ticket)
    (isResult : dialogue.result? job.ticket = some result) :
    ∃ reference, result = .ok (job.reply.withReference reference) := by
  obtain ⟨pdu, isAnswered⟩ := answered.exists_answer
  obtain ⟨outcome, found, rfl⟩ := Option.map_eq_some_iff.1 isResult
  have same := List.find?_some found
  rw [decide_eq_true_eq] at same
  refine ⟨pdu.reference, ?_⟩
  rw [← orderly.ledger.planned job member pdu isAnswered]
  exact orderly.ledger.result_eq member isAnswered
    (List.mem_of_find?_eq_some found) same

/-- In the end what came of every answered job is known. -/
theorem exists_result? {now : Nat} {job : PlannedJob Ticket}
    (orderly : Orderly jobs dialogue service datagrams)
    (settled : dialogue.Settled now)
    (member : job ∈ jobs)
    (answered : dialogue.Answered job.ticket) :
    ∃ result, dialogue.result? job.ticket = some result := by
  obtain ⟨pdu, isAnswered⟩ := answered.exists_answer
  obtain isTold | ⟨isUnderWay, -⟩ :=
    orderly.ledger.answered job member pdu isAnswered
  · cases found : dialogue.told.find?
        fun outcome => outcome.ticket = job.ticket with
    | some outcome => exact ⟨outcome.result, by rw [Dialogue.result?, found]; rfl⟩
    | none =>
        have absent := List.find?_eq_none.1 found _ isTold
        simp at absent
  · rw [orderly.underWay_eq_nil settled] at isUnderWay
    cases isUnderWay

/-- A session that writes a job can write it to its end. -/
theorem finishWriting
    (orderly : Orderly jobs dialogue service datagrams) :
    ∃ moves next,
      dialogue.play? jobs moves = some next
        ∧ Orderly jobs next service datagrams
        ∧ next.session.phase = .serving service
        ∧ next.answers = dialogue.answers := by
  obtain isServing | ⟨reference, datagram, others, isSending⟩ :=
    Phase.eq_of_service? orderly.serves
  · exact ⟨[], dialogue, rfl, orderly, isServing, rfl⟩
  · induction others generalizing dialogue datagram with
    | nil =>
        refine ⟨[.written], _, rfl, orderly.written, ?_, rfl⟩
        simp [Dialogue.absorb, Session.hear, isSending, Session.afterSend,
          Session.sendNext, Session.enter]
    | cons following others inductionHypothesis =>
        have stillSending :
            (dialogue.absorb
                (dialogue.session.hear (.written true))).session.phase
              = .sending service reference following others := by
          simp [Dialogue.absorb, Session.hear, isSending, Session.afterSend,
            Session.sendNext, Session.enter]
        obtain ⟨moves, next, played, later, isServing, answers⟩ :=
          inductionHypothesis orderly.written following stillSending
        exact ⟨.written :: moves, next, played, later, isServing, answers⟩

/-- A session can write what it has begun to write, and receive all bytes. -/
theorem receiveAll
    (orderly : Orderly jobs dialogue service datagrams) :
    ∃ moves next,
      dialogue.play? jobs moves = some next
        ∧ Orderly jobs next service datagrams
        ∧ next.wire = []
        ∧ next.session.phase = .serving service
        ∧ next.answers = dialogue.answers := by
  obtain ⟨writing, between, written, later, isServing, answers⟩ :=
    orderly.finishWriting
  refine ⟨writing ++ [.deliver between.wire.length], _, ?_, later.deliver _,
    List.drop_length, isServing, answers⟩
  rw [Dialogue.play?_append, written]
  rfl

/-- A session whose planned jobs are all answered can by itself bring the
dialogue to its end. -/
theorem settles (now : Nat)
    (orderly : Orderly jobs dialogue service datagrams)
    (answered : ∀ job ∈ jobs, dialogue.Answered job.ticket) :
    ∃ moves last,
      dialogue.play? jobs moves = some last
        ∧ last.Settled now
        ∧ last.answers = dialogue.answers := by
  -- Each act of the session takes a job from its queue or a datagram.
  induction size : service.queue.length + datagrams.length
    using Nat.strong_induction_on
    generalizing dialogue service datagrams with
  | _ size inductionHypothesis =>
  obtain ⟨begun, next, played, arrived, received, isServing, answers⟩ :=
    orderly.receiveAll
  have stillAnswered : ∀ job ∈ jobs, next.Answered job.ticket :=
    fun job member => (answered job member).of_answers_eq answers
  cases advances : next.session.advance now with
  | none =>
      exact ⟨begun, next, played, ⟨received, ⟨service, isServing⟩, advances⟩,
        answers⟩
  | some step =>
      obtain ⟨after, others, acted, later, shorter⟩ :=
        arrived.exists_act stillAnswered advances
      obtain ⟨moves, last, playedOn, settled, lastAnswers⟩ :=
        inductionHypothesis _ (size ▸ shorter) later stillAnswered rfl
      refine ⟨begun ++ .act now :: moves, last, ?_, settled,
        lastAnswers.trans answers⟩
      rw [Dialogue.play?_append, played]
      change (next.act? jobs now).bind _ = some last
      rw [acted]
      exact playedOn

end Orderly
end PlcLink
