import Mathlib
import PlcLink.Proofs.Session.Dialogue

/-!
# What dialogues keep

The PDUs under way are read by the session one after the other. Those under the
reference of a planned job are answers to it, and every planned job that was
answered has its outcome, or its answer is still under way.
-/

namespace PlcLink

variable {Ticket : Type}

/-- The jobs of a service, the PDUs that are under way to it and the outcomes
that left it. -/
structure Ledger
    (jobs : List (PlannedJob Ticket))
    (service : Service Ticket)
    (underWay : List Pdu)
    (answers : List (Ticket × Pdu))
    (told : List (Outcome Ticket))
    (used : Multiset Ticket) : Prop where
  /-- A PDU under way under the reference of a planned job is an answer to
  it. -/
  pending : ∀ pdu ∈ underWay, ∀ job ∈ jobs,
    service.table.find? pdu.reference = some job.ticket →
      (job.ticket, pdu) ∈ answers
  /-- An answered job has its outcome, or its answer is under way. -/
  answered : ∀ job ∈ jobs, ∀ pdu, (job.ticket, pdu) ∈ answers →
    { ticket := job.ticket, result := .ok pdu } ∈ told
      ∨ pdu ∈ underWay
        ∧ service.table.find? pdu.reference = some job.ticket
  planned : ∀ job ∈ jobs, ∀ pdu, (job.ticket, pdu) ∈ answers →
    pdu = job.reply.withReference pdu.reference
  places : outcomeTickets told + service.tickets ≤ used
  nodup : used.Nodup

namespace Ledger

variable {jobs : List (PlannedJob Ticket)} {service after : Service Ticket}
  {underWay : List Pdu} {answers : List (Ticket × Pdu)}
  {told outcomes : List (Outcome Ticket)} {used : Multiset Ticket}

/-- Outcomes that were told are those of jobs the service does not have. -/
theorem nodup_places (ledger : Ledger jobs service underWay answers told used) :
    (outcomeTickets told).Nodup
      ∧ service.tickets.Nodup
      ∧ Disjoint (outcomeTickets told) service.tickets :=
  Multiset.nodup_add.1 (Multiset.nodup_of_le ledger.places ledger.nodup)

/-- An answered job has no outcome but its answer. -/
theorem result_eq
    (ledger : Ledger jobs service underWay answers told used)
    {job : PlannedJob Ticket} {outcome : Outcome Ticket} {pdu : Pdu}
    (member : job ∈ jobs)
    (isAnswered : (job.ticket, pdu) ∈ answers)
    (isTold : outcome ∈ told)
    (sameTicket : outcome.ticket = job.ticket) :
    outcome.result = .ok pdu := by
  obtain ⟨toldNodup, -, apart⟩ := ledger.nodup_places
  obtain answerTold | ⟨-, found⟩ := ledger.answered job member pdu isAnswered
  · have same := eq_of_outcomeTickets_nodup toldNodup isTold answerTold
      sameTicket
    exact congrArg Outcome.result same
  · -- A job of the table has not been told of.
    exact absurd (Service.mem_tickets_of_find? found)
      (Multiset.disjoint_left.1 apart
        (mem_outcomeTickets.2 ⟨outcome, isTold, sameTicket⟩))

/-- A service that keeps the jobs of its table gives no new reference to an
answered one. -/
theorem find?_of_answered
    (ledger : Ledger jobs service underWay answers told used)
    {job : PlannedJob Ticket} {pdu : Pdu} {reference : UInt16}
    (member : job ∈ jobs)
    (isAnswered : (job.ticket, pdu) ∈ answers)
    (keeps : ∀ reference ticket,
      service.table.find? reference = some ticket →
        after.table.find? reference = some ticket)
    (accounts : after.tickets ≤ service.tickets)
    (found : after.table.find? reference = some job.ticket) :
    service.table.find? reference = some job.ticket := by
  obtain ⟨-, distinct, apart⟩ := ledger.nodup_places
  obtain isTold | ⟨-, isPending⟩ := ledger.answered job member pdu isAnswered
  · -- A job that ended is not in the table any more.
    have stillThere :=
      Multiset.mem_of_le accounts (Service.mem_tickets_of_find? found)
    exact absurd stillThere
      (Multiset.disjoint_left.1 apart
        (mem_outcomeTickets.2 ⟨_, isTold, rfl⟩))
  · have laterDistinct := Multiset.nodup_of_le accounts distinct
    have tableDistinct :=
      Multiset.coe_nodup.1 (Multiset.nodup_add.1 laterDistinct).2.1
    have same := JobTable.reference_unique tableDistinct found
      (keeps _ _ isPending)
    rw [same]
    exact isPending

/-- The service may do anything that leaves the planned jobs in place under
the references of the PDUs under way. -/
theorem change
    (ledger : Ledger jobs service underWay answers told used)
    (same : ∀ pdu ∈ underWay, ∀ job ∈ jobs,
      after.table.find? pdu.reference = some job.ticket ↔
        service.table.find? pdu.reference = some job.ticket)
    (accounts : outcomeTickets outcomes + after.tickets ≤ service.tickets) :
    Ledger jobs after underWay answers (told ++ outcomes) used := by
  refine ⟨?_, ?_, ledger.planned, ?_, ledger.nodup⟩
  · intro pdu isUnderWay job member found
    have isPending := (same pdu isUnderWay job member).1 found
    exact ledger.pending pdu isUnderWay job member isPending
  · intro job member pdu isAnswered
    obtain isTold | ⟨isUnderWay, isPending⟩ :=
      ledger.answered job member pdu isAnswered
    · exact .inl (List.mem_append_left _ isTold)
    · exact .inr ⟨isUnderWay, (same pdu isUnderWay job member).2 isPending⟩
  · rw [outcomeTickets_append, add_assoc]
    exact (add_le_add_right accounts _).trans ledger.places

/-- A new job may come. -/
theorem submit
    (ledger : Ledger jobs service underWay answers told used)
    {ticket : Ticket}
    (fresh : ticket ∉ used)
    (sameTable : after.table = service.table)
    (tickets : after.tickets = {ticket} + service.tickets) :
    Ledger jobs after underWay answers told ({ticket} + used) := by
  refine ⟨?_, ?_, ledger.planned, ?_, ?_⟩
  · rw [sameTable]
    exact ledger.pending
  · rw [sameTable]
    exact ledger.answered
  · rw [tickets, add_left_comm]
    exact add_le_add_right ledger.places _
  · exact Multiset.nodup_cons.2 ⟨fresh, ledger.nodup⟩

/-- A further PDU may be sent. -/
theorem send
    (ledger : Ledger jobs service underWay answers told used)
    {pdu : Pdu}
    (isPlanned : ∀ job ∈ jobs,
      service.table.find? pdu.reference = some job.ticket →
        pdu = job.reply.withReference pdu.reference) :
    Ledger jobs service (underWay ++ [pdu])
      (answers
        ++ (service.table.find? pdu.reference).toList.map (·, pdu))
      told used := by
  have new : ∀ {ticket other},
      (ticket, other) ∈
          (service.table.find? pdu.reference).toList.map (·, pdu) ↔
        service.table.find? pdu.reference = some ticket ∧ other = pdu := by
    intro ticket other
    simp [eq_comm]
  refine ⟨?_, ?_, ?_, ledger.places, ledger.nodup⟩
  · intro other isUnderWay job member isPending
    obtain isEarlier | isNew := List.mem_append.1 isUnderWay
    · exact List.mem_append_left _
        (ledger.pending other isEarlier job member isPending)
    · obtain rfl := List.mem_singleton.1 isNew
      exact List.mem_append_right _ (new.2 ⟨isPending, rfl⟩)
  · intro job member other isAnswered
    obtain isEarlier | isNew := List.mem_append.1 isAnswered
    · obtain isTold | ⟨isUnderWay, isPending⟩ :=
        ledger.answered job member other isEarlier
      · exact .inl isTold
      · exact .inr ⟨List.mem_append_left _ isUnderWay, isPending⟩
    · obtain ⟨isPending, rfl⟩ := new.1 isNew
      exact .inr ⟨List.mem_append_right _ (List.mem_singleton.2 rfl),
        isPending⟩
  · intro job member other isAnswered
    obtain isEarlier | isNew := List.mem_append.1 isAnswered
    · exact ledger.planned job member other isEarlier
    · obtain ⟨isPending, rfl⟩ := new.1 isNew
      exact isPlanned job member isPending

/-- The first PDU under way may end the job under its reference. -/
theorem settle {pdu : Pdu} {ticket : Ticket}
    (ledger : Ledger jobs service (pdu :: underWay) answers told used)
    (isPending : service.table.find? pdu.reference = some ticket)
    (sameTable : after.table = service.table.remove pdu.reference)
    (tickets : {ticket} + after.tickets = service.tickets) :
    Ledger jobs after underWay answers
      (told ++ [{ ticket, result := .ok pdu }]) used := by
  have strikes := JobTable.strikes_remove isPending
  rw [← sameTable] at strikes
  refine ⟨?_, ?_, ledger.planned, ?_, ledger.nodup⟩
  · intro other isUnderWay job member found
    exact ledger.pending other (List.mem_cons_of_mem _ isUnderWay) job member
      (strikes.find?_some found)
  · intro job member other isAnswered
    obtain isTold | ⟨isUnderWay, otherPending⟩ :=
      ledger.answered job member other isAnswered
    · exact .inl (List.mem_append_left _ isTold)
    · by_cases same : other.reference = pdu.reference
      · -- Both are the reply to the job under that reference.
        rw [same, isPending] at otherPending
        cases Option.some.inj otherPending
        have firstAnswered :=
          ledger.pending pdu List.mem_cons_self job member isPending
        have isFirst : other = pdu := by
          rw [ledger.planned job member other isAnswered, same,
            ← ledger.planned job member pdu firstAnswered]
        rw [isFirst]
        exact .inl (List.mem_append_right _ (List.mem_singleton.2 rfl))
      · have isLater : other ∈ underWay := by
          obtain rfl | isLater := List.mem_cons.1 isUnderWay
          · exact absurd rfl same
          · exact isLater
        refine .inr ⟨isLater, ?_⟩
        rw [strikes.find?_eq, if_neg (by simpa using same)]
        exact otherPending
  · rw [outcomeTickets_append, outcomeTickets_cons, outcomeTickets_nil,
      add_zero, add_assoc, tickets]
    exact ledger.places

/-- The first PDU under way may find no job. -/
theorem miss {pdu : Pdu}
    (ledger : Ledger jobs service (pdu :: underWay) answers told used)
    (isFree : service.table.find? pdu.reference = none)
    (sameTable : after.table = service.table)
    (tickets : after.tickets = service.tickets) :
    Ledger jobs after underWay answers told used := by
  refine ⟨?_, ?_, ledger.planned, ?_, ledger.nodup⟩
  · rw [sameTable]
    exact fun other isUnderWay =>
      ledger.pending other (List.mem_cons_of_mem _ isUnderWay)
  · intro job member other isAnswered
    obtain isTold | ⟨isUnderWay, otherPending⟩ :=
      ledger.answered job member other isAnswered
    · exact .inl isTold
    · obtain rfl | isLater := List.mem_cons.1 isUnderWay
      · rw [isFree] at otherPending
        cases otherPending
      · rw [← sameTable] at otherPending
        exact .inr ⟨isLater, otherPending⟩
  · rw [tickets]
    exact ledger.places

end Ledger
end PlcLink
