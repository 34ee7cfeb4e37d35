import Mathlib
import PlcLink.Session.Run
import PlcLink.Proofs.Session.Fragments
import PlcLink.Proofs.Session.Tickets

/-!
# A ready session and its peer

A dialogue is a ready session together with what its peer sent. Callers submit
jobs, the session sends them, and the peer sends PDUs in any order and in any
fragments; its bytes arrive in any chunks.

Some of the jobs are planned, and so are the replies to them. No planned job
runs out of time, and under its reference there is no PDU but the reply to it.
All else is left open: other jobs may expire, and the peer may send what it
likes under their references or under references of no job at all.
-/

namespace PlcLink

/-- A job that is going to be submitted, and what the peer answers to it under
whatever reference it is sent. -/
structure PlannedJob (Ticket : Type) where
  ticket : Ticket
  body : Body
  reply : Pdu

/-- A ready session and what its peer sent. -/
structure Dialogue (Ticket : Type) where
  session : Session Ticket
  /-- Bytes from the peer that were not received yet. -/
  wire : Bytes
  /-- The PDUs of the peer that the session did not take yet. -/
  underWay : List Pdu
  /-- The tickets of all jobs there have been. -/
  used : Multiset Ticket
  /-- What the peer sent under the references of jobs, by their tickets. -/
  answers : List (Ticket × Pdu)
  /-- The outcomes that left the session, the oldest first. -/
  told : List (Outcome Ticket)

/-- What happens in a dialogue. -/
inductive DialogueMove (Ticket : Type)
  | submit (ticket : Ticket) (body : Body) (now : Nat)
  | enqueue (ticket : Ticket)
  | giveUp (ticket : Ticket)
  /-- The session does the next thing it can do without the network. -/
  | act (now : Nat)
  /-- A datagram of the session was written. -/
  | written
  /-- The peer sends a PDU in these datagrams. -/
  | send (datagrams : List Bytes)
  /-- The session receives so many of the bytes under way. -/
  | deliver (count : Nat)
  | tick (now : Nat)

/-- The outcomes among notices. -/
def noticeOutcomes (notices : List (Notice Ticket)) : List (Outcome Ticket) :=
  notices.filterMap fun
    | .outcome outcome => some outcome
    | .event _ => none

/-- Whether a session that gives this notice took a PDU. -/
def Notice.tellsOfPdu : Notice Ticket -> Bool
  | .outcome { result := .ok _, .. } | .event (.miss _) => true
  | _ => false

/-- How many PDUs a session took that gives these notices. -/
def pdusTaken (notices : List (Notice Ticket)) : Nat :=
  notices.countP Notice.tellsOfPdu

namespace Dialogue

variable {Ticket : Type}

/-- The dialogue of a session before anything happens in it. -/
def ofSession (session : Session Ticket) : Dialogue Ticket :=
  { session
    wire := []
    underWay := []
    used := (session.phase.service?.map Service.tickets).getD 0
    answers := []
    told := [] }

/-- The dialogue after a step of its session. -/
def absorb (dialogue : Dialogue Ticket) (step : SessionStep Ticket) :
    Dialogue Ticket :=
  { dialogue with
    session := step.1
    underWay := dialogue.underWay.drop (pdusTaken step.2)
    told := dialogue.told ++ noticeOutcomes step.2 }

/-- The ticket of the job under a reference. -/
def holder? (dialogue : Dialogue Ticket) (reference : UInt16) :
    Option Ticket :=
  dialogue.session.phase.service?.bind fun service =>
    service.table.find? reference

/-- The dialogue after its session received so many of the bytes under way. -/
def deliver (dialogue : Dialogue Ticket) (count : Nat) : Dialogue Ticket :=
  { dialogue.absorb
      (dialogue.session.hear (.received (dialogue.wire.take count)))
    with wire := dialogue.wire.drop count }

/-- Whether the peer answered a job. -/
def Answered (dialogue : Dialogue Ticket) (ticket : Ticket) : Prop :=
  ticket ∈ dialogue.answers.map Prod.fst

theorem Answered.exists_answer {dialogue : Dialogue Ticket} {ticket : Ticket}
    (answered : dialogue.Answered ticket) :
    ∃ pdu, (ticket, pdu) ∈ dialogue.answers := by
  obtain ⟨⟨_, pdu⟩, isAnswered, rfl⟩ := List.mem_map.1 answered
  exact ⟨pdu, isAnswered⟩

theorem Answered.of_answers_eq {dialogue next : Dialogue Ticket}
    {ticket : Ticket} (same : next.answers = dialogue.answers)
    (answered : dialogue.Answered ticket) : next.Answered ticket := by
  rw [Answered, same]
  exact answered

variable [DecidableEq Ticket]

instance (dialogue : Dialogue Ticket) (ticket : Ticket) :
    Decidable (dialogue.Answered ticket) :=
  inferInstanceAs (Decidable (ticket ∈ _))

/-- What came of a job, as far as its outcome left the session. -/
def result? (dialogue : Dialogue Ticket) (ticket : Ticket) :
    Option (Except Error Pdu) :=
  (dialogue.told.find? fun outcome => outcome.ticket = ticket).map
    Outcome.result

variable (jobs : List (PlannedJob Ticket))

/-- Submit a job under a new ticket; a planned one has the planned body. -/
def submit? (dialogue : Dialogue Ticket) (ticket : Ticket) (body : Body)
    (now : Nat) : Option (Dialogue Ticket) :=
  if ticket ∉ dialogue.used
      ∧ ∀ job ∈ jobs, job.ticket = ticket → body = job.body then
    match dialogue.session.submit ticket body now with
    | .ok session =>
        some { dialogue with session, used := {ticket} + dialogue.used }
    | .error _ => none
  else
    none

/-- Send a PDU, cut into datagrams. Under the reference of a planned job it is
the reply to that job. -/
def send? (dialogue : Dialogue Ticket) (datagrams : List Bytes) :
    Option (Dialogue Ticket) := do
  let raw <- joined? datagrams
  let pdu <- (Pdu.parse raw).toOption
  if raw.length ≤ dialogue.session.settings.maxReassemblyBytes
      ∧ ∀ job ∈ jobs, dialogue.holder? pdu.reference = some job.ticket →
        pdu = job.reply.withReference pdu.reference then
    some
      { dialogue with
        wire := dialogue.wire ++ datagrams.flatten
        underWay := dialogue.underWay ++ [pdu]
        answers := dialogue.answers
          ++ (dialogue.holder? pdu.reference).toList.map (·, pdu) }
  else
    none

/-- Let the session act, unless it gives a planned job a reference under which
a PDU is on its way. -/
def act? (dialogue : Dialogue Ticket) (now : Nat) :
    Option (Dialogue Ticket) := do
  let next := dialogue.absorb (<- dialogue.session.advance now)
  if ∀ pdu ∈ dialogue.underWay, ∀ job ∈ jobs,
      next.holder? pdu.reference = some job.ticket →
        dialogue.holder? pdu.reference = some job.ticket then
    some next
  else
    none

/-- Let time pass, unless a planned job runs out of it. -/
def tick? (dialogue : Dialogue Ticket) (now : Nat) :
    Option (Dialogue Ticket) :=
  let step := dialogue.session.tick now
  if ∀ outcome ∈ noticeOutcomes step.2, ∀ job ∈ jobs,
      outcome.ticket ≠ job.ticket then
    some (dialogue.absorb step)
  else
    none

/-- Make a move, if it can be made. -/
def step? (dialogue : Dialogue Ticket) :
    DialogueMove Ticket -> Option (Dialogue Ticket)
  | .submit ticket body now => dialogue.submit? jobs ticket body now
  | .enqueue ticket =>
      some { dialogue with session := dialogue.session.enqueue ticket }
  | .giveUp ticket =>
      some { dialogue with session := dialogue.session.giveUp ticket }
  | .act now => dialogue.act? jobs now
  | .written => some (dialogue.absorb (dialogue.session.hear (.written true)))
  | .send datagrams => dialogue.send? jobs datagrams
  | .deliver count => some (dialogue.deliver count)
  | .tick now => dialogue.tick? jobs now

/-- Make moves one after the other. -/
def play? (dialogue : Dialogue Ticket) :
    List (DialogueMove Ticket) -> Option (Dialogue Ticket)
  | [] => some dialogue
  | move :: moves =>
      (dialogue.step? jobs move).bind fun next => next.play? moves

end Dialogue
end PlcLink
