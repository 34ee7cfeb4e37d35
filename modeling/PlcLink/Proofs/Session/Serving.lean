import Mathlib
import PlcLink.Proofs.Session.Dialogue

/-!
# Steps of a ready session

What a step of a ready session tells, and what it leaves as it is. Only a
datagram that completes a PDU makes the session take one.
-/

namespace PlcLink

variable {Ticket : Type}

/-! ## What notices tell -/

/-- What the notices of a step tell: outcomes, and of how many PDUs. -/
structure Tells (notices : List (Notice Ticket))
    (outcomes : List (Outcome Ticket)) (taken : Nat) : Prop where
  outcomes_eq : noticeOutcomes notices = outcomes
  taken_eq : pdusTaken notices = taken

namespace Tells

theorem nothing : Tells ([] : List (Notice Ticket)) [] 0 :=
  ⟨rfl, rfl⟩

theorem append {first second : List (Notice Ticket)}
    {firstOutcomes secondOutcomes : List (Outcome Ticket)}
    {firstTaken secondTaken : Nat}
    (firstTells : Tells first firstOutcomes firstTaken)
    (secondTells : Tells second secondOutcomes secondTaken) :
    Tells (first ++ second) (firstOutcomes ++ secondOutcomes)
      (firstTaken + secondTaken) where
  outcomes_eq := by
    rw [← firstTells.outcomes_eq, ← secondTells.outcomes_eq]
    exact List.filterMap_append
  taken_eq := by
    rw [← firstTells.taken_eq, ← secondTells.taken_eq]
    exact List.countP_append

/-- Outcomes that are errors. -/
theorem failures {outcomes : List (Outcome Ticket)}
    (areErrors : ∀ outcome ∈ outcomes, ∃ error, outcome.result = .error error) :
    Tells (Session.outcomes outcomes) outcomes 0 where
  outcomes_eq := by
    rw [noticeOutcomes, Session.outcomes, List.filterMap_map]
    exact List.filterMap_some
  taken_eq := by
    rw [pdusTaken, List.countP_eq_zero, Session.outcomes,
      List.forall_mem_map]
    rintro ⟨ticket, result⟩ member
    obtain ⟨error, rfl⟩ := areErrors _ member
    exact Bool.false_ne_true

/-- Events that are not about PDUs. -/
theorem timeouts {value : Type} (reference : value -> UInt16)
    (values : List value) :
    Tells
      (values.map fun value =>
        (.event (.timeout (reference value)) : Notice Ticket))
      [] 0 where
  outcomes_eq := by
    rw [noticeOutcomes, List.filterMap_map]
    exact List.filterMap_eq_nil_iff.2 fun _ _ => rfl
  taken_eq := by
    rw [pdusTaken, List.countP_eq_zero, List.forall_mem_map]
    exact fun _ _ => Bool.false_ne_true

end Tells

theorem Dialogue.absorb_of_tells {dialogue : Dialogue Ticket}
    {step : SessionStep Ticket} (tells : Tells step.2 [] 0) :
    dialogue.absorb step = { dialogue with session := step.1 } := by
  rw [absorb, tells.outcomes_eq, tells.taken_eq, List.append_nil,
    List.drop_zero]

/-! ## Serving on -/

namespace Phase

variable {phase : Phase Ticket} {service : Service Ticket}

theorem eq_of_service? (serves : phase.service? = some service) :
    phase = .serving service
      ∨ ∃ reference datagram others,
        phase = .sending service reference datagram others := by
  cases phase with
  | serving other => exact .inl (congrArg _ (Option.some.inj serves))
  | sending other reference datagram others =>
      cases Option.some.inj serves
      exact .inr ⟨reference, datagram, others, rfl⟩
  | _ => cases serves

theorem service?_withService (serves : phase.service? = some service)
    (other : Service Ticket) :
    (phase.withService other).service? = some other := by
  obtain rfl | ⟨reference, datagram, others, rfl⟩ := eq_of_service? serves
  · rfl
  · rfl

end Phase

namespace Session

/-- A session serves on, and nothing else about it changed. -/
structure ServesOn (before after : Session Ticket)
    (service : Service Ticket) : Prop where
  serves : after.phase.service? = some service
  settings_eq : after.settings = before.settings
  inbound_eq : after.inbound = before.inbound
  cancelled_eq : after.cancelled = before.cancelled
  streamEnd_eq : after.streamEnd? = before.streamEnd?

variable {session : Session Ticket} {service : Service Ticket}

theorem servesOn_withService (serves : session.phase.service? = some service)
    (other : Service Ticket) :
    session.ServesOn (session.withService other) other :=
  ⟨Phase.service?_withService serves other, rfl, rfl, rfl, rfl⟩

theorem servesOn_sendNext (session : Session Ticket)
    (service : Service Ticket) (reference : UInt16) (datagrams : List Bytes) :
    session.ServesOn (session.sendNext service reference datagrams).1 service
      ∧ Tells (session.sendNext service reference datagrams).2 [] 0 := by
  cases datagrams with
  | nil => exact ⟨⟨rfl, rfl, rfl, rfl, rfl⟩, .nothing⟩
  | cons datagram others => exact ⟨⟨rfl, rfl, rfl, rfl, rfl⟩, .nothing⟩

theorem servesOn_afterDispatch (session : Session Ticket)
    (service : Service Ticket) {dispatch : Dispatch Ticket}
    (areErrors : ∀ outcome ∈ dispatch.outcomes,
      ∃ error, outcome.result = .error error) :
    session.ServesOn (session.afterDispatch service dispatch).1 service
      ∧ Tells (session.afterDispatch service dispatch).2 dispatch.outcomes
        0 := by
  cases dispatch with
  | skipped => exact ⟨⟨rfl, rfl, rfl, rfl, rfl⟩, .nothing⟩
  | refused outcome =>
      exact ⟨⟨rfl, rfl, rfl, rfl, rfl⟩, .failures areErrors⟩
  | sending reference datagrams =>
      exact session.servesOn_sendNext service reference datagrams

theorem servesOn_written (serves : session.phase.service? = some service) :
    session.ServesOn (session.hear (.written true)).1 service
      ∧ Tells (session.hear (.written true)).2 [] 0 := by
  obtain isServing | ⟨reference, datagram, others, isSending⟩ :=
    Phase.eq_of_service? serves
  · simp only [hear, isServing]
    exact ⟨⟨serves, rfl, rfl, rfl, rfl⟩, .nothing⟩
  · simp only [hear, isSending, afterSend, if_true]
    exact session.servesOn_sendNext service reference others

theorem servesOn_tick (serves : session.phase.service? = some service)
    (now : Nat) :
    session.ServesOn (session.tick now).1
        ((service.lapse now).1.expire now).1
      ∧ Tells (session.tick now).2
        ((service.lapse now).2
          ++ ((service.lapse now).1.expire now).2.map Prod.snd) 0 := by
  simp only [tick, serves]
  refine ⟨servesOn_withService serves _, ?_⟩
  have ended := Tells.failures (service.result_of_late now)
  have told := ended.append (.timeouts Prod.fst
    ((service.lapse now).1.expire now).2)
  rw [List.append_nil] at told
  exact told

/-- What a job is submitted as. -/
theorem submit_eq_ok {ticket : Ticket} {body : Body} {now : Nat}
    {after : Session Ticket}
    (serves : session.phase.service? = some service)
    (submitted : session.submit ticket body now = .ok after) :
    ∃ job later,
      job.ticket = ticket
        ∧ service.submit job = some later
        ∧ after = session.withService later := by
  unfold submit at submitted
  rw [serves] at submitted
  obtain ⟨pdu, -, submitted⟩ := exists_of_bind_eq_ok submitted
  split at submitted
  · cases submitted
  · dsimp only at submitted
    split at submitted
    · rename_i later isSubmitted
      cases Except.ok.inj submitted
      exact ⟨_, later, rfl, isSubmitted, rfl⟩
    · cases submitted

end Session

/-! ## Receiving a datagram -/

namespace Service

variable {service : Service Ticket} {next : Reassembler} {datagram : Datagram}
  {payload : Bytes} {isLast : Bool}

theorem receive_fragment
    (carries : fragment? datagram.content = some (payload, isLast)) :
    service.receive datagram.frame
      = match service.reassembler.push payload isLast with
        | (reassembler, .complete raw) =>
            receivePdu { service with reassembler } raw
        | (reassembler, .pending) => ({ service with reassembler }, .ignored)
        | (reassembler, .overflow length) =>
            ({ service with reassembler }, .overflowed length) := by
  obtain ⟨frame, parameters, parsed, isData, rfl, rfl⟩ :=
    exists_of_fragment? carries
  unfold receive Datagram.frame
  rw [parsed]
  simp only [isData]
  cases service.reassembler.push frame.payload parameters.endOfPdu with
  | mk reassembler joined => cases joined <;> rfl

/-- A PDU under the reference of a job ends the job. -/
theorem receive_answer {raw : Bytes} {pdu : Pdu} {ticket : Ticket}
    (carries : fragment? datagram.content = some (payload, isLast))
    (pushed :
      service.reassembler.push payload isLast = (next, .complete raw))
    (parsed : Pdu.parse raw = .ok pdu)
    (isPending : service.table.find? pdu.reference = some ticket) :
    ∃ after,
      service.receive datagram.frame
          = (after, .answered { ticket, result := .ok pdu })
        ∧ after.table = service.table.remove pdu.reference
        ∧ after.reassembler = next
        ∧ after.queue = service.queue
        ∧ {ticket} + after.tickets = service.tickets := by
  have resolved := JobTable.resolve_of_find?_eq_some isPending
  obtain ⟨released, table, reassembler, queue⟩ := release_frame
    { service with
      reassembler := next
      table := service.table.remove pdu.reference }
  refine ⟨_, ?_, table, reassembler, queue, ?_⟩
  · rw [receive_fragment carries, pushed]
    simp only [receivePdu, parsed, resolved]
  · rw [released]
    simp only [tickets]
    rw [(JobTable.strikes_remove isPending).tickets_eq]
    change _ = _ + ({ticket} + _)
    abel

/-- A PDU under any other reference is a miss. -/
theorem receive_miss {raw : Bytes} {pdu : Pdu}
    (carries : fragment? datagram.content = some (payload, isLast))
    (pushed :
      service.reassembler.push payload isLast = (next, .complete raw))
    (parsed : Pdu.parse raw = .ok pdu)
    (isFree : service.table.find? pdu.reference = none) :
    service.receive datagram.frame
      = ({ service with reassembler := next }, .missed pdu.reference) := by
  rw [receive_fragment carries, pushed]
  simp only [receivePdu, parsed, JobTable.resolve_of_find?_eq_none isFree]

end Service

end PlcLink
