import Mathlib
import PlcLink.Proofs.Session.Engagement
import PlcLink.Proofs.Session.Operation

/-!
# What a ready session disregards

A peer may put in what means nothing to a ready session: datagrams that cannot
be read, TPDUs of the handshake, and between two PDUs whole ones that are too
long, cannot be read, or answer no job. The session goes on as if they had not
come. Of all datagrams, only a request to disconnect ends the connection.
-/

namespace PlcLink

variable {Ticket : Type}

/-! ## Datagrams that change nothing -/

/-- Whether a datagram cannot be read or belongs to the handshake. -/
def Datagram.isStray (datagram : Datagram) : Bool :=
  match datagram.frame with
  | .error _ => true
  | .ok { tpdu := .connectRequest _, .. } => true
  | .ok { tpdu := .connectConfirm _, .. } => true
  | .ok _ => false

/-- Whether a frame neither ended a job nor the connection. -/
def Reception.isQuiet : Reception Ticket -> Bool
  | .ignored | .missed _ | .overflowed _ => true
  | .answered _ | .disconnected => false

namespace Service

variable {service middle after : Service Ticket}

/-- Bytes that are no PDU, or one under a reference without a job. -/
def Unawaited (service : Service Ticket) (raw : Bytes) : Prop :=
  ∀ pdu, Pdu.parse raw = .ok pdu →
    service.table.find? pdu.reference = none

instance (service : Service Ticket) (raw : Bytes) :
    Decidable (service.Unawaited raw) :=
  match parsed : Pdu.parse raw with
  | .error _ => isTrue fun _ isPdu => nomatch parsed.symm.trans isPdu
  | .ok pdu =>
      decidable_of_iff (service.table.find? pdu.reference = none)
        ⟨fun isFree _ isPdu =>
          Except.ok.inj (parsed.symm.trans isPdu) ▸ isFree,
          fun unawaited => unawaited pdu parsed⟩

/-- A whole PDU that comes between two others and is useless: it is too long,
or nothing awaits it. A PDU in a single datagram is never too long. -/
def Useless (service : Service Ticket) (datagrams : List Datagram) : Prop :=
  service.reassembler.state = .between
    ∧ ∃ raw ∈ joined? (datagrams.map Datagram.content),
      1 < datagrams.length ∧ service.reassembler.ceiling < raw.length
        ∨ service.Unawaited raw

instance (service : Service Ticket) (datagrams : List Datagram) :
    Decidable (service.Useless datagrams) :=
  inferInstanceAs (Decidable (_ ∧ _))

/-- Datagrams that leave a service as it is: stray ones at any time, and those
of a useless PDU. -/
def Junk (service : Service Ticket) (datagrams : List Datagram) : Prop :=
  (∀ datagram ∈ datagrams, datagram.isStray = true)
    ∨ service.Useless datagrams

instance (service : Service Ticket) (datagrams : List Datagram) :
    Decidable (service.Junk datagrams) :=
  inferInstanceAs (Decidable (_ ∨ _))

/-- A service takes datagrams one after the other, none of which ends a job or
the connection. -/
inductive Passes :
    Service Ticket -> List Datagram -> Service Ticket -> Prop
  | done (service : Service Ticket) : Passes service [] service
  | next {service middle after : Service Ticket} {datagram : Datagram}
      {others : List Datagram} {reception : Reception Ticket}
      (received : service.receive datagram.frame = (middle, reception))
      (isQuiet : reception.isQuiet = true)
      (later : Passes middle others after) :
      Passes service (datagram :: others) after

theorem receive_stray {datagram : Datagram}
    (isStray : datagram.isStray = true) :
    service.receive datagram.frame = (service, .ignored) := by
  unfold Datagram.isStray at isStray
  unfold receive
  split at isStray
  · rename_i unreadable
    rw [unreadable]
  · rename_i readable
    rw [readable]
  · rename_i readable
    rw [readable]
  · cases isStray

theorem receivePdu_of_unawaited {raw : Bytes}
    (unawaited : service.Unawaited raw) :
    ∃ reception : Reception Ticket,
      service.receivePdu raw = (service, reception)
        ∧ reception.isQuiet = true := by
  unfold receivePdu
  split
  · exact ⟨.ignored, rfl, rfl⟩
  · rename_i pdu parsed
    rw [JobTable.resolve_of_find?_eq_none (unawaited pdu parsed)]
    exact ⟨.missed pdu.reference, rfl, rfl⟩

section

variable {datagram : Datagram} {payload : Bytes} {isLast : Bool}
  {next : Reassembler}

theorem receive_pending
    (carries : fragment? datagram.content = some (payload, isLast))
    (pushed : service.reassembler.push payload isLast = (next, .pending)) :
    service.receive datagram.frame
      = ({ service with reassembler := next }, .ignored) := by
  rw [receive_fragment carries, pushed]

theorem receive_overflow {length : Nat}
    (carries : fragment? datagram.content = some (payload, isLast))
    (pushed :
      service.reassembler.push payload isLast = (next, .overflow length)) :
    service.receive datagram.frame
      = ({ service with reassembler := next }, .overflowed length) := by
  rw [receive_fragment carries, pushed]

theorem receive_complete {raw : Bytes}
    (carries : fragment? datagram.content = some (payload, isLast))
    (pushed :
      service.reassembler.push payload isLast = (next, .complete raw)) :
    service.receive datagram.frame
      = receivePdu { service with reassembler := next } raw := by
  rw [receive_fragment carries, pushed]

end

/-- The rest of a PDU that is dropped. -/
theorem passes_dropping {ceiling : Nat} {rest : Bytes}
    {datagrams : List Datagram}
    (dropping : service.reassembler = { ceiling, state := .dropping })
    (joined : joined? (datagrams.map Datagram.content) = some rest) :
    service.Passes datagrams
      { service with reassembler := .empty ceiling } := by
  induction datagrams generalizing rest with
  | nil => cases joined
  | cons datagram others inductionHypothesis =>
      obtain ⟨carries, isEnd⟩ | ⟨payload, later, carries, restJoined, -⟩ :=
        joined?_cons joined
      · have pushed : service.reassembler.push rest true
            = (.empty ceiling, .pending) := by
          rw [dropping]
          rfl
        rw [List.map_eq_nil_iff.1 isEnd]
        exact .next (receive_pending carries pushed) rfl (.done _)
      · have pushed : service.reassembler.push payload false
            = (service.reassembler, .pending) := by
          rw [dropping]
          rfl
        exact .next (receive_pending carries pushed) rfl
          (inductionHypothesis restJoined)

/-- The rest of a PDU that was begun, if the whole grows too long or nothing
awaits it. -/
theorem passes_gathering {ceiling : Nat} {begun rest : Bytes}
    {datagrams : List Datagram}
    (gathering : service.reassembler = { ceiling, state := .gathering begun })
    (joined : joined? (datagrams.map Datagram.content) = some rest)
    (useless : ceiling < (begun ++ rest).length
      ∨ service.Unawaited (begun ++ rest)) :
    service.Passes datagrams
      { service with reassembler := .empty ceiling } := by
  induction datagrams generalizing service begun rest with
  | nil => cases joined
  | cons datagram others inductionHypothesis =>
      obtain ⟨carries, isEnd⟩ | ⟨payload, later, carries, restJoined, rfl⟩ :=
        joined?_cons joined
      · rw [List.map_eq_nil_iff.1 isEnd]
        by_cases tooLong : ceiling < begun.length + rest.length
        · have pushed : service.reassembler.push rest true
              = (.empty ceiling, .overflow (begun.length + rest.length)) := by
            rw [gathering]
            exact if_pos tooLong
          exact .next (receive_overflow carries pushed) rfl (.done _)
        · have pushed : service.reassembler.push rest true
              = (.empty ceiling, .complete (begun ++ rest)) := by
            rw [gathering]
            exact if_neg tooLong
          rw [List.length_append] at useless
          have unawaited :
              Unawaited { service with reassembler := .empty ceiling }
                (begun ++ rest) :=
            useless.resolve_left tooLong
          obtain ⟨reception, received, isQuiet⟩ :=
            receivePdu_of_unawaited unawaited
          exact .next ((receive_complete carries pushed).trans received)
            isQuiet (.done _)
      · by_cases tooLong : ceiling < begun.length + payload.length
        · have pushed : service.reassembler.push payload false
              = ({ ceiling, state := .dropping },
                .overflow (begun.length + payload.length)) := by
            rw [gathering]
            exact if_pos tooLong
          exact .next (receive_overflow carries pushed) rfl
            (passes_dropping rfl restJoined)
        · have pushed : service.reassembler.push payload false
              = ({ ceiling, state := .gathering (begun ++ payload) },
                .pending) := by
            rw [gathering]
            exact if_neg tooLong
          rw [← List.append_assoc] at useless
          have later : Passes
              { service with
                reassembler :=
                  { ceiling, state := .gathering (begun ++ payload) } }
              others { service with reassembler := .empty ceiling } :=
            inductionHypothesis rfl restJoined useless
          exact .next (receive_pending carries pushed) rfl later

theorem Useless.passes {datagrams : List Datagram}
    (useless : service.Useless datagrams) :
    service.Passes datagrams service := by
  obtain ⟨between, raw, joined, useless⟩ := useless
  have atRest : service.reassembler
      = .empty service.reassembler.ceiling := by
    rw [Reassembler.empty, ← between]
  cases datagrams with
  | nil => cases joined
  | cons datagram others =>
      obtain ⟨carries, isEnd⟩ | ⟨payload, later, carries, restJoined, rfl⟩ :=
        joined?_cons joined
      · rw [List.map_eq_nil_iff.1 isEnd] at useless ⊢
        have pushed : service.reassembler.push raw true
            = (service.reassembler, .complete raw) := by
          rw [atRest]
          rfl
        have unawaited : service.Unawaited raw :=
          useless.resolve_left fun tooLong => absurd tooLong.1 (lt_irrefl 1)
        obtain ⟨reception, received, isQuiet⟩ :=
          receivePdu_of_unawaited unawaited
        exact .next ((receive_complete carries pushed).trans received) isQuiet
          (.done _)
      · -- The first part is taken as if no bytes had been gathered before.
        let begun : Service Ticket :=
          { service with
            reassembler :=
              { service.reassembler with state := .gathering [] } }
        have pushed : service.reassembler.push payload false
            = begun.reassembler.push payload false := by
          rw [Reassembler.push, between]
          rfl
        have same : service.receive datagram.frame
            = begun.receive datagram.frame := by
          rw [receive_fragment carries, receive_fragment carries, pushed]
        have passes : begun.Passes (datagram :: others)
            { service with
              reassembler := .empty service.reassembler.ceiling } :=
          passes_gathering rfl joined (useless.imp_left And.right)
        rw [← atRest] at passes
        cases passes with
        | next received isQuiet later =>
            exact .next (same.trans received) isQuiet later

theorem passes_strays {datagrams : List Datagram}
    (areStray : ∀ datagram ∈ datagrams, datagram.isStray = true) :
    service.Passes datagrams service := by
  induction datagrams with
  | nil => exact .done service
  | cons datagram others inductionHypothesis =>
      obtain ⟨isStray, othersStray⟩ := List.forall_mem_cons.1 areStray
      exact .next (receive_stray isStray) rfl
        (inductionHypothesis othersStray)

/-- Only a frame that asks to disconnect is taken as one. -/
theorem exists_of_receive_disconnected {datagram : Datagram}
    (received : service.receive datagram.frame = (after, .disconnected)) :
    ∃ frame parameters,
      datagram.frame = .ok frame
        ∧ frame.tpdu = .disconnectRequest parameters := by
  unfold receive at received
  split at received
  · cases received
  · rename_i frame readable
    split at received
    · dsimp only at received
      split at received
      · exact absurd (congrArg Prod.snd received)
          (receivePdu_ne_disconnected _ _)
      · cases received
      · cases received
    · rename_i parameters isRequest
      exact ⟨frame, parameters, readable, isRequest⟩
    · cases received

end Service

/-! ## A session that takes turns -/

namespace Phase

variable {phase : Phase Ticket}

theorem eq_of_serving? {service : Service Ticket}
    (isServing : phase.serving? = some service) : phase = .serving service := by
  cases phase with
  | serving other => exact congrArg _ (Option.some.inj isServing)
  | _ => cases isServing

instance : DecidablePred (IsDown : Phase Ticket -> Prop)
  | departing _ | ended _ => isTrue trivial
  | idle | resolving | connecting _ _ | requesting _ _ | confirming _
  | proposing _ _ | negotiating _ | serving _ | sending _ _ _ _ =>
      isFalse not_false

end Phase

/-- What a ready session does at a time: it takes a datagram of its peer, or it
makes a move. -/
inductive Turn (Ticket : Type)
  | datagram (datagram : Datagram)
  | move (move : SessionMove Ticket)

namespace Session

/-- Take a datagram, unless a job is being written. Nobody takes any more
after the session left off. -/
def meet? (session : Session Ticket) (datagram : Datagram) :
    Option (SessionStep Ticket) :=
  match session.phase with
  | .serving service =>
      let (service, reception) := service.receive datagram.frame
      some (session.afterReception service reception)
  | .departing _ | .ended _ => some (session, [])
  | _ => none

variable [DecidableEq Ticket] {session : Session Ticket}

omit [DecidableEq Ticket] in
theorem phase_arrival (session : Session Ticket) :
    session.arrival.2.phase = session.phase := by
  unfold arrival
  split <;> rfl

/-- A session that looks takes the datagram that came first. -/
theorem move?_look {after : Session Ticket} {service : Service Ticket}
    {datagram : Datagram}
    (isServing : session.phase = .serving service)
    (arrived : session.arrival = (.datagram datagram, after)) :
    session.move? .look = after.meet? datagram := by
  have phase : after.phase = .serving service := by
    rw [← isServing, ← session.phase_arrival, arrived]
  simp only [move?, meet?, isServing, phase, Phase.serving?,
    Option.bind_some, arrived]

/-- Take one turn, if that is possible. -/
def turn? (session : Session Ticket) :
    Turn Ticket -> Option (SessionStep Ticket)
  | .datagram datagram => session.meet? datagram
  | .move move => session.move? move

/-- Take turns one after the other, and tell the outcomes of the jobs that
ended, in that order. -/
def takeTurns? (session : Session Ticket) :
    List (Turn Ticket) -> Option (Session Ticket × List (Outcome Ticket))
  | [] => some (session, [])
  | turn :: turns =>
      (session.turn? turn).bind fun step =>
        (step.1.takeTurns? turns).map fun (last, told) =>
          (last, noticeOutcomes step.2 ++ told)

theorem takeTurns?_append (first second : List (Turn Ticket)) :
    session.takeTurns? (first ++ second)
      = (session.takeTurns? first).bind fun (reached, told) =>
          (reached.takeTurns? second).map fun (last, later) =>
            (last, told ++ later) := by
  induction first generalizing session with
  | nil => simp [takeTurns?]
  | cons turn turns inductionHypothesis =>
      simp only [List.cons_append, takeTurns?]
      cases session.turn? turn with
      | none => rfl
      | some step =>
          simp only [Option.bind_some, inductionHypothesis]
          cases step.1.takeTurns? turns with
          | none => rfl
          | some course =>
              obtain ⟨reached, told⟩ := course
              simp only [Option.bind_some, Option.map_some, Option.map_map]
              simp only [Function.comp_def, List.append_assoc]

/-- Datagrams with which a session does nothing: junk while it serves, and any
after it left off. -/
def Disregards (session : Session Ticket) (datagrams : List Datagram) : Prop :=
  (∃ service ∈ session.phase.serving?, service.Junk datagrams)
    ∨ session.phase.IsDown

instance (session : Session Ticket) (datagrams : List Datagram) :
    Decidable (session.Disregards datagrams) :=
  inferInstanceAs (Decidable (_ ∨ _))

theorem takeTurns?_of_passes {service after : Service Ticket}
    {datagrams : List Datagram} (passes : service.Passes datagrams after)
    (isServing : session.phase = .serving service)
    (turns : List (Turn Ticket)) :
    session.takeTurns? (datagrams.map .datagram ++ turns)
      = takeTurns? { session with phase := .serving after } turns := by
  induction passes generalizing session with
  | done service =>
      rw [← isServing]
      rfl
  | @next service middle after datagram others reception received isQuiet later
      inductionHypothesis =>
      have met : ∃ notices, session.meet? datagram
            = some ({ session with phase := .serving middle }, notices)
          ∧ noticeOutcomes notices = [] := by
        simp only [meet?, isServing, received]
        cases reception with
        | answered outcome => cases isQuiet
        | disconnected => cases isQuiet
        | _ => exact ⟨_, rfl, rfl⟩
      obtain ⟨notices, met, nothingTold⟩ := met
      have goesOn : takeTurns? { session with phase := .serving middle }
            (others.map .datagram ++ turns)
          = takeTurns? { session with phase := .serving after } turns :=
        inductionHypothesis rfl
      simp only [List.map_cons, List.cons_append, takeTurns?, turn?, met,
        Option.bind_some, nothingTold, List.nil_append]
      rw [goesOn]
      exact Option.map_id'

theorem takeTurns?_of_isDown (isDown : session.phase.IsDown)
    (datagrams : List Datagram) (turns : List (Turn Ticket)) :
    session.takeTurns? (datagrams.map .datagram ++ turns)
      = session.takeTurns? turns := by
  have met : ∀ datagram, session.meet? datagram = some (session, []) := by
    intro datagram
    obtain ⟨farewell, phase⟩ | ⟨result, phase⟩ := isDown.eq
    · rw [meet?, phase]
    · rw [meet?, phase]
  induction datagrams with
  | nil => rfl
  | cons datagram others inductionHypothesis =>
      simp only [List.map_cons, List.cons_append, takeTurns?, turn?, met,
        Option.bind_some, noticeOutcomes_nil, List.nil_append]
      rw [inductionHypothesis]
      exact Option.map_id'

theorem Disregards.takeTurns?_eq {datagrams : List Datagram}
    (disregards : session.Disregards datagrams) (turns : List (Turn Ticket)) :
    session.takeTurns? (datagrams.map .datagram ++ turns)
      = session.takeTurns? turns := by
  obtain ⟨service, isServing, junk⟩ | isDown := disregards
  · have phase := Phase.eq_of_serving? isServing
    have passes : service.Passes datagrams service :=
      junk.elim Service.passes_strays Service.Useless.passes
    rw [takeTurns?_of_passes passes phase, ← phase]
  · exact takeTurns?_of_isDown isDown datagrams turns

/-- More turns than others, because at one place datagrams were put in with
which the session does nothing there. -/
inductive Pads (session : Session Ticket) :
    List (Turn Ticket) -> List (Turn Ticket) -> Prop
  | intro (before after : List (Turn Ticket)) (datagrams : List Datagram)
      (disregards : ∀ reached told,
        session.takeTurns? before = some (reached, told) →
          reached.Disregards datagrams) :
      Pads session (before ++ after)
        (before ++ datagrams.map .datagram ++ after)

theorem Pads.takeTurns?_eq {turns more : List (Turn Ticket)}
    (pads : session.Pads turns more) :
    session.takeTurns? more = session.takeTurns? turns := by
  obtain ⟨before, after, datagrams, disregards⟩ := pads
  rw [List.append_assoc, takeTurns?_append, takeTurns?_append]
  refine Option.bind_congr ?_
  rintro ⟨reached, told⟩ isReached
  exact congrArg (Option.map _)
    ((disregards reached told isReached).takeTurns?_eq after)

omit [DecidableEq Ticket] in
/-- A datagram after which a session serves no more asks to disconnect. -/
theorem exists_of_meet? {service : Service Ticket} {datagram : Datagram}
    {step : SessionStep Ticket}
    (isServing : session.phase = .serving service)
    (met : session.meet? datagram = some step)
    (ends : step.1.phase.service? = none) :
    ∃ frame parameters,
      datagram.frame = .ok frame
        ∧ frame.tpdu = .disconnectRequest parameters := by
  simp only [meet?, isServing, Option.some.injEq] at met
  subst met
  cases received : service.receive datagram.frame with
  | mk after reception =>
      rw [received] at ends
      cases reception with
      | disconnected => exact Service.exists_of_receive_disconnected received
      | _ => cases ends

end Session

/-! ## A reply among other datagrams -/

namespace Interference

open TwoBytes

def received (contents : List Bytes) : List Datagram :=
  contents.map fun content => { policy := Registry.anyTpdu, content }

/-- A byte is asked for. -/
def request : List (Turn Nat) :=
  [.move (.submit 0 (.readRequest (specs.take 1)) 0), .move (.enqueue 0),
    .move (.dispatch 0), .move (.hear (.written true))]

/-- The reply to it, in two datagrams. -/
def answer : List (Turn Nat) :=
  (received (datagrams ((reply 7).withReference 1))).map .datagram

/-- A reply to nobody. -/
def astray : List Datagram :=
  received (datagrams ((reply 8).withReference 9))

/-- Two parts of a PDU of 80 bytes. -/
def first : Datagram :=
  { policy := Registry.anyTpdu
    content := [0x03, 0, 0, 47, 2, 0xF0, 0x00] ++ List.replicate 40 0 }

def second : Datagram :=
  { policy := Registry.anyTpdu
    content := [0x03, 0, 0, 47, 2, 0xF0, 0x80] ++ List.replicate 40 0 }

/-- A datagram without a TPDU, and a confirm. -/
def strays : List Datagram :=
  received [[0x03, 0, 0, 4], [0x03, 0, 0, 11, 6, 0xD0, 0, 0, 0, 1, 0]]

def undisturbed : List (Turn Nat) :=
  request ++ answer

def disturbed : List (Turn Nat) :=
  astray.map .datagram ++ request ++ [.datagram first]
    ++ strays.map .datagram ++ (.datagram second :: answer)

end Interference

end PlcLink
