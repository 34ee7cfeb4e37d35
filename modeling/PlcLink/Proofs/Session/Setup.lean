import Mathlib
import PlcLink.Session.Opening
import PlcLink.Proofs.Failure
import PlcLink.Proofs.Session.Fragments
import PlcLink.Proofs.Session.Operation

/-!
# The setup response in fragments

A ready session joins the payloads of data TPDUs up to a marked one. A session
that negotiates does not: it reads the first payload as a whole PDU, marked or
not, and the others stay where they are. A response that is cut into more than
one nonempty payload is therefore refused.
-/

namespace PlcLink

/-! ## PDUs that are cut short -/

theorem Header.parse_append {input rest : Bytes} {header : Header}
    (parsed : Header.parse input = .ok (header, rest)) (more : Bytes) :
    Header.parse (input ++ more) = .ok (header, rest ++ more) := by
  unfold Header.parse at parsed
  split at parsed
  · rename_i first typeByte _ _ _ _ _ _ _ _ tail
    split at parsed
    · cases parsed
    · rename_i isIdentifier
      simp only [List.cons_append, Header.parse]
      rw [if_neg isIdentifier]
      split at parsed
      · cases parsed
      · rename_i type isType
        dsimp only at parsed
        split at parsed
        · rename_i hasErrorWord
          rw [if_pos hasErrorWord]
          split at parsed
          · cases parsed
            rfl
          · cases parsed
        · rename_i hasNoErrorWord
          cases parsed
          rw [if_neg hasNoErrorWord]
  · cases parsed

/-- No PDU is the beginning of another one. -/
theorem Pdu.append_eq_nil_of_parse {payload more : Bytes} {pdu whole : Pdu}
    (parsed : Pdu.parse payload = .ok pdu)
    (parsedWhole : Pdu.parse (payload ++ more) = .ok whole) : more = [] := by
  obtain ⟨⟨header, rest⟩, isHeader, parsed⟩ := exists_of_bind_eq_ok parsed
  obtain ⟨⟨sameHeader, longer⟩, isSame, parsedWhole⟩ :=
    exists_of_bind_eq_ok parsedWhole
  rw [Header.parse_append isHeader more] at isSame
  cases isSame
  dsimp only at parsed parsedWhole
  split at parsed
  · cases parsed
  · rename_i fills
    split at parsedWhole
    · cases parsedWhole
    · rename_i fillsLonger
      rw [List.length_append] at fillsLonger
      exact List.length_eq_zero_iff.mp (by omega)

namespace Session

variable {Ticket : Type}

/-- The setup in the bytes of a PDU. -/
def setupOf (raw : Bytes) : Except Error Setup := do
  let pdu <- Pdu.parse raw
  pdu.checkHeader
  match <- pdu.decode with
  | .setupResponse granted => return granted
  | _ => .error .unexpectedPdu

/-- A session that negotiates takes a fragment for a whole PDU. -/
theorem grantedSetup_eq {datagram : Datagram} {payload : Bytes}
    {isLast : Bool}
    (carries : fragment? datagram.content = some (payload, isLast)) :
    grantedSetup datagram = setupOf payload := by
  obtain ⟨frame, parameters, parsed, isData, rfl, -⟩ :=
    exists_of_fragment? carries
  change (Frame.parse datagram.content).bind _ = _
  rw [parsed]
  dsimp only [Except.bind]
  rw [isData]
  rfl

/-- What negotiating leads to. -/
def negotiated : Except Error (Service Ticket) -> Phase Ticket
  | .ok service => .serving service
  | .error error => .ended (.error error)

theorem readyService_eq {datagram alone : Datagram} {payload : Bytes}
    {isLast : Bool} (settings : SessionSettings) (frameSize : Nat)
    (carries : fragment? datagram.content = some (payload, isLast))
    (carriesAlone : fragment? alone.content = some (payload, true)) :
    (readyService settings frameSize datagram : Except Error (Service Ticket))
      = readyService settings frameSize alone := by
  rw [readyService, readyService, grantedSetup_eq carries,
    grantedSetup_eq carriesAlone]

/-- The beginning of a setup response is none. -/
theorem exists_error_of_cut {datagram whole : Datagram}
    {payload more : Bytes} {isLast : Bool} {granted : Setup}
    (carries : fragment? datagram.content = some (payload, isLast))
    (carriesWhole : fragment? whole.content = some (payload ++ more, true))
    (isCut : more ≠ [])
    (isGranted : grantedSetup whole = .ok granted) :
    ∃ error, grantedSetup datagram = .error error := by
  rw [grantedSetup_eq carriesWhole] at isGranted
  obtain ⟨pdu, isWhole, -⟩ := exists_of_bind_eq_ok isGranted
  rw [grantedSetup_eq carries]
  cases parsed : Pdu.parse payload with
  | error error =>
      refine ⟨error, ?_⟩
      rw [setupOf, parsed]
      rfl
  | ok begun =>
      exact absurd (Pdu.append_eq_nil_of_parse parsed isWhole) isCut

section

variable (session : Session Ticket)
  (outcome : Except Error (Service Ticket))
  (events : Service Ticket -> List SessionEvent)

/-- A session that negotiated serves, or ends with the error. -/
theorem phase_orFail :
    (session.orFail outcome fun service =>
      session.enterState (.serving service) (events service)).1.phase
      = negotiated outcome := by
  cases outcome <;> rfl

theorem inbound_orFail :
    (session.orFail outcome fun service =>
      session.enterState (.serving service) (events service)).1.inbound
      = session.inbound := by
  cases outcome <;> rfl

end

/-- A session whose peer sent all fragments of a setup response. -/
theorem exists_arrival {session : Session Ticket} {first : Bytes}
    {others : List Bytes}
    (holds : session.inbound.Holds [] (first :: others)) :
    ∃ datagram inbound,
      session.arrival = (.datagram datagram, { session with inbound })
        ∧ datagram.content = first ∧ inbound.Holds [] others := by
  obtain ⟨datagram, later, inbound, isSplit, asked, left⟩ | ⟨_, -, -, none⟩ :=
    holds.next
  · cases isSplit
    refine ⟨datagram, inbound, ?_, rfl, left⟩
    rw [arrival, asked]
  · cases none rfl

/-- A session that negotiates reads the first fragment of a PDU as it would read
a PDU that is no longer, and leaves the others unread. If the whole PDU is a
setup response that it would accept, it refuses any that is cut short. -/
theorem awaitSetup_of_joined {session : Session Ticket} {frameSize : Nat}
    {first raw payload : Bytes} {others later : List Bytes} {isLast : Bool}
    (holds : session.inbound.Holds [] (first :: (others ++ later)))
    (joined : joined? (first :: others) = some raw)
    (carries : fragment? first = some (payload, isLast)) :
    ∃ step, session.awaitSetup frameSize = some step
      ∧ step.1.inbound.Holds [] (others ++ later)
      ∧ (∀ alone, fragment? alone.content = some (payload, true) →
        step.1.phase
          = negotiated (readyService session.settings frameSize alone))
      ∧ (payload ≠ raw → ∀ whole granted,
        fragment? whole.content = some (raw, true) →
          grantedSetup whole = .ok granted →
            ∃ error, step.1.phase = .ended (.error error)) := by
  obtain ⟨datagram, inbound, arrived, rfl, left⟩ := exists_arrival holds
  have awaited : session.awaitSetup frameSize
      = some ({ session with inbound }.orFail
        (readyService session.settings frameSize datagram) fun service =>
          { session with inbound }.enterState (.serving service)
            [.negotiated service.context]) := by
    rw [awaitSetup, arrived]
  refine ⟨_, awaited, ?_, ?_, ?_⟩
  · rw [inbound_orFail]
    exact left
  · intro alone carriesAlone
    rw [phase_orFail, readyService_eq _ _ carries carriesAlone]
  · intro isCut whole granted carriesWhole isGranted
    obtain ⟨carriesAll, -⟩ | ⟨begun, rest, carriesBegun, -, rfl⟩ :=
      joined?_cons joined
    · cases carries.symm.trans carriesAll
      exact absurd rfl isCut
    · cases carries.symm.trans carriesBegun
      have hasRest : rest ≠ [] := by
        rintro rfl
        exact isCut (List.append_nil _).symm
      obtain ⟨error, refused⟩ :=
        exists_error_of_cut carries carriesWhole hasRest isGranted
      refine ⟨error, ?_⟩
      rw [phase_orFail, readyService, refused]
      rfl

end Session

/-! ## A setup response in two fragments -/

namespace CutSetup

open TwoBytes

def response : Bytes :=
  [0x32, 0x03, 0, 0, 0, 0, 0, 8, 0, 0, 0, 0, 0xF0, 0, 0, 8, 0, 8, 0, 0xF0]

def first : Bytes := [0x03, 0, 0, 17, 2, 0xF0, 0x00] ++ response.take 10

def second : Bytes := [0x03, 0, 0, 17, 2, 0xF0, 0x80] ++ response.drop 10

def whole : Datagram :=
  { policy := Registry.anyTpdu
    content := [0x03, 0, 0, 27, 2, 0xF0, 0x80] ++ response }

/-- A session that sent the setup request and received some datagrams. -/
def negotiating (datagrams : List Bytes) : Session Nat :=
  { session with
    phase := .negotiating context.frameSize
    inbound := Inbound.empty.feed datagrams.flatten }

end CutSetup

open CutSetup TwoBytes in
theorem Session.awaitSetup_of_joined_cutSetup :
    joined? [first, second] = some response
      ∧ ∃ step, (negotiating [first, second]).awaitSetup context.frameSize
          = some step
        ∧ step.1.inbound.Holds [] [second]
        ∧ ∃ error, step.1.phase = .ended (.error error) := by
  have joined : joined? [first, second] = some response := by decide +kernel
  have carries : fragment? first = some (response.take 10, false) := by
    decide +kernel
  have holds : (negotiating [first, second]).inbound.Holds []
      (first :: ([second] ++ [])) :=
    ⟨[first, second], rfl, framed_of_joined? joined, List.append_nil _⟩
  obtain ⟨step, awaited, left, -, refused⟩ :=
    awaitSetup_of_joined holds joined carries
  refine ⟨joined, step, awaited, left, refused (by decide) whole
    { calling := 8, called := 8, pduSize := 240 } ?_ ?_⟩
  · decide +kernel
  · decide +kernel

open CutSetup TwoBytes in
/-- The same response makes a session ready if it comes in one datagram, and
fails it if it comes in two. -/
theorem Session.awaitSetup_cutSetup :
    joined? [first, second] = joined? [whole.content]
      ∧ ((negotiating [whole.content]).awaitSetup context.frameSize).map
          (fun step => step.1.state) = some .ready
      ∧ ((negotiating [first, second]).awaitSetup context.frameSize).map
          (fun step => step.1.state) = some .failed := by
  decide +kernel

end PlcLink
