import Mathlib
import PlcLink.Pdu.Basic
import PlcLink.Session.Reassembly
import PlcLink.Proofs.Framing.Datagrams

/-!
# PDUs in fragments

However a PDU is cut into data TPDUs, the reassembler joins it again, as long as
it stays below the ceiling and its fragments follow one another.
-/

namespace PlcLink

/-- The part of a PDU that a datagram carries, and whether it is the last. -/
def fragment? (datagram : Bytes) : Option (Bytes × Bool) :=
  match Frame.parse datagram with
  | .ok { tpdu := .data parameters, payload, .. } =>
      some (payload, parameters.endOfPdu)
  | _ => none

/-- The bytes of the PDU that datagrams carry, if just the last of them is
marked as the last. -/
def joined? : List Bytes -> Option Bytes
  | [] => none
  | datagram :: others =>
      match fragment? datagram with
      | some (payload, true) => if others = [] then some payload else none
      | some (payload, false) => (joined? others).map (payload ++ ·)
      | none => none

theorem exists_of_fragment? {datagram payload : Bytes} {isLast : Bool}
    (carries : fragment? datagram = some (payload, isLast)) :
    ∃ frame parameters,
      Frame.parse datagram = .ok frame
        ∧ frame.tpdu = .data parameters
        ∧ frame.payload = payload
        ∧ parameters.endOfPdu = isLast := by
  unfold fragment? at carries
  split at carries
  · rename_i parameters frameBytes parsed
    cases carries
    exact ⟨_, parameters, parsed, rfl, rfl, rfl⟩
  · cases carries

theorem framed_of_fragment? {datagram : Bytes} {part : Bytes × Bool}
    (carries : fragment? datagram = some part) : Framed datagram := by
  obtain ⟨frame, parameters, parsed, isData, -, -⟩ :=
    exists_of_fragment? carries
  exact Framed.of_parse parsed isData

/-- The ways in which datagrams can carry a PDU. -/
theorem joined?_cons {datagram raw : Bytes} {others : List Bytes}
    (joined : joined? (datagram :: others) = some raw) :
    (fragment? datagram = some (raw, true) ∧ others = [])
      ∨ ∃ payload rest,
        fragment? datagram = some (payload, false)
          ∧ joined? others = some rest
          ∧ raw = payload ++ rest := by
  rw [joined?] at joined
  split at joined
  · rename_i payload carries
    split at joined
    · rename_i isEnd
      cases joined
      exact .inl ⟨carries, isEnd⟩
    · cases joined
  · rename_i payload carries
    obtain ⟨rest, restJoined, rfl⟩ := Option.map_eq_some_iff.1 joined
    exact .inr ⟨payload, rest, carries, restJoined, rfl⟩
  · cases joined

theorem framed_of_joined? {datagrams : List Bytes} {raw : Bytes}
    (joined : joined? datagrams = some raw) :
    ∀ datagram ∈ datagrams, Framed datagram := by
  induction datagrams generalizing raw with
  | nil => simp
  | cons datagram others inductionHypothesis =>
      rw [List.forall_mem_cons]
      obtain ⟨carries, rfl⟩ | ⟨payload, rest, carries, restJoined, -⟩ :=
        joined?_cons joined
      · exact ⟨framed_of_fragment? carries, by simp⟩
      · exact ⟨framed_of_fragment? carries, inductionHypothesis restJoined⟩

namespace Reassembler

theorem ceiling_extend (reassembler : Reassembler) (begun payload : Bytes)
    (isLast : Bool) :
    (reassembler.extend begun payload isLast).1.ceiling
      = reassembler.ceiling := by
  unfold extend
  dsimp only
  split
  · rfl
  · split <;> rfl

theorem ceiling_push (reassembler : Reassembler) (payload : Bytes)
    (isLast : Bool) :
    (reassembler.push payload isLast).1.ceiling = reassembler.ceiling := by
  unfold push
  split
  · rfl
  · split
    · rfl
    · exact ceiling_extend _ _ _ _
  · exact ceiling_extend _ _ _ _

theorem ceiling_of_push {reassembler next : Reassembler} {payload : Bytes}
    {isLast : Bool} {joined : Reassembled}
    (pushed : reassembler.push payload isLast = (next, joined)) :
    next.ceiling = reassembler.ceiling := by
  rw [← reassembler.ceiling_push payload isLast, pushed]

/-- A PDU below the ceiling goes on, or ends with its last payload. -/
theorem extend_of_le {reassembler : Reassembler} {begun payload : Bytes}
    (fits : begun.length + payload.length ≤ reassembler.ceiling)
    (isLast : Bool) :
    reassembler.extend begun payload isLast
      = if isLast then
          ({ reassembler with state := .between },
            .complete (begun ++ payload))
        else
          ({ reassembler with state := .gathering (begun ++ payload) },
            .pending) := by
  unfold extend
  rw [if_neg (Nat.not_lt.2 fits)]

/-- Datagrams from which a reassembler reads just these PDUs, to stand between
two PDUs at their end. -/
inductive Reads : Reassembler -> List Bytes -> List Pdu -> Prop
  | done (ceiling : Nat) : Reads (.empty ceiling) [] []
  | complete {reassembler next : Reassembler} {datagram payload raw : Bytes}
      {isLast : Bool} {pdu : Pdu} {others : List Bytes} {pdus : List Pdu}
      (carries : fragment? datagram = some (payload, isLast))
      (pushed : reassembler.push payload isLast = (next, .complete raw))
      (parsed : Pdu.parse raw = .ok pdu)
      (later : Reads next others pdus) :
      Reads reassembler (datagram :: others) (pdu :: pdus)
  | pending {reassembler next : Reassembler} {datagram payload : Bytes}
      {isLast : Bool} {others : List Bytes} {pdus : List Pdu}
      (carries : fragment? datagram = some (payload, isLast))
      (pushed : reassembler.push payload isLast = (next, .pending))
      (later : Reads next others pdus) :
      Reads reassembler (datagram :: others) pdus

theorem Reads.append {reassembler : Reassembler}
    {datagrams further : List Bytes} {pdus furtherPdus : List Pdu}
    (reads : Reads reassembler datagrams pdus)
    (readsFurther : Reads (.empty reassembler.ceiling) further furtherPdus) :
    Reads reassembler (datagrams ++ further) (pdus ++ furtherPdus) := by
  induction reads with
  | done ceiling => exact readsFurther
  | complete carries pushed parsed _ inductionHypothesis =>
      rw [← ceiling_of_push pushed] at readsFurther
      exact .complete carries pushed parsed (inductionHypothesis readsFurther)
  | pending carries pushed _ inductionHypothesis =>
      rw [← ceiling_of_push pushed] at readsFurther
      exact .pending carries pushed (inductionHypothesis readsFurther)

/-- The rest of a PDU that was begun. -/
theorem reads_gathering {ceiling : Nat} {begun raw : Bytes} {pdu : Pdu}
    {datagrams : List Bytes}
    (joined : joined? datagrams = some raw)
    (fits : begun.length + raw.length ≤ ceiling)
    (parsed : Pdu.parse (begun ++ raw) = .ok pdu) :
    Reads { ceiling, state := .gathering begun } datagrams [pdu] := by
  induction datagrams generalizing begun raw with
  | nil => cases joined
  | cons datagram others inductionHypothesis =>
      obtain ⟨carries, rfl⟩ | ⟨payload, rest, carries, restJoined, rfl⟩ :=
        joined?_cons joined
      · exact .complete carries (extend_of_le fits true) parsed
          (.done ceiling)
      · rw [List.length_append] at fits
        have restFits : (begun ++ payload).length + rest.length ≤ ceiling := by
          rw [List.length_append]
          omega
        rw [← List.append_assoc] at parsed
        have payloadFits : begun.length + payload.length ≤ ceiling := by
          omega
        exact .pending carries (extend_of_le payloadFits false)
          (inductionHypothesis restJoined restFits parsed)

/-- A PDU is read from whatever datagrams carry it. -/
theorem reads_of_joined? {ceiling : Nat} {raw : Bytes} {pdu : Pdu}
    {datagrams : List Bytes}
    (joined : joined? datagrams = some raw)
    (fits : raw.length ≤ ceiling)
    (parsed : Pdu.parse raw = .ok pdu) :
    Reads (.empty ceiling) datagrams [pdu] := by
  cases datagrams with
  | nil => cases joined
  | cons datagram others =>
      obtain ⟨carries, rfl⟩ | ⟨payload, rest, carries, restJoined, rfl⟩ :=
        joined?_cons joined
      · exact .complete carries rfl parsed (.done ceiling)
      · rw [List.length_append] at fits
        have payloadFits :
            ([] : Bytes).length + payload.length ≤ (empty ceiling).ceiling := by
          change 0 + payload.length ≤ ceiling
          omega
        exact .pending carries (extend_of_le payloadFits false)
          (reads_gathering restJoined fits parsed)

end Reassembler
end PlcLink
