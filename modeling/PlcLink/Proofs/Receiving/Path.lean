import Mathlib
import PlcLink.Proofs.Calendar.Decimal
import PlcLink.Proofs.Framing.Noise
import PlcLink.Proofs.Receiving.Extraction
import PlcLink.Proofs.Receiving.Frames
import PlcLink.Proofs.Receiving.Pdus
import PlcLink.Proofs.Receiving.Services
import PlcLink.Proofs.Session.Fragments

/-!
# The receive path

Whatever a peer sends, every step from the stream to the values that were read
can be taken: datagrams come out of the stream or its bytes are dropped,
payloads are joined or dropped, and everything else is a value or an error.
-/

namespace PlcLink
namespace Guarded

/-! ## Bytes of any kind -/

/-- A guarded computation comes to what its function comes to, a value or an
error, and to no fault. -/
structure Agrees {value : Type} (guarded : Guarded value)
    (plain : Except Error value) : Prop where
  same : guarded = ofResult plain
  sound : ∀ fault, guarded ≠ crash fault

theorem agrees_of_eq {value : Type} {guarded : Guarded value}
    {plain : Except Error value} (same : guarded = ofResult plain) :
    Agrees guarded plain :=
  ⟨same, ne_crash_of_eq_ofResult same⟩

/-- The fields of a datagram, a frame, a PDU and what the parts of a PDU hold
can be read from these bytes, with a value or an error. -/
structure Readable (bytes : Bytes) : Prop where
  fields : ∀ policy, attributes policy bytes = .ok (policy.attributes bytes)
  frame : Agrees (readFrame bytes) (Frame.parse bytes)
  pdu : Agrees (readPdu bytes) (Pdu.parse bytes)
  parameter : Agrees (readParameter bytes) (UserData.Parameter.parse bytes)
  block : Agrees (readBlockInfo bytes) (BlockInfo.parse bytes)
  alarms : Agrees (readAlarms bytes) (Alarm.parseAll bytes)
  clock : Agrees (readClock bytes) (Clock.parse bytes)
  time : readDecimalTime bytes = .ok (DecimalTime.decode? bytes)
  stamp : readBlockStamp bytes = .ok (BlockStamp.decode? bytes)

theorem readable (bytes : Bytes) : Readable bytes where
  fields policy := attributes_eq policy bytes
  frame := agrees_of_eq (readFrame_eq bytes)
  pdu := agrees_of_eq (readPdu_eq bytes)
  parameter := agrees_of_eq (readParameter_eq bytes)
  block := agrees_of_eq (readBlockInfo_eq bytes)
  alarms := agrees_of_eq (readAlarms_eq bytes)
  clock := agrees_of_eq (readClock_eq bytes)
  time := readDecimalTime_eq bytes
  stamp := readBlockStamp_eq bytes

/-! ## Payloads of a stream -/

/-- A TPDU takes its payload from the end of what it was read from. -/
theorem length_of_parse_tpdu {body payload : Bytes} {tpdu : Tpdu}
    (parsed : Tpdu.parse body = .ok (tpdu, payload)) :
    payload.length ≤ body.length := by
  match body with
  | [] | [_] => cases parsed
  | indicator :: typeByte :: rest =>
      unfold Tpdu.parse at parsed
      dsimp only at parsed
      split at parsed
      · cases parsed
      · split at parsed
        · cases parsed
        · obtain ⟨read, -, parsed⟩ := exists_of_bind_eq_ok parsed
          cases Except.ok.inj parsed
          simp only [List.length_drop, List.length_cons]
          omega

/-- A header announces the length of its datagram in a word. -/
theorem length_of_parse_tpkt {input body : Bytes} {header : Tpkt}
    (parsed : Tpkt.parse input = .ok (header, body)) :
    body.length ≤ input.length ∧ input.length < 2 ^ 16 := by
  unfold Tpkt.parse at parsed
  split at parsed
  · rename_i high low rest
    have announced := (Word.ofBytes16 high low).toNat_lt
    dsimp only at parsed
    split at parsed
    · cases parsed
    · split at parsed
      · cases parsed
      · rename_i isLength
        cases Except.ok.inj parsed
        simp only [Tpkt.headerLength, not_not] at isLength
        simp only [List.length_cons]
        omega
  · cases parsed

/-- A payload is a part of its datagram, and short. -/
theorem length_of_fragment? {datagram payload : Bytes} {isLast : Bool}
    (carries : fragment? datagram = some (payload, isLast)) :
    payload.length ≤ datagram.length ∧ payload.length < 2 ^ 16 := by
  obtain ⟨frame, parameters, parsed, -, rfl, -⟩ :=
    exists_of_fragment? carries
  obtain ⟨⟨header, body⟩, headerParsed, parsed⟩ := exists_of_bind_eq_ok parsed
  obtain ⟨⟨tpdu, payload⟩, tpduParsed, parsed⟩ := exists_of_bind_eq_ok parsed
  obtain ⟨bodyWithin, short⟩ := length_of_parse_tpkt headerParsed
  have payloadWithin := length_of_parse_tpdu tpduParsed
  dsimp only at parsed
  split at parsed
  · cases parsed
  · cases Except.ok.inj parsed
    dsimp only
    omega

/-- The payloads that datagrams carry, with the marks of the last ones. -/
def payloads (datagrams : List Datagram) : List (Bytes × Bool) :=
  datagrams.filterMap fun datagram => fragment? datagram.content

theorem length_of_mem_payloads {datagrams : List Datagram}
    {part : Bytes × Bool} (member : part ∈ payloads datagrams) :
    part.1.length < 2 ^ 16 := by
  obtain ⟨datagram, -, carries⟩ := List.mem_filterMap.1 member
  exact (length_of_fragment? carries).2

/-- The payloads of datagrams have no more bytes than the datagrams. -/
theorem sum_payloads_le (datagrams : List Datagram) :
    ((payloads datagrams).map (·.1.length)).sum
      ≤ (datagrams.map (·.content.length)).sum := by
  induction datagrams with
  | nil => exact le_rfl
  | cons datagram datagrams inductionHypothesis =>
      unfold payloads at inductionHypothesis ⊢
      rw [List.filterMap_cons, List.map_cons, List.sum_cons]
      cases carries : fragment? datagram.content with
      | none =>
          dsimp only
          omega
      | some part =>
          have within := (length_of_fragment? carries).1
          dsimp only
          rw [List.map_cons, List.sum_cons]
          omega

/-- The payloads of datagrams are joined without a fault as far as they fit into
a buffer, or the ceiling does. -/
theorem pushAll_payloads {datagrams : List Datagram} {ceiling : Nat}
    (fits : min ceiling (datagrams.map (·.content.length)).sum < 2 ^ 63) :
    pushAll (.empty ceiling) (payloads datagrams)
      = .ok ((Reassembler.empty ceiling).pushAll (payloads datagrams)) := by
  have nothing : (Reassembler.empty ceiling).gathered = 0 := rfl
  have sameCeiling : (Reassembler.empty ceiling).ceiling = ceiling := rfl
  have within := sum_payloads_le datagrams
  apply pushAll_eq
  · intro part member
    have short := length_of_mem_payloads member
    omega
  · omega
  · omega

/-! ## The whole path -/

/-- Every step from a stream to the values read from it can be taken. The
stream, in whatever chunks it arrives, comes apart into datagrams, bytes that
were dropped and a rest. Payloads are joined or dropped, and all bytes and all
PDUs are read, with a value or an error.

The counts of a stream are numbers of 64 bits, and so are places in a buffer, up
to a header beyond its end: a longer stream can outgrow them
(`extractEach_noise`). A buffer holds less than half as much. -/
theorem receivePath_agrees {chunks : List Bytes}
    (fits : chunks.flatten.length + Policy.minAnnounced < 2 ^ 64) :
    (∃ passes record,
      Registry.transport.extractEach [] .zero chunks = .ok passes
        ∧ extractEach .transport .fresh chunks = .ok (passes.map report)
        ∧ StreamRecord.ofChunks [] .zero passes = record
        ∧ record.tally.noiseBytes
            + (record.datagrams.map (·.content.length)).sum
            + record.rest.length
          = chunks.flatten.length)
      ∧ (∀ datagrams ceiling,
        min ceiling (datagrams.map (·.content.length)).sum < 2 ^ 63 →
          pushAll (.empty ceiling) (payloads datagrams)
            = .ok ((Reassembler.empty ceiling).pushAll (payloads datagrams)))
      ∧ (∀ bytes, Readable bytes)
      ∧ ∀ pdu, Agrees (decode pdu) pdu.decode := by
  refine ⟨?_, fun datagrams ceiling => pushAll_payloads, readable,
    fun pdu => agrees_of_eq (decode_eq pdu)⟩
  obtain ⟨extraction, extracted⟩ :=
    Registry.exists_extract_transport chunks.flatten
  obtain ⟨passes, ran, isRecord⟩ := Registry.exists_extractEach extracted
  have comes := extractEach_comes Pass.fresh_within
    (Registry.transport_staysBelow (by rwa [Nat.zero_add]))
  rw [Pass.fresh, ran] at comes
  obtain ⟨_, guarded, rfl⟩ := comes.exists_of_ok
  refine ⟨passes, _, ran, guarded, isRecord, ?_⟩
  simp only [StreamRecord.ofExtraction, Tally.zero_add]
  exact Registry.length_of_extract extracted

/-- A header that is cut in two, a datagram, a header with an impossible length,
and noise. -/
def scraps : List Bytes :=
  [[0x03], [0x00, 0x00, 0x07, 0x02, 0xF0, 0x80, 0x03, 0x00, 0x00, 0x00],
    [0x02, 0xF0, 0x80, 0x2A]]

theorem receivePath_agrees_scraps :
    scraps.flatten.length + Policy.minAnnounced < 2 ^ 64
      ∧ ∃ passes,
        extractEach .transport .fresh scraps = .ok (passes.map report)
          ∧ (StreamRecord.ofChunks [] .zero passes).tally.noiseBytes
              + ((StreamRecord.ofChunks [] .zero passes).datagrams.map
                (·.content.length)).sum
              + (StreamRecord.ofChunks [] .zero passes).rest.length
            = 15 := by
  have fits : scraps.flatten.length + Policy.minAnnounced < 2 ^ 64 := by
    decide
  obtain ⟨⟨passes, record, -, guarded, isRecord, lengths⟩, -⟩ :=
    receivePath_agrees fits
  rw [← isRecord] at lengths
  exact ⟨fits, passes, guarded, lengths⟩

/-- A stream can be too long to be counted, and a timestamp can be read that is
malformed, with a half byte that is no digit. -/
theorem receivePath_limits :
    extractEach .transport .fresh (List.replicate (2 ^ 64) [0x00])
        = crash .overflow
      ∧ ∃ moment,
        readDecimalTime DecimalTime.hexOctober = .ok (some moment)
          ∧ ¬DecimalTime.AllDigits DecimalTime.hexOctober := by
  constructor
  · apply extractEach_noise rfl
    · decide
    · exact Nat.le_add_left _ _
  · obtain ⟨moment, decoded⟩ := Option.isSome_iff_exists.1
      (by decide : (DecimalTime.decode? DecimalTime.hexOctober).isSome)
    refine ⟨moment, ?_, ?_⟩
    · rw [readDecimalTime_eq, decoded]
    · rw [DecimalTime.hexOctober, DecimalTime.allDigits_cons_iff]
      decide

end Guarded
end PlcLink
