import Mathlib
import PlcLink.Proofs.Framing.Noise
import PlcLink.Proofs.Framing.Portions
import PlcLink.Proofs.Framing.Stripping
import PlcLink.Proofs.Pdu.WireForm
import PlcLink.Proofs.Transport.Rewriting

/-!
# What a datagram shows of its frame

The fields of a datagram are taken from fixed places, its frame is read by the
length indicator of its TPDU. The mark at the end of a PDU is at the same place
for both. The header of a PDU is as well if the header of the TPDU is as short
as it can be; otherwise what shows is the spare bytes of that and the beginning
of the PDU behind them.
-/

namespace PlcLink

/-! ## PDU headers -/

/-- The fields of a header, as a datagram shows them. -/
def Header.fields (header : Header) : List (Attribute × Nat) :=
  [(.pduType, header.type.toByte.toNat),
    (.reference, header.reference.toNat),
    (.parameterLength, header.parameterLength.toNat),
    (.dataLength, header.dataLength.toNat)]

/-- Two byte strings agree where PDU headers have their fields: in the
identifier and the type, and in what follows the reserved word. -/
def SameFields (first second : Bytes) : Prop :=
  first.take 2 = second.take 2
    ∧ (first.drop 4).take 6 = (second.drop 4).take 6

instance (first second : Bytes) : Decidable (SameFields first second) :=
  inferInstanceAs (Decidable (_ ∧ _))

namespace Policy

variable {bytes rest : Bytes} {header : Header}

/-- All fields show or none. -/
theorem headerAttributes_cases (bytes : Bytes) :
    headerAttributes bytes = []
      ∨ ∃ type reference parameterLength dataLength,
        headerAttributes bytes
          = [(.pduType, type), (.reference, reference),
            (.parameterLength, parameterLength),
            (.dataLength, dataLength)] := by
  unfold headerAttributes
  split
  · split
    · exact .inr ⟨_, _, _, _, rfl⟩
    · exact .inl rfl
  · exact .inl rfl

theorem headerAttributes_eq_fields_iff :
    headerAttributes bytes = header.fields
      ↔ bytes.take 2 = [Header.identifier, header.type.toByte]
        ∧ (bytes.drop 4).take 6
          = Word.bytes16 header.reference
            ++ Word.bytes16 header.parameterLength
            ++ Word.bytes16 header.dataLength := by
  constructor
  · intro shown
    unfold headerAttributes at shown
    split at shown
    · split at shown
      · rename_i isIdentifier
        subst isIdentifier
        simp only [Header.fields, List.cons.injEq, Prod.mk.injEq, true_and,
          and_true, UInt8.toNat_inj, UInt16.toNat_inj] at shown
        obtain ⟨type, reference, parameterLength, dataLength⟩ := shown
        rw [← type, ← reference, ← parameterLength, ← dataLength]
        simp
      · cases shown
    · cases shown
  · rintro ⟨front, back⟩
    -- The reserved word is there, since six bytes are there behind it.
    have length := congrArg List.length back
    rw [List.length_take, List.length_drop] at length
    obtain ⟨high, low, reserved⟩ :
        ∃ high low, (bytes.drop 2).take 2 = [high, low] := by
      apply List.length_eq_two.1
      rw [List.length_take, List.length_drop]
      change _ = 6 at length
      omega
    have isBytes : bytes
        = bytes.take 2 ++ ((bytes.drop 2).take 2
          ++ ((bytes.drop 4).take 6 ++ bytes.drop 10)) := by
      have behind := List.take_append_drop 6 (bytes.drop 4)
      have between := List.take_append_drop 2 (bytes.drop 2)
      rw [List.drop_drop] at behind between
      rw [behind, between, List.take_append_drop]
    rw [isBytes, front, reserved, back]
    simp [headerAttributes, Header.fields, Word.bytes16]

/-- The fields of a header show where it begins, and wherever the bytes agree
with it. -/
theorem headerAttributes_eq_fields_iff_sameFields
    (parsed : Header.parse bytes = .ok (header, rest)) (other : Bytes) :
    headerAttributes other = header.fields ↔ SameFields other bytes := by
  obtain ⟨-, rfl⟩ := Header.normal_and_emit_of_parse parsed
  rw [headerAttributes_eq_fields_iff]
  rfl

end Policy

/-! ## Datagrams -/

namespace Datagram

variable {datagram : Datagram}

/-- The value of a field of a datagram. -/
def field? (datagram : Datagram) (field : Attribute) : Option Nat :=
  datagram.attributes.lookup field

/-- A datagram shows each field of a header with its value. -/
def ShowsHeader (datagram : Datagram) (header : Header) : Prop :=
  ∀ field ∈ header.fields, datagram.field? field.1 = some field.2

/-- The fields of a data datagram that are not those of a PDU header. -/
def transportFields (length : Nat) (last : UInt8) : List (Attribute × Nat) :=
  [(.length, length), (.announcedLength, length),
    (.tpduType, TpduType.data.toByte.toNat), (.endOfPdu, last.toNat / 128)]

/-- What a datagram shows of a header is what its payload shows. -/
theorem showsHeader_iff {length : Nat} {last : UInt8} {payload : Bytes}
    (shown : datagram.attributes
      = transportFields length last ++ Policy.headerAttributes payload)
    (header : Header) :
    datagram.ShowsHeader header
      ↔ Policy.headerAttributes payload = header.fields := by
  have behind : ∀ field ∈ header.fields,
      datagram.field? field.1
        = (Policy.headerAttributes payload).lookup field.1 := by
    simp only [field?, shown, Header.fields, List.forall_mem_cons]
    exact ⟨rfl, rfl, rfl, rfl, List.forall_mem_nil _⟩
  unfold ShowsHeader
  rw [forall₂_congr fun field member => by rw [behind field member]]
  obtain none | ⟨type, reference, parameterLength, dataLength, all⟩ :=
    Policy.headerAttributes_cases payload
  · rw [none]
    constructor
    · intro shows
      cases shows _ List.mem_cons_self
    · intro same
      cases same
  · rw [all]
    simp only [Header.fields, List.forall_mem_cons]
    change (some type = some _ ∧ some reference = some _
      ∧ some parameterLength = some _ ∧ some dataLength = some _ ∧ _) ↔ _
    simp

/-- What a datagram shows of its frame. -/
structure Inspection (datagram : Datagram) (frame : Frame)
    (parameters : DataParameters) (spare : Bytes) : Prop where
  tpdu : frame.tpdu = .data parameters
  /-- The length indicator of the TPDU counts its type, its last byte and the
  spare bytes. -/
  indicated : ∃ indicator,
    datagram.content[Tpkt.headerLength]? = some indicator
      ∧ indicator.toNat = 2 + spare.length
  /-- The spare bytes and the payload follow the shortest header. -/
  behind : datagram.content.drop Policy.minAnnounced = spare ++ frame.payload
  endOfPdu :
    datagram.field? .endOfPdu = some (if parameters.endOfPdu then 1 else 0)
  header : spare = [] ->
    ∀ header rest, Header.parse frame.payload = .ok (header, rest) ->
      datagram.ShowsHeader header
  header_iff : ∀ header rest,
    Header.parse frame.payload = .ok (header, rest) ->
      (datagram.ShowsHeader header
        ↔ SameFields (spare ++ frame.payload) frame.payload)

end Datagram

/-- A data frame that was read begins with the header of a data TPDU, which may
have spare bytes. -/
theorem Frame.exists_data_of_parse {input : Bytes} {frame : Frame}
    (parsed : parse input = .ok frame)
    (isData : (input.drop 5).take 1 = [TpduType.data.toByte]) :
    ∃ high low indicator last spare,
      input = 0x03 :: 0x00 :: high :: low :: indicator
          :: TpduType.data.toByte :: last :: (spare ++ frame.payload)
        ∧ (Word.ofBytes16 high low).toNat = input.length
        ∧ indicator.toNat = 2 + spare.length
        ∧ frame.tpdu
          = .data
            { endOfPdu := 128 ≤ last.toNat
              number := UInt8.ofNat (last.toNat % 128) } := by
  obtain ⟨body, headerParsed, tpduParsed, -⟩ := parse_eq_ok parsed
  obtain ⟨version, reserved, announced, rfl⟩ := Tpkt.parse_eq_ok headerParsed
  obtain ⟨tpduBody, headed, bodyParsed⟩ :=
    Tpdu.exists_headed_of_parse tpduParsed
  obtain ⟨indicator, indicated⟩ := headed
  have isType : frame.tpdu.type = .data :=
    TpduType.toByte_injective (List.cons.inj isData).1
  rw [isType] at bodyParsed ⊢
  obtain ⟨parameters, read, isTpdu⟩ := exists_of_bind_eq_ok bodyParsed
  cases tpduBody with
  | nil => cases read
  | cons last spare =>
      cases Except.ok.inj read
      refine ⟨Word.high frame.header.length, Word.low frame.header.length,
        indicator, last, spare, ?_, ?_, ?_, (Except.ok.inj isTpdu).symm⟩
      · rw [Tpkt.emit, version, reserved]
        rfl
      · rw [Word.ofBytes16_high_low, announced, List.length_append]
        rfl
      · rw [indicated, List.length_cons]
        omega

namespace Registry

variable {policy : Policy} {buffer : Bytes} {extraction : Extraction}
  {datagram : Datagram}

theorem policyOf_data_of_kind (member : policy ∈ transport.policies)
    (isData : policy.kind = .data) : policy = policyOf .data := by
  simp only [transport, List.mem_cons, List.not_mem_nil, or_false] at member
  obtain rfl | rfl | rfl | rfl | rfl := member
  · cases isData
  · rfl
  · cases isData
  · cases isData
  · cases isData

/-- What is taken as a data datagram has the type of a data TPDU at its
place. -/
theorem data_of_extract (extracted : transport.extract buffer = .ok extraction)
    (member : datagram ∈ extraction.datagrams)
    (isData : datagram.policy.kind = .data) :
    datagram.policy = policyOf .data
      ∧ (datagram.content.drop 5).take 1 = [TpduType.data.toByte] := by
  obtain ⟨raw, later, stripped, owns, known⟩ :=
    exists_raw_of_extract extracted datagram member
  rw [RawDatagram.stripped, strip_transport owns.mem] at stripped
  cases Except.ok.inj stripped
  have isPolicy : raw.policy = policyOf .data :=
    policyOf_data_of_kind owns.mem isData
  refine ⟨isPolicy, ?_⟩
  rw [isPolicy] at owns known
  have reaches : 6 ≤ raw.bytes.length :=
    le_trans (by decide) (Policy.minAnnounced_le_of_announcedLength known)
  have isMarker :
      marker [TpduType.data.toByte] 5 ∈ (policyOf .data).begins :=
    List.mem_cons_of_mem _ List.mem_cons_self
  have stands := owns.begins.take_drop_take isMarker reaches
  rwa [List.take_left] at stands

/-- A datagram that is taken as a data datagram and holds a frame holds a data
frame, and shows whether it ends its PDU. Of the header of a PDU at the front of
the payload all fields show, if the header of the TPDU has no spare bytes.
Otherwise they show if and only if the bytes from the spare ones on agree with
the header of the PDU. -/
theorem inspection_of_extract
    (extracted : transport.extract buffer = .ok extraction)
    (member : datagram ∈ extraction.datagrams)
    (isData : datagram.policy.kind = .data) {frame : Frame}
    (framed : datagram.frame = .ok frame) :
    ∃ parameters spare, datagram.Inspection frame parameters spare := by
  obtain ⟨isPolicy, isType⟩ := data_of_extract extracted member isData
  obtain ⟨high, low, indicator, last, spare, isContent, announced, indicated,
    isTpdu⟩ := Frame.exists_data_of_parse framed isType
  have shown : datagram.attributes
      = Datagram.transportFields datagram.content.length last
        ++ Policy.headerAttributes (spare ++ frame.payload) := by
    obtain ⟨policy, content⟩ := datagram
    cases isPolicy
    cases isContent
    change (Attribute.length, _) :: (Attribute.announcedLength, _) :: _ = _
    rw [announced]
    rfl
  have header_iff (header : Header) (rest : Bytes)
      (parsed : Header.parse frame.payload = .ok (header, rest)) :
      datagram.ShowsHeader header
        ↔ SameFields (spare ++ frame.payload) frame.payload := by
    rw [Datagram.showsHeader_iff shown,
      Policy.headerAttributes_eq_fields_iff_sameFields parsed]
  refine ⟨_, spare, isTpdu, ⟨indicator, ?_, indicated⟩, ?_, ?_, ?_, header_iff⟩
  · rw [isContent]
    rfl
  · rw [isContent]
    rfl
  · rw [Datagram.field?, shown]
    change some (last.toNat / 128) = _
    have := last.toNat_lt
    simp only [decide_eq_true_eq]
    congr 1
    split <;> omega
  · rintro rfl header rest parsed
    exact (header_iff header rest parsed).2 ⟨rfl, rfl⟩

/-- A job without sections. -/
def emptyJob : Bytes :=
  [0x32, 0x01, 0x00, 0x00, 0x00, 0x2A, 0x00, 0x00, 0x00, 0x00]

/-- A datagram with the job, behind the shortest header of a TPDU. -/
def jobDatagram : Bytes :=
  [0x03, 0x00, 0x00, 0x11, 0x02, 0xF0, 0x80] ++ emptyJob

/-- A datagram with the job, behind a header that has a spare byte. -/
def sparedJobDatagram : Bytes :=
  [0x03, 0x00, 0x00, 0x12, 0x03, 0xF0, 0x80, 0x00] ++ emptyJob

theorem inspection_of_extract_job :
    ∃ extraction datagram frame,
      transport.extract jobDatagram = .ok extraction
        ∧ datagram ∈ extraction.datagrams
        ∧ datagram.policy.kind = .data
        ∧ datagram.frame = .ok frame
        ∧ datagram.field? .endOfPdu = some 1
        ∧ datagram.ShowsHeader (.ofLengths .job 0x2A 0 0) := by
  have takes : transport.step jobDatagram
      = .take 0 (policyOf .data) jobDatagram.length := by rfl
  have extracted := extract_of_take_length takes
    (strip_transport (policyOf_mem_transport .data) jobDatagram)
  have framed : Frame.parse jobDatagram
      = .ok
        { header := { version := 3, reserved := 0, length := 17 }
          tpdu := .data { endOfPdu := true, number := 0 }
          payload := emptyJob } := by
    decide +kernel
  obtain ⟨parameters, spare, inspection⟩ :=
    inspection_of_extract extracted List.mem_cons_self rfl framed
  obtain ⟨indicator, isIndicator, indicated⟩ := inspection.indicated
  cases isIndicator
  have noSpare : spare = [] := List.length_eq_zero_iff.1
    (Nat.add_left_cancel indicated).symm
  refine ⟨_, _, _, extracted, List.mem_cons_self, rfl, framed, ?_, ?_⟩
  · cases inspection.tpdu
    exact inspection.endOfPdu
  · exact inspection.header noSpare _ [] rfl

/-- A datagram may hold the header of a PDU and show none of its fields. -/
theorem exists_header_not_shown :
    ∃ extraction datagram frame header,
      transport.extract sparedJobDatagram = .ok extraction
        ∧ datagram ∈ extraction.datagrams
        ∧ datagram.policy.kind = .data
        ∧ datagram.frame = .ok frame
        ∧ Header.parse frame.payload = .ok (header, [])
        ∧ ∀ field ∈ header.fields, datagram.field? field.1 = none := by
  have takes : transport.step sparedJobDatagram
      = .take 0 (policyOf .data) sparedJobDatagram.length := by rfl
  have extracted := extract_of_take_length takes
    (strip_transport (policyOf_mem_transport .data) sparedJobDatagram)
  have framed : Frame.parse sparedJobDatagram
      = .ok
        { header := { version := 3, reserved := 0, length := 18 }
          tpdu := .data { endOfPdu := true, number := 0 }
          payload := emptyJob } := by
    decide +kernel
  refine ⟨_, _, _, .ofLengths .job 0x2A 0 0, extracted, List.mem_cons_self,
    rfl, framed, rfl, ?_⟩
  decide

end Registry
end PlcLink
