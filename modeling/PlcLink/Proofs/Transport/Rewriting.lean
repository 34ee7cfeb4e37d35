import Mathlib
import PlcLink.Proofs.Transport.Parameters

/-!
# Frames that are written back

A frame keeps the length that its datagram announced, but of the header only
what it has a field for. So a frame that was read is written back with its own
length just if the header had no byte to spare, and then it is read once more as
it was.
-/

namespace PlcLink
namespace TpduParameter

/-- A connection request has a field for the parameter. -/
def HasField (parameter : TpduParameter) : Prop :=
  parameter.1 = sizeCode ∧ parameter.2.length = 1
    ∨ (parameter.1 = sourceCode ∨ parameter.1 = destinationCode)
      ∧ parameter.2.length = 2

/-- Every parameter has a field, and no two have the same. -/
structure Kept (listed : List TpduParameter) : Prop where
  hasField : ∀ parameter ∈ listed, parameter.HasField
  nodup : (listed.map Prod.fst).Nodup

variable {code : UInt8} {length : Nat} {value : Bytes}
  {kept listed : List TpduParameter} {parameter : TpduParameter}

theorem mem_of_last? (isLast : last? code length listed = some value) :
    (code, value) ∈ listed ∧ value.length = length := by
  unfold last? at isLast
  obtain ⟨parameter, found, rfl⟩ := Option.map_eq_some_iff.1 isLast
  have fits := List.mem_of_getLast? found
  rw [List.mem_filter, decide_eq_true_eq] at fits
  obtain ⟨member, rfl, rfl⟩ := fits
  exact ⟨member, rfl⟩

/-- Where no code comes twice, every parameter is the last one of its code. -/
theorem last?_of_mem (nodup : (listed.map Prod.fst).Nodup)
    (member : parameter ∈ listed) :
    last? parameter.1 parameter.2.length listed = some parameter.2 := by
  unfold last?
  cases found : (listed.filter fun other => other.1 = parameter.1
      ∧ other.2.length = parameter.2.length).getLast? with
  | none =>
      rw [List.getLast?_eq_none_iff, List.filter_eq_nil_iff] at found
      exact (found parameter member (by simp)).elim
  | some other =>
      have fits := List.mem_of_getLast? found
      rw [List.mem_filter, decide_eq_true_eq] at fits
      obtain ⟨otherMember, sameCode, -⟩ := fits
      rw [List.inj_on_of_nodup_map nodup otherMember member sameCode]
      rfl

/-- A list of which nothing can be left out without its wire form getting
shorter. -/
theorem eq_of_sublist (part : kept.Sublist listed)
    (length : (kept.flatMap encode).length = (listed.flatMap encode).length) :
    kept = listed := by
  induction part with
  | slnil => rfl
  | @cons kept listed parameter part _ =>
      have shorter := (part.flatMap encode).length_le
      rw [length, List.flatMap_cons, encode] at shorter
      simp at shorter
      omega
  | @cons_cons kept listed parameter part inductionHypothesis =>
      rw [List.flatMap_cons, List.flatMap_cons, List.length_append,
        List.length_append] at length
      rw [inductionHypothesis (Nat.add_left_cancel length)]

end TpduParameter

namespace ConnectParameters

open TpduParameter

variable {fixed : Bytes} {listed : List TpduParameter}
  {parameters : ConnectParameters}

theorem nodup_present (parameters : ConnectParameters) :
    (parameters.present.map Prod.fst).Nodup := by
  obtain ⟨_, _, _, size?, source?, destination?⟩ := parameters
  cases size? <;> cases source? <;> cases destination? <;>
    simp [present, sizeCode, sourceCode, destinationCode]

theorem mem_present {code : UInt8} {value : Bytes} :
    (code, value) ∈ parameters.present ↔
      code = sizeCode
        ∧ parameters.sizeCode?.map (fun size => [size]) = some value
      ∨ code = sourceCode
        ∧ parameters.sourceTsap?.map Word.bytes16 = some value
      ∨ code = destinationCode
        ∧ parameters.destinationTsap?.map Word.bytes16 = some value := by
  simp only [present, List.mem_append, Option.mem_toList,
    Option.map_eq_some_iff, Prod.mk.injEq]
  grind

/-- What is present is the last of its field in the list. -/
theorem States.mem_present_iff (states : States fixed listed parameters)
    {parameter : TpduParameter} :
    parameter ∈ parameters.present ↔
      parameter.HasField
        ∧ last? parameter.1 parameter.2.length listed = some parameter.2 := by
  obtain ⟨code, value⟩ := parameter
  obtain ⟨-, size, source, destination⟩ := states
  rw [mem_present, size, source, destination]
  constructor
  · rintro (⟨rfl, isLast⟩ | ⟨rfl, isLast⟩ | ⟨rfl, isLast⟩)
    · obtain ⟨-, length⟩ := mem_of_last? isLast
      exact ⟨.inl ⟨rfl, length⟩, length ▸ isLast⟩
    · obtain ⟨-, length⟩ := mem_of_last? isLast
      exact ⟨.inr ⟨.inl rfl, length⟩, length ▸ isLast⟩
    · obtain ⟨-, length⟩ := mem_of_last? isLast
      exact ⟨.inr ⟨.inr rfl, length⟩, length ▸ isLast⟩
  · rintro ⟨⟨isSize, length⟩ | ⟨isSource | isDestination, length⟩, isLast⟩
    · exact .inl ⟨isSize, by rwa [isSize, length] at isLast⟩
    · exact .inr (.inl ⟨isSource, by rwa [isSource, length] at isLast⟩)
    · exact .inr (.inr
        ⟨isDestination, by rwa [isDestination, length] at isLast⟩)

/-- What is present is a part of what is listed. -/
theorem States.present_subperm (states : States fixed listed parameters) :
    parameters.present.Subperm listed := by
  apply List.subperm_of_subset (List.Nodup.of_map _ (nodup_present _))
  intro parameter member
  exact (mem_of_last? (states.mem_present_iff.1 member).2).1

/-- All that is listed is present just if every parameter has a field of its
own. -/
theorem States.perm_present_iff (states : States fixed listed parameters) :
    parameters.present.Perm listed ↔ Kept listed := by
  constructor
  · intro same
    refine ⟨?_, (same.map Prod.fst).nodup (nodup_present _)⟩
    intro parameter member
    exact (states.mem_present_iff.1 (same.mem_iff.2 member)).1
  · rintro ⟨hasField, nodup⟩
    apply states.present_subperm.antisymm
    apply List.subperm_of_subset (List.Nodup.of_map _ nodup)
    intro parameter member
    exact states.mem_present_iff.2
      ⟨hasField parameter member, last?_of_mem nodup member⟩

/-- Written back, parameters are not longer than what was listed, and as long
just if all of it was kept. -/
theorem States.encodedLength_le (states : States fixed listed parameters) :
    parameters.encodedLength ≤ 5 + (listed.flatMap encode).length
      ∧ (parameters.encodedLength = 5 + (listed.flatMap encode).length
        ↔ Kept listed) := by
  obtain ⟨kept, keptPerm, part⟩ := states.present_subperm
  have length := (keptPerm.flatMap_right encode).length_eq
  have atMost := (part.flatMap encode).length_le
  rw [← parameters.length_present, ← states.perm_present_iff, ← length]
  refine ⟨Nat.add_le_add_left atMost 5, ?_, ?_⟩
  · intro same
    rw [← eq_of_sublist part (Nat.add_left_cancel same)]
    exact keptPerm.symm
  · intro perm
    rw [length, (perm.flatMap_right encode).length_eq]

theorem five_le_of_parse {body : Bytes}
    (read : parse body = .ok parameters) : 5 ≤ body.length := by
  unfold parse at read
  split at read
  · simp
  · cases read

end ConnectParameters

theorem DisconnectParameters.five_le_of_parse {body : Bytes}
    {parameters : DisconnectParameters}
    (read : parse body = .ok parameters) : 5 ≤ body.length := by
  unfold parse at read
  split at read
  · simp
  · cases read

theorem DataParameters.parse_eq_ok {body : Bytes}
    {parameters : DataParameters} (read : parse body = .ok parameters) :
    1 ≤ body.length ∧ parameters.number < 128 := by
  unfold parse at read
  split at read
  · cases read
    refine ⟨by simp, UInt8.lt_iff_toNat_lt.2 ?_⟩
    simp only [UInt8.toNat_ofNat']
    change _ < 128
    omega
  · cases read

namespace Tpdu

open TpduParameter

/-- Every byte of a header is kept: the parameters of a connection are whole and
have a field each, and the other headers are as short as they can be. -/
def KeepsAll (type : TpduType) (body : Bytes) : Prop :=
  match type with
  | .connectRequest | .connectConfirm =>
      ∃ listed, Lists (body.drop 5) listed [] ∧ Kept listed
  | .disconnectRequest => body.length = 5
  | .data => body.length = 1

variable {type : TpduType} {body : Bytes} {tpdu : Tpdu}

theorem normal_of_parseBody (read : parseBody type body = .ok tpdu) :
    tpdu.Normal := by
  cases type with
  | connectRequest | connectConfirm | disconnectRequest =>
      obtain ⟨parameters, -, same⟩ := exists_of_bind_eq_ok read
      cases same
      trivial
  | data =>
      obtain ⟨parameters, parsed, same⟩ := exists_of_bind_eq_ok read
      cases same
      exact (DataParameters.parse_eq_ok parsed).2

/-- The header of a connection is not shorter than the parameters it was read
to, and as long just if they are all that it says. -/
theorem encodedLength_of_parse {parameters : ConnectParameters}
    (read : ConnectParameters.parse body = .ok parameters) :
    parameters.encodedLength ≤ body.length
      ∧ (parameters.encodedLength = body.length ↔
        ∃ listed, Lists (body.drop 5) listed [] ∧ Kept listed) := by
  have hasFixed := ConnectParameters.five_le_of_parse read
  have fixedLength : (body.take 5).length = 5 :=
    List.length_take_of_le hasFixed
  have whole := List.take_append_drop 5 body
  rw [← whole] at read
  cases listing : parseAll (body.drop 5) with
  | error error =>
      rw [ConnectParameters.parse_eq_error fixedLength listing] at read
      cases read
  | ok listed =>
      obtain ⟨other, parsed, states⟩ :=
        ConnectParameters.exists_parse_eq_ok fixedLength listing
      cases read.symm.trans parsed
      obtain ⟨leftover, short, fit, joined⟩ := parseAll_eq_ok_iff.1 listing
      obtain ⟨atMost, exact⟩ := states.encodedLength_le
      have length : body.length
          = 5 + (listed.flatMap encode).length + leftover.length := by
        rw [← whole, List.length_append, fixedLength, ← joined,
          List.length_append, Nat.add_assoc]
      refine ⟨by omega, ?_, ?_⟩
      · intro same
        have noLeftover : leftover = [] :=
          List.length_eq_zero_iff.1 (by omega)
        subst noLeftover
        exact ⟨listed, ⟨fit, joined⟩, exact.1 (by omega)⟩
      · rintro ⟨others, lists, kept⟩
        have alsoRead := parseAll_eq_ok_iff.2 ⟨[], Nat.zero_lt_two, lists⟩
        cases listing.symm.trans alsoRead
        have same := lists.joined.trans joined.symm
        have noLeftover := List.append_cancel_left same
        rw [length, ← noLeftover, exact.2 kept]
        rfl

/-- Written back, a header is not longer than it was, and as long just if every
byte of it was kept. -/
theorem bodyLength_of_parseBody (read : parseBody type body = .ok tpdu) :
    tpdu.bodyLength ≤ body.length
      ∧ (tpdu.bodyLength = body.length ↔ KeepsAll type body) := by
  cases type with
  | connectRequest | connectConfirm =>
      obtain ⟨parameters, parsed, same⟩ := exists_of_bind_eq_ok read
      cases same
      exact encodedLength_of_parse parsed
  | disconnectRequest =>
      obtain ⟨parameters, parsed, same⟩ := exists_of_bind_eq_ok read
      cases same
      exact ⟨DisconnectParameters.five_le_of_parse parsed, eq_comm⟩
  | data =>
      obtain ⟨parameters, parsed, same⟩ := exists_of_bind_eq_ok read
      cases same
      exact ⟨(DataParameters.parse_eq_ok parsed).1, eq_comm⟩

end Tpdu

theorem Tpkt.parse_eq_ok {input body : Bytes} {header : Tpkt}
    (read : parse input = .ok (header, body)) :
    header.version = 3 ∧ header.reserved = 0
      ∧ header.length.toNat = headerLength + body.length
      ∧ input = header.emit.written ++ body := by
  unfold parse at read
  split at read
  · dsimp only at read
    split at read
    · cases read
    · rename_i known
      obtain ⟨version, reserved⟩ := not_or.1 known
      split at read
      · cases read
      · rename_i announced
        cases read
        refine ⟨not_not.1 version, not_not.1 reserved, not_not.1 announced, ?_⟩
        simp [emit, Emission.bytes]
  · cases read

/-- A header that announces another length than that of its datagram is
refused. -/
theorem Tpkt.parse_emit_of_ne {header : Tpkt} {body : Bytes}
    (other : header.length.toNat ≠ headerLength + body.length) :
    parse (header.emit.written ++ body) = .error .invalidFrame := by
  simp only [emit, Emission.bytes, Word.bytes16, List.cons_append,
    List.nil_append, parse, Word.ofBytes16_high_low]
  rw [if_pos other, ite_self]

namespace Frame

variable {input : Bytes} {frame : Frame} {tpdu : Tpdu} {payload : Bytes}

/-- The length in the header of a datagram is the length of the datagram. -/
def AnnouncesItself (datagram : Bytes) : Prop :=
  ∃ version reserved high low body,
    datagram = version :: reserved :: high :: low :: body
      ∧ (Word.ofBytes16 high low).toNat = datagram.length

/-- Every byte of the TPDU's header in the datagram is kept. -/
def KeepsAll (datagram : Bytes) : Prop :=
  ∃ type body payload,
    Tpdu.Headed type body payload (datagram.drop Tpkt.headerLength)
      ∧ Tpdu.KeepsAll type body

theorem announcesItself_wire_iff (frame : Frame) :
    AnnouncesItself frame.wire ↔
      frame.header.length.toNat = frame.wire.length := by
  constructor
  · rintro ⟨version, reserved, high, low, body, isWire, announced⟩
    rw [← announced, ← Word.ofBytes16_high_low frame.header.length]
    rw [wire, Tpkt.emit] at isWire
    cases isWire
    rfl
  · intro announced
    refine ⟨_, _, _, _, _, rfl, ?_⟩
    rw [Word.ofBytes16_high_low, announced]

theorem parse_eq_ok (parsed : parse input = .ok frame) :
    ∃ body,
      Tpkt.parse input = .ok (frame.header, body)
        ∧ Tpdu.parse body = .ok (frame.tpdu, frame.payload)
        ∧ (frame.tpdu.type ≠ .data -> frame.payload = []) := by
  obtain ⟨⟨header, body⟩, headerParsed, parsed⟩ := exists_of_bind_eq_ok parsed
  obtain ⟨⟨tpdu, payload⟩, tpduParsed, parsed⟩ := exists_of_bind_eq_ok parsed
  dsimp only at parsed
  split at parsed
  · cases parsed
  · rename_i carries
    cases parsed
    exact ⟨body, headerParsed, tpduParsed,
      fun notData => not_not.1 fun some => carries ⟨notData, some⟩⟩

/-- A frame that was read keeps the length of its datagram, and is written back
with at most that length. -/
structure WrittenBack (input : Bytes) (frame : Frame) : Prop where
  announced : frame.header.length.toNat = input.length
  length_le : frame.wire.length ≤ input.length
  length_eq_iff : frame.wire.length = input.length ↔ KeepsAll input
  normal : KeepsAll input -> frame.Normal

theorem writtenBack_of_parse (parsed : parse input = .ok frame) :
    WrittenBack input frame := by
  obtain ⟨body, headerParsed, tpduParsed, carries⟩ := parse_eq_ok parsed
  obtain ⟨version, reserved, announced, rfl⟩ := Tpkt.parse_eq_ok headerParsed
  obtain ⟨tpduBody, headed, bodyParsed⟩ :=
    Tpdu.exists_headed_of_parse tpduParsed
  obtain ⟨atMost, exact⟩ := Tpdu.bodyLength_of_parseBody bodyParsed
  have keepsAll_iff : KeepsAll (frame.header.emit.written ++ body) ↔
      Tpdu.KeepsAll frame.tpdu.type tpduBody := by
    constructor
    · rintro ⟨type, otherBody, payload, alsoHeaded, keepsAll⟩
      obtain ⟨rfl, rfl, -⟩ := headed.unique alsoHeaded
      exact keepsAll
    · exact fun keepsAll => ⟨_, _, _, headed, keepsAll⟩
  have inputLength : (frame.header.emit.written ++ body).length
      = Tpkt.headerLength + body.length := by
    rw [List.length_append]
    rfl
  have bodyLength := headed.length_eq
  have wireLength := frame.length_wire
  rw [Tpdu.encodedLength] at wireLength
  have sameLength_iff : frame.wire.length
      = (frame.header.emit.written ++ body).length ↔
        Tpdu.KeepsAll frame.tpdu.type tpduBody := by
    rw [← exact]
    omega
  constructor
  · rw [announced, inputLength]
  · omega
  · rw [sameLength_iff, keepsAll_iff]
  · intro keepsAll
    have sameLength := exact.2 (keepsAll_iff.1 keepsAll)
    refine ⟨ofTpdu_eq_ok_iff.2 ⟨version, reserved, ?_⟩,
      Tpdu.normal_of_parseBody bodyParsed, carries⟩
    rw [announced, Tpdu.encodedLength]
    omega

/-- A frame that is made and written announces its own length. A frame that was
read is written with a length that is not above the one it announces, which is
that of the datagram it was read from. The two are the same if and only if every
byte of the header was kept; then it is read as the same frame, and is refused
otherwise. -/
theorem announces_encoding (frame : Frame) :
    (∀ tpdu payload, ofTpdu tpdu payload = .ok frame ->
      ∃ datagram, frame.encode = .ok datagram ∧ AnnouncesItself datagram)
    ∧ ∀ input, parse input = .ok frame ->
      ∃ datagram, frame.encode = .ok datagram
        ∧ datagram.length ≤ input.length
        ∧ (AnnouncesItself datagram ↔ KeepsAll input)
        ∧ (parse datagram = .ok frame ↔ KeepsAll input)
        ∧ (¬KeepsAll input -> parse datagram = .error .invalidFrame) := by
  constructor
  · intro tpdu payload made
    refine ⟨frame.wire, frame.encode_eq, ?_⟩
    obtain ⟨rfl, rfl⟩ := ofTpdu_eq_ok made
    rw [announcesItself_wire_iff, length_wire]
    exact (ofTpdu_eq_ok_iff.1 made).2.2
  · intro input parsed
    obtain ⟨announced, atMost, sameLength_iff, normal⟩ :=
      writtenBack_of_parse parsed
    have refused : ¬KeepsAll input ->
        parse frame.wire = .error .invalidFrame := by
      intro notAll
      have other : frame.wire.length ≠ input.length :=
        fun same => notAll (sameLength_iff.1 same)
      rw [parse, wire, Tpkt.parse_emit_of_ne]
      · rfl
      · rw [announced, List.length_append, Tpdu.length_emit,
          ← length_wire]
        exact other.symm
    refine ⟨frame.wire, frame.encode_eq, atMost, ?_, ?_, refused⟩
    · rw [announcesItself_wire_iff, announced, ← sameLength_iff, eq_comm]
    · refine ⟨?_, fun keepsAll => (normal keepsAll).parse_wire⟩
      intro again
      by_contra notAll
      cases again.symm.trans (refused notAll)

/-- A confirm that lists its parameters in another order than they are written
in. -/
def reordered : Bytes :=
  [3, 0, 0, 22, 17, 0xD0, 0x00, 0x01, 0x44, 0x31, 0x00, 0xC2, 2, 3, 2,
    0xC1, 2, 1, 0, 0xC0, 1, 10]

/-- A disconnect request with two bytes of information behind its reason. -/
def informed : Bytes :=
  [3, 0, 0, 15, 10, 0x80, 0x00, 0x00, 0x00, 0x01, 0x80, 0xE0, 2, 0x41, 0x42]

theorem announces_encoding_reordered :
    (∃ frame datagram,
      ofTpdu (.data { endOfPdu := true, number := 200 }) [0x32] = .ok frame
        ∧ frame.encode = .ok datagram ∧ AnnouncesItself datagram)
    ∧ (∃ frame datagram,
      parse reordered = .ok frame ∧ frame.encode = .ok datagram
        ∧ AnnouncesItself datagram ∧ parse datagram = .ok frame)
    ∧ ∃ frame datagram,
      parse informed = .ok frame ∧ frame.encode = .ok datagram
        ∧ parse datagram = .error .invalidFrame := by
  refine ⟨?_, ?_, ?_⟩
  · have isFrame : ofTpdu (.data { endOfPdu := true, number := 200 }) [0x32]
        = .ok
          { header := { version := 3, reserved := 0, length := 8 }
            tpdu := .data { endOfPdu := true, number := 200 }
            payload := [0x32] } := rfl
    obtain ⟨datagram, encoded, announces⟩ :=
      (announces_encoding _).1 _ _ isFrame
    exact ⟨_, datagram, isFrame, encoded, announces⟩
  · have isFrame : parse reordered
        = .ok
          { header := { version := 3, reserved := 0, length := 22 }
            tpdu := .connectConfirm
              { destinationRef := 1
                sourceRef := 0x4431
                classOption := 0
                sizeCode? := some 10
                sourceTsap? := some 0x0100
                destinationTsap? := some 0x0302 }
            payload := [] } := by
      decide +kernel
    have keepsAll : KeepsAll reordered := by
      refine ⟨.connectConfirm, reordered.drop 6, [], .intro 17 rfl,
        [(0xC2, [3, 2]), (0xC1, [1, 0]), (0xC0, [10])], ?_, ?_, ?_⟩
      · exact ⟨by decide, rfl⟩
      · unfold TpduParameter.HasField
        decide
      · decide
    obtain ⟨datagram, encoded, -, announces, again, -⟩ :=
      (announces_encoding _).2 _ isFrame
    exact ⟨_, datagram, isFrame, encoded, announces.2 keepsAll,
      again.2 keepsAll⟩
  · have isFrame : parse informed
        = .ok
          { header := { version := 3, reserved := 0, length := 15 }
            tpdu := .disconnectRequest .ordinary
            payload := [] } := by
      decide +kernel
    have notAll : ¬KeepsAll informed := by
      rintro ⟨type, body, payload, headed, keepsAll⟩
      have isHeaded : Tpdu.Headed .disconnectRequest (informed.drop 6) []
          (informed.drop Tpkt.headerLength) := .intro 10 rfl
      obtain ⟨rfl, rfl, -⟩ := isHeaded.unique headed
      cases keepsAll
    obtain ⟨datagram, encoded, -, -, -, refused⟩ :=
      (announces_encoding _).2 _ isFrame
    exact ⟨_, datagram, isFrame, encoded, refused notAll⟩

/-- What is written for a disconnect request with information is shorter than it
announces. -/
theorem exists_encode_of_informed :
    ∃ frame datagram,
      parse informed = .ok frame ∧ frame.encode = .ok datagram
        ∧ datagram.length = 11 ∧ ¬AnnouncesItself datagram := by
  have isFrame : (parse informed).map
      (fun frame => (frame.header.length.toNat, frame.wire.length))
        = .ok (15, 11) := by
    decide +kernel
  obtain ⟨frame, parsed, lengths⟩ := exists_of_map_eq_ok isFrame
  obtain ⟨announced, length⟩ := Prod.mk.inj lengths
  refine ⟨frame, frame.wire, parsed, frame.encode_eq, length, ?_⟩
  rw [announcesItself_wire_iff, announced, length]
  decide

end Frame
end PlcLink
