import Mathlib
import PlcLink.Proofs.Failure
import PlcLink.Transport.Frame

/-!
# Frames that were written

A frame in normal form always has a wire form, and is read back from it. The
wire form shows the datagram's length and the type of its TPDU at fixed places.
-/

namespace PlcLink

@[simp] theorem TpduType.ofByte?_toByte (type : TpduType) :
    TpduType.ofByte? type.toByte = some type := by
  cases type <;> rfl

/-! ## Parameters of connection requests -/

namespace TpduParameter

/-- A last byte alone is no parameter, and is left over. -/
theorem parseAll_of_short {bytes : Bytes} (short : bytes.length < 2) :
    parseAll bytes = .ok [] := by
  match bytes with
  | [] | [_] => rw [parseAll]; simp
  | _ :: _ :: rest =>
      simp only [List.length_cons] at short
      omega

@[simp] theorem parseAll_nil : parseAll [] = .ok [] :=
  parseAll_of_short Nat.zero_lt_two

/-- Parameters with short values read back. -/
theorem parseAll_flatMap_encode {parameters : List TpduParameter}
    {leftover : Bytes}
    (short : ∀ parameter ∈ parameters, parameter.2.length < 256)
    (leftoverShort : leftover.length < 2) :
    parseAll (parameters.flatMap encode ++ leftover) = .ok parameters := by
  induction parameters with
  | nil => exact parseAll_of_short leftoverShort
  | cons parameter others inductionHypothesis =>
      obtain ⟨code, value⟩ := parameter
      obtain ⟨valueShort, short⟩ := List.forall_mem_cons.1 short
      have length : (UInt8.ofNat value.length).toNat = value.length :=
        UInt8.toNat_ofNat_of_lt' valueShort
      have whole : value.length
          ≤ (value ++ (others.flatMap encode ++ leftover)).length := by
        rw [List.length_append]
        exact Nat.le_add_right _ _
      rw [List.flatMap_cons, encode, List.append_assoc, List.cons_append,
        List.cons_append, parseAll, length, if_pos whole, List.drop_left,
        List.take_left, inductionHypothesis short]
      rfl

end TpduParameter

namespace ConnectParameters

variable {parameters : ConnectParameters}

theorem length_present (parameters : ConnectParameters) :
    5 + (parameters.present.flatMap TpduParameter.encode).length
      = parameters.encodedLength := by
  obtain ⟨_, _, _, size?, source?, destination?⟩ := parameters
  cases size? <;> cases source? <;> cases destination? <;> rfl

theorem short_present (parameters : ConnectParameters) :
    ∀ parameter ∈ parameters.present, parameter.2.length < 256 := by
  obtain ⟨_, _, _, size?, source?, destination?⟩ := parameters
  cases size? <;> cases source? <;> cases destination? <;>
    simp [present]

/-- Parameters that are present are taken over as they are. -/
theorem foldl_absorb_present (parameters : ConnectParameters) :
    parameters.present.foldl absorb
        { parameters with
          sizeCode? := none
          sourceTsap? := none
          destinationTsap? := none }
      = parameters := by
  obtain ⟨_, _, _, size?, source?, destination?⟩ := parameters
  cases size? <;> cases source? <;> cases destination? <;>
    simp [present, absorb, Word.bytes16, TpduParameter.sizeCode,
      TpduParameter.sourceCode, TpduParameter.destinationCode]

theorem parse_emit (parameters : ConnectParameters) :
    parse parameters.emit.written = .ok parameters := by
  have read := TpduParameter.parseAll_flatMap_encode parameters.short_present
    (show ([] : Bytes).length < 2 from Nat.zero_lt_two)
  rw [List.append_nil] at read
  simp only [emit, Emission.bytes, Word.bytes16, List.cons_append,
    List.nil_append, parse, Word.ofBytes16_high_low]
  rw [read]
  exact congrArg Except.ok parameters.foldl_absorb_present

end ConnectParameters

theorem DisconnectParameters.parse_emit (parameters : DisconnectParameters) :
    parse parameters.emit.written = .ok parameters := by
  simp only [emit, Emission.bytes, Word.bytes16, List.cons_append,
    List.nil_append, parse, Word.ofBytes16_high_low,
    TpduParameter.parseAll_nil]
  rfl

/-- The mark and a number of seven bits read back from the byte they make. -/
theorem DataParameters.parse_emit {parameters : DataParameters}
    (normal : parameters.number < 128) :
    parse parameters.emit.written = .ok parameters := by
  obtain ⟨endOfPdu, number⟩ := parameters
  have bound : number.toNat < 128 := UInt8.lt_iff_toNat_lt.1 normal
  have low : number.toNat % 128 = number.toNat := Nat.mod_eq_of_lt bound
  cases endOfPdu with
  | true =>
      have byte : (UInt8.ofNat (number.toNat + 128)).toNat
          = number.toNat + 128 :=
        UInt8.toNat_ofNat_of_lt' (Nat.add_lt_add_right bound 128)
      have marked : 128 ≤ number.toNat + 128 := Nat.le_add_left _ _
      simp only [emit, Emission.bytes, parse, low, if_true, byte,
        Nat.add_mod_right, UInt8.ofNat_toNat, decide_eq_true marked]
  | false =>
      have unmarked : ¬128 ≤ number.toNat := Nat.not_le.2 bound
      simp only [emit, Emission.bytes, parse, low, Bool.false_eq_true,
        if_false, Nat.add_zero, UInt8.ofNat_toNat, decide_eq_false unmarked]

/-! ## TPDUs -/

namespace Tpdu

/-- The number of a data TPDU has seven bits. -/
def Normal : Tpdu -> Prop
  | data parameters => parameters.number < 128
  | _ => True

variable {tpdu : Tpdu}

theorem bodyLength_le (tpdu : Tpdu) : tpdu.bodyLength ≤ 16 := by
  cases tpdu with
  | connectRequest parameters | connectConfirm parameters =>
      change parameters.encodedLength ≤ 16
      unfold ConnectParameters.encodedLength
      split <;> split <;> split <;> decide
  | disconnectRequest parameters => change 5 ≤ 16; decide
  | data parameters => change 1 ≤ 16; decide

theorem bodyLength_pos (tpdu : Tpdu) : 0 < tpdu.bodyLength := by
  cases tpdu with
  | connectRequest parameters | connectConfirm parameters =>
      change 0 < parameters.encodedLength
      unfold ConnectParameters.encodedLength
      omega
  | disconnectRequest parameters => change 0 < 5; decide
  | data parameters => change 0 < 1; decide

theorem length_emitBody (tpdu : Tpdu) :
    tpdu.emitBody.written.length = tpdu.bodyLength := by
  cases tpdu with
  | connectRequest parameters | connectConfirm parameters =>
      change _ = parameters.encodedLength
      rw [← parameters.length_present]
      simp only [emitBody, ConnectParameters.emit, Emission.bytes,
        List.length_append, List.length_cons, Word.length_bytes16]
      omega
  | disconnectRequest parameters => rfl
  | data parameters => rfl

/-- A TPDU is always written as a whole. -/
theorem emit_eq (tpdu : Tpdu) :
    tpdu.emit
      = .bytes
        (UInt8.ofNat (1 + tpdu.bodyLength) :: tpdu.type.toByte
          :: tpdu.emitBody.written) := by
  have bound := tpdu.bodyLength_le
  have wholeBody : tpdu.emitBody = .bytes tpdu.emitBody.written := by
    cases tpdu <;> rfl
  unfold emit
  rw [if_pos (by omega), wholeBody]
  rfl

theorem length_emit (tpdu : Tpdu) :
    tpdu.emit.written.length = tpdu.encodedLength := by
  have body := tpdu.length_emitBody
  rw [emit_eq, encodedLength]
  simp only [Emission.bytes, List.length_cons]
  omega

theorem parseBody_emitBody (normal : tpdu.Normal) :
    parseBody tpdu.type tpdu.emitBody.written = .ok tpdu := by
  cases tpdu with
  | connectRequest parameters =>
      exact (bind_eq_of_eq_ok parameters.parse_emit).trans rfl
  | connectConfirm parameters =>
      exact (bind_eq_of_eq_ok parameters.parse_emit).trans rfl
  | disconnectRequest parameters =>
      exact (bind_eq_of_eq_ok parameters.parse_emit).trans rfl
  | data parameters =>
      rw [type, parseBody, emitBody, DataParameters.parse_emit normal]
      rfl

/-- A header of the announced length is read on its own, and what follows it is
handed out. -/
theorem parse_header {indicator : UInt8} {body : Bytes}
    (indicated : indicator.toNat = 1 + body.length) (type : TpduType)
    (rest : Bytes) :
    parse (indicator :: type.toByte :: (body ++ rest))
      = (parseBody type body).map fun tpdu => (tpdu, rest) := by
  unfold parse
  dsimp only
  rw [indicated, if_neg (by rw [List.length_append]; omega),
    Nat.add_sub_cancel_left]
  simp only [TpduType.ofByte?_toByte]
  rw [List.take_left, List.drop_left]
  cases parseBody type body <;> rfl

/-- A TPDU in normal form reads back, and what follows it is handed out. -/
theorem parse_emit (normal : tpdu.Normal) (rest : Bytes) :
    parse (tpdu.emit.written ++ rest) = .ok (tpdu, rest) := by
  have bound := tpdu.bodyLength_le
  have indicated : (UInt8.ofNat (1 + tpdu.bodyLength)).toNat
      = 1 + tpdu.emitBody.written.length := by
    rw [tpdu.length_emitBody]
    exact UInt8.toNat_ofNat_of_lt' (by
      change 1 + tpdu.bodyLength < 256
      omega)
  rw [emit_eq]
  change parse (_ :: _ :: (tpdu.emitBody.written ++ rest)) = _
  rw [parse_header indicated, parseBody_emitBody normal]
  rfl

end Tpdu

/-! ## Datagrams -/

namespace Tpkt

theorem ofPayloadLength_eq_ok {payloadLength : Nat} {header : Tpkt}
    (made : ofPayloadLength payloadLength = .ok header) :
    header.version = 3 ∧ header.reserved = 0
      ∧ header.length.toNat = headerLength + payloadLength := by
  unfold ofPayloadLength at made
  split at made
  · rename_i fits
    cases made
    exact ⟨rfl, rfl, UInt16.toNat_ofNat_of_lt' fits⟩
  · cases made

/-- A header that announces what follows it reads back. -/
theorem parse_emit {header : Tpkt} {body : Bytes}
    (version : header.version = 3) (reserved : header.reserved = 0)
    (announced : header.length.toNat = headerLength + body.length) :
    parse (header.emit.written ++ body) = .ok (header, body) := by
  obtain ⟨_, _, length⟩ := header
  subst version reserved
  simp only [emit, Emission.bytes, Word.bytes16, List.cons_append,
    List.nil_append, parse, Word.ofBytes16_high_low]
  rw [if_neg (by decide), if_neg (not_not.2 announced)]

end Tpkt

namespace Frame

variable {frame : Frame} {tpdu : Tpdu} {payload : Bytes}

/-- A frame that is made of a TPDU in normal form and a payload it can carry. -/
structure Normal (frame : Frame) : Prop where
  made : ofTpdu frame.tpdu frame.payload = .ok frame
  tpdu_normal : frame.tpdu.Normal
  payload_eq_nil : frame.tpdu.type ≠ .data -> frame.payload = []

theorem ofTpdu_eq_ok (made : ofTpdu tpdu payload = .ok frame) :
    frame.tpdu = tpdu ∧ frame.payload = payload := by
  obtain ⟨header, -, isFrame⟩ := exists_of_bind_eq_ok made
  cases Except.ok.inj isFrame
  exact ⟨rfl, rfl⟩

/-- A frame is made of its parts just if its header announces them. -/
theorem ofTpdu_eq_ok_iff :
    ofTpdu frame.tpdu frame.payload = .ok frame ↔
      frame.header.version = 3 ∧ frame.header.reserved = 0
        ∧ frame.header.length.toNat
          = Tpkt.headerLength
            + (frame.tpdu.encodedLength + frame.payload.length) := by
  constructor
  · intro made
    obtain ⟨header, announced, isFrame⟩ := exists_of_bind_eq_ok made
    have isHeader : header = frame.header :=
      congrArg Frame.header (Except.ok.inj isFrame)
    rw [isHeader] at announced
    exact Tpkt.ofPayloadLength_eq_ok announced
  · rintro ⟨version, reserved, announced⟩
    obtain ⟨⟨_, _, length⟩, tpdu, payload⟩ := frame
    dsimp only at version reserved announced
    subst version reserved
    rw [ofTpdu, Tpkt.ofPayloadLength, ← announced, if_pos length.toNat_lt,
      UInt16.ofNat_toNat]
    rfl

theorem Normal.of_ofTpdu (made : ofTpdu tpdu payload = .ok frame)
    (normal : tpdu.Normal) (carries : tpdu.type ≠ .data -> payload = []) :
    frame.Normal := by
  obtain ⟨rfl, rfl⟩ := ofTpdu_eq_ok made
  exact ⟨made, normal, carries⟩

/-- The bytes a frame is written as. -/
def wire (frame : Frame) : Bytes :=
  frame.header.emit.written ++ (frame.tpdu.emit.written ++ frame.payload)

/-- A frame is always written as a whole. -/
theorem encode_eq (frame : Frame) : frame.encode = .ok frame.wire := by
  rw [encode, emit, wire, Tpdu.emit_eq]
  rfl

theorem mapM_encode (frames : List Frame) :
    frames.mapM encode = .ok (frames.map wire) := by
  apply mapM_eq_ok_of_forall₂
  rw [List.forall₂_map_right_iff, List.forall₂_same]
  intro frame _
  exact frame.encode_eq

theorem length_wire (frame : Frame) :
    frame.wire.length
      = Tpkt.headerLength
        + (frame.tpdu.encodedLength + frame.payload.length) := by
  rw [wire, List.length_append, List.length_append, Tpdu.length_emit]
  rfl

namespace Normal

theorem header_eq (normal : frame.Normal) :
    frame.header.version = 3 ∧ frame.header.reserved = 0
      ∧ frame.header.length.toNat
        = Tpkt.headerLength
          + (frame.tpdu.encodedLength + frame.payload.length) :=
  ofTpdu_eq_ok_iff.1 normal.made

/-- A frame in normal form is read back from its wire form. -/
theorem parse_wire (normal : frame.Normal) : parse frame.wire = .ok frame := by
  obtain ⟨version, reserved, announced⟩ := normal.header_eq
  rw [← Tpdu.length_emit, ← List.length_append] at announced
  rw [wire, parse, Tpkt.parse_emit version reserved announced]
  change (Tpdu.parse (frame.tpdu.emit.written ++ frame.payload)).bind _ = _
  rw [Tpdu.parse_emit normal.tpdu_normal]
  refine if_neg ?_
  rintro ⟨notData, somePayload⟩
  exact somePayload (normal.payload_eq_nil notData)

/-- A datagram shows its own length and the type of its TPDU. -/
theorem wire_shape (normal : frame.Normal) :
    ∃ high low indicator tail,
      frame.wire
          = 0x03 :: 0x00 :: high :: low :: indicator
            :: frame.tpdu.type.toByte :: tail
        ∧ (Word.ofBytes16 high low).toNat = frame.wire.length := by
  obtain ⟨version, reserved, announced⟩ := normal.header_eq
  refine
    ⟨Word.high frame.header.length, Word.low frame.header.length,
      UInt8.ofNat (1 + frame.tpdu.bodyLength),
      frame.tpdu.emitBody.written ++ frame.payload, ?_, ?_⟩
  · rw [wire, Tpdu.emit_eq, Tpkt.emit, version, reserved]
    rfl
  · rw [Word.ofBytes16_high_low, announced, length_wire]

end Normal
end Frame
end PlcLink
