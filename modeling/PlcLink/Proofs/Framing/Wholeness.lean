import Mathlib
import PlcLink.Framing.Outbound
import PlcLink.Proofs.Pdu.Lengths
import PlcLink.Proofs.Transport.Frames

/-!
# Nothing is written in part

Every value with a wire form of its own appends all of the bytes that are
foretold of it, or is refused before it has appended any. An encoder made of
others has this property if only the first of them can refuse its value.
-/

namespace PlcLink
namespace Emission

variable {possible : Prop} {length : Nat} {emission : Emission}

/-- Running the encoder gives a destination all of the bytes or leaves it as it
is. -/
theorem Whole.all_or_nothing (whole : Whole possible length emission)
    (destination : Destination) :
    (possible ∧ ∃ wire : Bytes,
      emission.result = .ok wire ∧ wire.length = length
        ∧ emission.runOn? destination
          = if destination.takes wire.length then
              some (.ok (), destination.extend wire)
            else
              none)
      ∨ ¬possible ∧ ∃ fault,
        emission.runOn? destination
          = some (.error (.encode fault), destination) := by
  cases whole with
  | @written wire isPossible isLength =>
      exact .inl ⟨isPossible, wire, rfl, isLength, runOn?_bytes wire _⟩
  | @refused fault isImpossible =>
      exact .inr ⟨isImpossible, fault, runOn?_fail _ _⟩

end Emission

/-! ## TPDUs and datagrams -/

theorem Tpkt.whole_emit (header : Tpkt) :
    header.emit.Whole True header.encodedLength :=
  .written trivial rfl

theorem Tpdu.whole_emitBody (tpdu : Tpdu) :
    tpdu.emitBody.Whole True tpdu.bodyLength := by
  have length := tpdu.length_emitBody
  cases tpdu <;> exact .written trivial length

/-- No TPDU has a header that is too long for its length indicator. -/
theorem Tpdu.whole_emit (tpdu : Tpdu) :
    tpdu.emit.Whole True tpdu.encodedLength := by
  have length := tpdu.length_emit
  rw [tpdu.emit_eq] at length ⊢
  exact .written trivial length

theorem Frame.whole_emit (frame : Frame) :
    frame.emit.Whole True frame.encodedLength := by
  have headers := frame.header.whole_emit.append frame.tpdu.whole_emit
  exact headers.append (Emission.whole_bytes frame.payload)

/-! ## PDUs and what they are made of -/

theorem Header.whole_emit (header : Header) :
    header.emit.Whole True header.encodedLength :=
  .written trivial header.length_emit

theorem Pdu.whole_emit (pdu : Pdu) :
    pdu.emit.Whole pdu.Announced pdu.encodedLength := by
  have parts := (pdu.header.whole_emit.append
    (Emission.whole_bytes pdu.parameter)).append
      (Emission.whole_bytes pdu.data)
  unfold emit
  split
  · rename_i disagree
    refine .refused fun announced => ?_
    obtain parameter | data := disagree
    · exact parameter announced.parameterLength_eq
    · exact data announced.dataLength_eq
  · rename_i agree
    obtain ⟨parameter, data⟩ := not_or.1 agree
    exact parts.of_possible ⟨not_not.1 parameter, not_not.1 data⟩

theorem UserData.Parameter.whole_emit (parameter : Parameter) :
    parameter.emit.Whole True parameter.encodedLength := by
  refine .written trivial ?_
  unfold encodedLength
  cases parameter.isLong <;> rfl

/-! ## Everything that is written -/

/-- Everything with a wire form of its own, together with what its encoder
needs to know. -/
inductive WireValue
  | tpkt (value : Tpkt)
  | tpdu (value : Tpdu)
  | connectParameters (value : ConnectParameters)
  | disconnectParameters (value : DisconnectParameters)
  | dataParameters (value : DataParameters)
  | frame (value : Frame)
  | header (value : Header)
  | pdu (value : Pdu)
  | spec (value : VarSpec)
  /-- An item of a list, which gets a fill byte unless it is the last. -/
  | item (value : DataItem) (isLast : Bool)
  | userData (value : UserData.Parameter)
  deriving DecidableEq, Repr

namespace WireValue

/-- Write a value. -/
def emit : WireValue -> Emission
  | tpkt value => value.emit
  | tpdu value => value.emit
  | connectParameters value => value.emit
  | disconnectParameters value => value.emit
  | dataParameters value => value.emit
  | frame value => value.emit
  | header value => value.emit
  | pdu value => value.emit
  | spec value => value.emit
  | item value isLast => value.emit isLast
  | userData value => value.emit

/-- Number of bytes that are foretold of a value. -/
def encodedLength : WireValue -> Nat
  | tpkt value => value.encodedLength
  | tpdu value => value.encodedLength
  | connectParameters value => value.encodedLength
  | disconnectParameters value => value.encodedLength
  | dataParameters value => value.encodedLength
  | frame value => value.encodedLength
  | header value => value.encodedLength
  | pdu value => value.encodedLength
  | spec value => value.encodedLength
  | item value isLast => value.encodedLength isLast
  | userData value => value.encodedLength

/-- A value can be written unless it is a PDU that announces other sections,
an address beyond 21 bits, or an item whose length is beyond 16 bits. -/
def Writable : WireValue -> Prop
  | pdu value => value.Announced
  | spec value => value.byteAddress ≤ VarSpec.maxByteAddress
  | item value _ => value.countedLength < 65536
  | _ => True

theorem whole_emit (value : WireValue) :
    value.emit.Whole value.Writable value.encodedLength := by
  cases value with
  | tpkt value => exact value.whole_emit
  | tpdu value => exact value.whole_emit
  | connectParameters value => exact (Tpdu.connectRequest value).whole_emitBody
  | disconnectParameters value =>
      exact (Tpdu.disconnectRequest value).whole_emitBody
  | dataParameters value => exact (Tpdu.data value).whole_emitBody
  | frame value => exact value.whole_emit
  | header value => exact value.whole_emit
  | pdu value => exact value.whole_emit
  | spec value => exact value.whole_emit
  | item value isLast => exact value.whole_emit isLast
  | userData value => exact value.whole_emit

end WireValue

/-! ## The buffer of frames to be sent -/

namespace Outbound

/-- A frame is always written, and as a whole. -/
theorem exists_push_eq (outbound : Outbound) (frame : Frame) :
    ∃ wire : Bytes,
      (frame.encode = .ok wire ∧ wire.length = frame.encodedLength)
        ∧ outbound.push frame
          = (.ok (), { buffer := outbound.buffer ++ wire }) := by
  obtain ⟨-, wire, encoded, length, runs⟩ | ⟨isImpossible, -⟩ :=
    frame.whole_emit.all_or_nothing (.growing outbound.buffer)
  · rw [outbound.runOn?_emit frame] at runs
    obtain ⟨outcome, after⟩ := Prod.mk.inj (Option.some.inj runs)
    have buffer : (outbound.push frame).2.buffer = outbound.buffer ++ wire :=
      congrArg Destination.content after
    exact ⟨wire, ⟨encoded, length⟩,
      Prod.ext outcome (congrArg Outbound.mk buffer)⟩
  · exact absurd trivial isImpossible

/-- However many frames are written, the buffer gets each as a whole. -/
theorem exists_pushAll_eq (outbound : Outbound) (frames : List Frame) :
    ∃ wires : List Bytes,
      List.Forall₂
          (fun frame wire =>
            frame.encode = .ok wire ∧ wire.length = frame.encodedLength)
          frames wires
        ∧ outbound.pushAll frames
          = (frames.map fun _ => .ok (),
            { buffer := outbound.buffer ++ wires.flatten }) := by
  induction frames generalizing outbound with
  | nil =>
      refine ⟨[], .nil, ?_⟩
      rw [List.flatten_nil, List.append_nil]
      rfl
  | cons frame frames inductionHypothesis =>
      obtain ⟨wire, whole, pushed⟩ := outbound.exists_push_eq frame
      obtain ⟨wires, wholes, pushedAll⟩ :=
        inductionHypothesis { buffer := outbound.buffer ++ wire }
      refine ⟨wire :: wires, .cons whole wholes, ?_⟩
      simp only [pushAll, pushed, pushedAll, List.map_cons, List.flatten_cons,
        List.append_assoc]

end Outbound

/-- An encoder that returns has appended all of the foretold bytes and
succeeded, or has appended none and failed, and it always returns where there is
room. So the buffer of frames to be sent only ever holds whole frames. -/
theorem WireValue.emit_all_or_nothing :
    (∀ (value : WireValue) (destination : Destination),
      (value.Writable ∧ ∃ wire : Bytes,
        value.emit.result = .ok wire ∧ wire.length = value.encodedLength
          ∧ value.emit.runOn? destination
            = if destination.takes wire.length then
                some (.ok (), destination.extend wire)
              else
                none)
        ∨ ¬value.Writable ∧ ∃ fault,
          value.emit.runOn? destination
            = some (.error (.encode fault), destination))
      ∧ ∀ (outbound : Outbound) (frames : List Frame),
        ∃ wires : List Bytes,
          List.Forall₂
              (fun frame wire =>
                frame.encode = .ok wire ∧ wire.length = frame.encodedLength)
              frames wires
            ∧ outbound.pushAll frames
              = (frames.map fun _ => .ok (),
                { buffer := outbound.buffer ++ wires.flatten }) := by
  refine ⟨?_, Outbound.exists_pushAll_eq⟩
  intro value destination
  exact value.whole_emit.all_or_nothing destination

end PlcLink
