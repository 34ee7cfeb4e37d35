import Mathlib
import PlcLink.Proofs.Pdu.Sections
import PlcLink.Proofs.Pdu.WireForm

/-!
# Reading what was written

A PDU made of a body is read back as it was, and so is the body in it. A body
in normal form says nothing that its wire form has no room for.
-/

namespace PlcLink

@[simp] theorem Function.ofByte?_toByte (function : Function) :
    Function.ofByte? function.toByte = some function := by
  cases function <;> rfl

@[simp] theorem Setup.parse_encode (setup : Setup) :
    Setup.parse setup.encode = .ok setup := by
  simp only [Setup.encode, Word.bytes16, List.cons_append, List.nil_append,
    Setup.parse, Word.ofBytes16_high_low]

namespace Pdu

variable {type : PduType} {reference : UInt16} {parameter data : Bytes}
  {pdu : Pdu}

theorem ofSections_eq_ok
    (made : ofSections type reference parameter data = .ok pdu) :
    parameter.length < 65536 ∧ data.length < 65536
      ∧ pdu
        = { header :=
              .ofLengths type reference (UInt16.ofNat parameter.length)
                (UInt16.ofNat data.length)
            parameter
            data } := by
  unfold ofSections at made
  split at made
  · cases made
  · split at made
    · cases made
    · rename_i parameterFits dataFits
      exact ⟨Nat.lt_of_not_le parameterFits, Nat.lt_of_not_le dataFits,
        (Except.ok.inj made).symm⟩

theorem announced_of_ofSections
    (made : ofSections type reference parameter data = .ok pdu) :
    pdu.Announced := by
  obtain ⟨parameterFits, dataFits, rfl⟩ := ofSections_eq_ok made
  exact ⟨UInt16.toNat_ofNat_of_lt' parameterFits,
    UInt16.toNat_ofNat_of_lt' dataFits⟩

/-- A PDU made of two sections is written, and reads back as a whole. -/
theorem parse_encode
    (made : ofSections type reference parameter data = .ok pdu) :
    ∃ raw, pdu.encode = .ok raw ∧ parse raw = .ok pdu
      ∧ raw.length = pdu.encodedLength := by
  have announced := announced_of_ofSections made
  have normal : pdu.header.Normal := by
    obtain ⟨-, -, rfl⟩ := ofSections_eq_ok made
    apply Header.normal_ofLengths
  refine ⟨pdu.wire, encode_of_announced announced, ?_, pdu.length_wire⟩
  apply parse_eq_ok_iff_wire.2
  exact ⟨normal, announced, rfl⟩

/-- The first byte of a parameter section names the function. -/
theorem functionOf_eq_ok {function : Function} {rest : Bytes}
    (names : pdu.parameter = function.toByte :: rest) :
    pdu.functionOf = .ok function := by
  simp only [functionOf, function?, names, List.head?_cons,
    Function.ofByte?_toByte]

theorem decode_job {function : Function} {rest : Bytes}
    (isJob : pdu.header.type = .job)
    (names : pdu.parameter = function.toByte :: rest) :
    pdu.decode = pdu.decodeJob function := by
  rw [decode, isJob]
  change pdu.functionOf.bind _ = _
  rw [functionOf_eq_ok names]
  rfl

theorem decode_reply {function : Function} {rest : Bytes}
    (isReply : pdu.header.type = .ackData)
    (names : pdu.parameter = function.toByte :: rest) :
    pdu.decode = pdu.decodeReply function := by
  rw [decode, isReply]
  change pdu.functionOf.bind _ = _
  rw [functionOf_eq_ok names]
  rfl

end Pdu

namespace Body

/-- What a body says has room in its wire form. -/
def Normal : Body -> Prop
  | setupRequest _ | setupResponse _ | ack => True
  | readRequest specs => ∀ spec ∈ specs, spec.Normal
  | readResponse items => ∀ item ∈ items, item.returnCode.Normal
  | writeRequest items => ∀ item ∈ items, item.spec.Normal
  | writeResponse codes => ∀ code ∈ codes, code.Normal
  | userData parameter item? =>
      parameter.Normal ∧ ∀ item ∈ item?, item.returnCode.Normal

theorem emitFunctionAndCount_eq_ok {function : Function} {count : Nat}
    {written : Bytes}
    (emitted : (emitFunctionAndCount function count).result = .ok written) :
    (UInt8.ofNat count).toNat = count
      ∧ written = [function.toByte, UInt8.ofNat count] := by
  unfold emitFunctionAndCount at emitted
  split at emitted
  · rename_i fits
    exact ⟨UInt8.toNat_ofNat_of_lt' fits, (Except.ok.inj emitted).symm⟩
  · cases emitted

/-- Addresses behind a count read back. -/
theorem decodeSpecs_emitMany {specs : List VarSpec} {count : UInt8}
    {written : Bytes}
    (normal : ∀ spec ∈ specs, spec.Normal)
    (counted : count.toNat = specs.length)
    (emitted : (VarSpec.emitMany specs).result = .ok written) :
    Pdu.decodeSpecs count written = .ok specs := by
  have read := VarSpec.parseMany_emitMany normal emitted []
  rw [List.append_nil] at read
  rw [Pdu.decodeSpecs, counted, read]
  rfl

/-- Addresses and items that were made of what to write join to it. -/
theorem joinWrites_map (items : List WriteItem) :
    Pdu.joinWrites (items.map WriteItem.spec)
      (items.map WriteItem.toDataItem) = items := by
  rw [Pdu.joinWrites, List.zipWith_map, List.zipWith_self]
  exact List.map_id items

/-- A body in normal form is read back from its sections. -/
theorem decode_sections {body : Body} {pdu : Pdu}
    (normal : body.Normal)
    (typeMatches : pdu.header.type = body.pduType)
    (parameter : body.emitParameter.result = .ok pdu.parameter)
    (data : body.emitData.result = .ok pdu.data) :
    pdu.decode = .ok body := by
  cases body with
  | setupRequest setup =>
      have isParameter := (Except.ok.inj parameter).symm
      rw [Pdu.decode_job typeMatches isParameter, Pdu.decodeJob, isParameter]
      exact (bind_eq_of_eq_ok setup.parse_encode).trans rfl
  | setupResponse setup =>
      have isParameter := (Except.ok.inj parameter).symm
      rw [Pdu.decode_reply typeMatches isParameter, Pdu.decodeReply,
        isParameter]
      exact (bind_eq_of_eq_ok setup.parse_encode).trans rfl
  | readRequest specs =>
      obtain ⟨front, addresses, counts, written, isParameter⟩ :=
        Emission.exists_of_append parameter
      obtain ⟨counted, rfl⟩ := emitFunctionAndCount_eq_ok counts
      rw [Pdu.decode_job typeMatches isParameter, Pdu.decodeJob, isParameter]
      have specsRead := decodeSpecs_emitMany normal counted written
      exact (bind_eq_of_eq_ok specsRead).trans rfl
  | readResponse items =>
      obtain ⟨counted, isParameter⟩ := emitFunctionAndCount_eq_ok parameter
      rw [Pdu.decode_reply typeMatches isParameter, Pdu.decodeReply,
        isParameter]
      have read := DataItem.parseAll_emitMany normal data
      rw [← counted] at read
      exact (bind_eq_of_eq_ok read).trans rfl
  | writeRequest items =>
      obtain ⟨front, addresses, counts, written, isParameter⟩ :=
        Emission.exists_of_append parameter
      obtain ⟨counted, rfl⟩ := emitFunctionAndCount_eq_ok counts
      have specsNormal : ∀ spec ∈ items.map WriteItem.spec, spec.Normal :=
        List.forall_mem_map.2 normal
      have itemsNormal : ∀ item ∈ items.map WriteItem.toDataItem,
          item.returnCode.Normal :=
        List.forall_mem_map.2 fun _ _ => trivial
      have specsRead := decodeSpecs_emitMany specsNormal
        (counted.trans (List.length_map _).symm) written
      have itemsRead := DataItem.parseAll_emitMany itemsNormal data
      rw [List.length_map, ← counted] at itemsRead
      rw [Pdu.decode_job typeMatches isParameter, Pdu.decodeJob, isParameter]
      change (Pdu.decodeSpecs (UInt8.ofNat items.length) addresses).bind _ = _
      rw [specsRead]
      change (DataItem.parseAll (UInt8.ofNat items.length).toNat
        pdu.data).bind _ = _
      rw [itemsRead]
      exact congrArg (Except.ok ∘ writeRequest) (joinWrites_map items)
  | writeResponse codes =>
      obtain ⟨counted, isParameter⟩ := emitFunctionAndCount_eq_ok parameter
      have isData : pdu.data = codes.map ReturnCode.toByte :=
        (Except.ok.inj data).symm
      rw [Pdu.decode_reply typeMatches isParameter, Pdu.decodeReply,
        isParameter, isData]
      have codesRead : (codes.map ReturnCode.toByte).map ReturnCode.ofByte
          = codes := by
        rw [List.map_map]
        conv_rhs => rw [← List.map_id codes]
        exact List.map_congr_left fun code member =>
          ReturnCode.ofByte_toByte (normal code member)
      change (if _ then _ else _) = _
      rw [if_neg (by rw [List.length_map, counted]; exact not_not.2 rfl),
        codesRead]
      rfl
  | userData parameterOf item? =>
      obtain ⟨parameterNormal, itemNormal⟩ := normal
      rw [Pdu.decode, typeMatches]
      change (UserData.Parameter.parse pdu.parameter).bind _ = _
      rw [UserData.Parameter.parse_emit parameterNormal parameter]
      cases item? with
      | none =>
          have isData : pdu.data = [] := (Except.ok.inj data).symm
          exact if_pos isData
      | some item =>
          rw [emitData, ← DataItem.emitMany_singleton] at data
          have read := DataItem.parseAll_emitMany
            (List.forall_mem_singleton.2 (itemNormal item rfl)) data
          have someData : pdu.data ≠ [] := by
            intro noData
            rw [noData] at read
            cases read
          change (if _ then _ else _) = _
          rw [if_neg someData]
          exact (bind_eq_of_eq_ok read).trans rfl
  | ack =>
      rw [Pdu.decode, typeMatches]
      rfl

/-- A body in normal form that is written under a reference is read back, and
so is its PDU. -/
theorem decode_toPdu {body : Body} {reference : UInt16} {pdu : Pdu}
    (normal : body.Normal)
    (made : body.toPdu reference = .ok pdu) :
    ∃ raw, pdu.encode = .ok raw ∧ Pdu.parse raw = .ok pdu
      ∧ raw.length = pdu.encodedLength
      ∧ pdu.reference = reference
      ∧ pdu.decode = .ok body := by
  obtain ⟨parameter, parameterWritten, made⟩ := exists_of_bind_eq_ok made
  obtain ⟨data, dataWritten, made⟩ := exists_of_bind_eq_ok made
  obtain ⟨raw, encoded, parsed, length⟩ := Pdu.parse_encode made
  obtain ⟨-, -, rfl⟩ := Pdu.ofSections_eq_ok made
  exact ⟨raw, encoded, parsed, length, rfl,
    decode_sections normal rfl parameterWritten dataWritten⟩

/-- Three writes, of which the second alone is followed by a fill byte. -/
def oddWrites : Body :=
  .writeRequest
    [.ofBytes .marker 0 10 [], .ofBytes .dataBlock 5 2 [1, 2, 3],
      { spec := .singleBit .output 0 4 6, data := [1] }]

theorem decode_toPdu_oddWrites :
    ∃ pdu,
      oddWrites.toPdu 0x0102 = .ok pdu
        ∧ pdu.data.length = 17
        ∧ ∃ raw, pdu.encode = .ok raw ∧ Pdu.parse raw = .ok pdu
          ∧ raw.length = 65
          ∧ pdu.decode = .ok oddWrites := by
  have lengths :
      (oddWrites.toPdu 0x0102).map
        (fun pdu => (pdu.data.length, pdu.encodedLength)) = .ok (17, 65) := by
    decide +kernel
  obtain ⟨pdu, made, lengths⟩ := exists_of_map_eq_ok lengths
  obtain ⟨dataLength, wholeLength⟩ := Prod.mk.inj lengths
  have normal : oddWrites.Normal := by
    unfold oddWrites Normal VarSpec.Normal
    decide
  obtain ⟨raw, encoded, parsed, length, -, decoded⟩ :=
    decode_toPdu normal made
  exact ⟨pdu, made, dataLength, raw, encoded, parsed,
    length.trans wholeLength, decoded⟩

end Body
end PlcLink
