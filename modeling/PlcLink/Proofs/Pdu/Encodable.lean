import Mathlib
import PlcLink.Proofs.Pdu.Lengths

/-!
# Bodies that have a wire form

A request or a reply has a PDU if its items are few enough to be counted, its
addresses have a wire form, and the lengths of its items can be counted.
-/

namespace PlcLink
namespace VarSpec

/-- Addresses that have a wire form, and are few enough to be counted. -/
def Encodable (specs : List VarSpec) : Prop :=
  specs.length ≤ 255 ∧ ∀ spec ∈ specs, spec.byteAddress ≤ maxByteAddress

instance (specs : List VarSpec) : Decidable (Encodable specs) :=
  inferInstanceAs (Decidable (_ ∧ _))

theorem inRange_of_emit {spec : VarSpec} {written : Bytes}
    (emitted : spec.emit.result = .ok written) :
    spec.byteAddress ≤ maxByteAddress := by
  unfold emit at emitted
  split at emitted
  · cases emitted
  · rename_i inRange
    exact UInt32.not_lt.1 inRange

theorem exists_emitMany {specs : List VarSpec}
    (inRange : ∀ spec ∈ specs, spec.byteAddress ≤ maxByteAddress) :
    ∃ written,
      (emitMany specs).result = .ok written
        ∧ written.length = wireLength * specs.length := by
  induction specs with
  | nil => exact ⟨[], rfl, rfl⟩
  | cons spec others inductionHypothesis =>
      obtain ⟨firstInRange, inRange⟩ := List.forall_mem_cons.1 inRange
      obtain ⟨front, emitted, frontLength⟩ := exists_emit firstInRange
      obtain ⟨back, othersEmitted, backLength⟩ := inductionHypothesis inRange
      refine ⟨front ++ back, Emission.result_append emitted othersEmitted, ?_⟩
      rw [List.length_append, frontLength, backLength, List.length_cons,
        Nat.mul_succ, Nat.add_comm]

theorem inRange_of_emitMany {specs : List VarSpec} {written : Bytes}
    (emitted : (emitMany specs).result = .ok written) :
    ∀ spec ∈ specs, spec.byteAddress ≤ maxByteAddress := by
  induction specs generalizing written with
  | nil => simp
  | cons spec others inductionHypothesis =>
      obtain ⟨front, back, first, rest, -⟩ :=
        Emission.exists_of_append emitted
      exact List.forall_mem_cons.2
        ⟨inRange_of_emit first, inductionHypothesis rest⟩

end VarSpec

namespace DataItem

theorem exists_emitMany {items : List DataItem}
    (short : ∀ item ∈ items, item.countedLength < 65536) :
    ∃ written,
      (emitMany items).result = .ok written
        ∧ written.length = encodedLengthMany items := by
  induction items with
  | nil => exact ⟨[], rfl, rfl⟩
  | cons item others inductionHypothesis =>
      obtain ⟨firstShort, short⟩ := List.forall_mem_cons.1 short
      obtain ⟨front, emitted, frontLength⟩ :=
        exists_emit firstShort others.isEmpty
      obtain ⟨back, othersEmitted, backLength⟩ := inductionHypothesis short
      refine ⟨front ++ back, Emission.result_append emitted othersEmitted, ?_⟩
      rw [List.length_append, frontLength, backLength, encodedLengthMany]

/-- Items that are few enough to be counted, each with a length that can be
counted. -/
def Encodable (items : List DataItem) : Prop :=
  items.length ≤ 255 ∧ ∀ item ∈ items, item.countedLength < 65536

instance (items : List DataItem) : Decidable (Encodable items) :=
  inferInstanceAs (Decidable (_ ∧ _))

end DataItem

namespace Body

variable {function : Function} {specs : List VarSpec} {parameter data : Bytes}

/-- The addresses of a request are written behind their number. -/
theorem exists_emitAddresses (function : Function)
    (encodable : VarSpec.Encodable specs) :
    ∃ parameter,
      (emitFunctionAndCount function specs.length
          ++ VarSpec.emitMany specs).result
        = .ok parameter
        ∧ parameter.length < 65536 := by
  obtain ⟨few, inRange⟩ := encodable
  obtain ⟨addresses, written, length⟩ := VarSpec.exists_emitMany inRange
  have counted := emitFunctionAndCount_of_few function few
  refine ⟨_, Emission.result_append counted written, ?_⟩
  rw [List.length_append, length, VarSpec.wireLength]
  simp only [List.length_cons, List.length_nil]
  omega

theorem encodable_of_emitAddresses
    (written : (emitFunctionAndCount function specs.length
      ++ VarSpec.emitMany specs).result = .ok parameter) :
    VarSpec.Encodable specs := by
  obtain ⟨front, back, counted, addresses, -⟩ :=
    Emission.exists_of_append written
  refine ⟨?_, VarSpec.inRange_of_emitMany addresses⟩
  unfold emitFunctionAndCount at counted
  split at counted
  · rename_i few
    exact Nat.le_of_lt_succ few
  · cases counted

/-- The two sections of a body make a PDU if they are short enough. -/
theorem exists_toPdu {body : Body} (reference : UInt16)
    (parameterWritten : body.emitParameter.result = .ok parameter)
    (dataWritten : body.emitData.result = .ok data)
    (parameterFits : parameter.length < 65536)
    (dataFits : data.length < 65536) :
    ∃ pdu, body.toPdu reference = .ok pdu := by
  rw [toPdu, parameterWritten]
  change ∃ pdu, (body.emitData.result.bind _) = _
  rw [dataWritten]
  change ∃ pdu, Pdu.ofSections _ _ _ _ = _
  rw [Pdu.ofSections, if_neg (Nat.not_le.2 parameterFits),
    if_neg (Nat.not_le.2 dataFits)]
  exact ⟨_, rfl⟩

/-- The first section of a PDU that was made. -/
theorem exists_emitParameter {body : Body} {reference : UInt16} {pdu : Pdu}
    (made : body.toPdu reference = .ok pdu) :
    ∃ parameter, body.emitParameter.result = .ok parameter := by
  obtain ⟨parameter, written, -⟩ := exists_of_bind_eq_ok made
  exact ⟨parameter, written⟩

/-- A request to read has a PDU if its addresses have a wire form. -/
theorem exists_toPdu_readRequest (specs : List VarSpec) (reference : UInt16) :
    (∃ pdu, (readRequest specs).toPdu reference = .ok pdu)
      ↔ VarSpec.Encodable specs := by
  constructor
  · rintro ⟨pdu, made⟩
    obtain ⟨parameter, written⟩ := exists_emitParameter made
    exact encodable_of_emitAddresses written
  · intro encodable
    obtain ⟨parameter, written, fits⟩ :=
      exists_emitAddresses .readVar encodable
    have noData : (readRequest specs).emitData.result = .ok [] := rfl
    exact exists_toPdu reference written noData fits (by decide)

/-- So has a request to write that carries no more than can be counted. -/
theorem exists_toPdu_writeRequest {items : List WriteItem}
    (reference : UInt16)
    (short : ∀ item ∈ items, item.toDataItem.countedLength < 65536)
    (fits : DataItem.encodedLengthMany (items.map WriteItem.toDataItem)
      < 65536) :
    (∃ pdu, (writeRequest items).toPdu reference = .ok pdu)
      ↔ VarSpec.Encodable (items.map WriteItem.spec) := by
  have count : (items.map WriteItem.spec).length = items.length :=
    List.length_map _
  constructor
  · rintro ⟨pdu, made⟩
    obtain ⟨parameter, written⟩ := exists_emitParameter made
    rw [emitParameter, ← count] at written
    exact encodable_of_emitAddresses written
  · intro encodable
    obtain ⟨parameter, written, parameterFits⟩ :=
      exists_emitAddresses .writeVar encodable
    rw [count] at written
    obtain ⟨data, dataWritten, length⟩ :=
      DataItem.exists_emitMany (List.forall_mem_map.2 short)
    exact exists_toPdu reference written dataWritten parameterFits
      (length.trans_lt fits)

theorem exists_toPdu_readResponse {items : List DataItem}
    (encodable : DataItem.Encodable items)
    (fits : DataItem.encodedLengthMany items < 65536) (reference : UInt16) :
    ∃ pdu, (readResponse items).toPdu reference = .ok pdu := by
  obtain ⟨data, written, length⟩ := DataItem.exists_emitMany encodable.2
  exact exists_toPdu reference
    (emitFunctionAndCount_of_few .readVar encodable.1) written
    (show 2 < 65536 by decide) (length.trans_lt fits)

theorem exists_toPdu_writeResponse {codes : List ReturnCode}
    (few : codes.length ≤ 255) (reference : UInt16) :
    ∃ pdu, (writeResponse codes).toPdu reference = .ok pdu := by
  have written : (writeResponse codes).emitData.result
      = .ok (codes.map ReturnCode.toByte) := rfl
  refine exists_toPdu reference
    (emitFunctionAndCount_of_few .writeVar few) written
    (show 2 < 65536 by decide) ?_
  rw [List.length_map]
  omega

end Body
end PlcLink
