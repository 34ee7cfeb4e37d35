import Mathlib
import PlcLink.Pdu.Body
import PlcLink.Proofs.Failure

/-!
# Reading what sections hold

Addresses, data items and user-data parameters that were written are read back
as they were, and whatever follows them is handed out.
-/

namespace PlcLink
namespace Emission

/-- Two encoders in a row succeed only if each does. -/
theorem exists_of_append {first second : Emission} {written : Bytes}
    (ran : (first ++ second).result = .ok written) :
    ∃ front back,
      first.result = .ok front ∧ second.result = .ok back
        ∧ written = front ++ back := by
  obtain ⟨front, firstFailure⟩ := first
  obtain ⟨back, secondFailure⟩ := second
  cases firstFailure with
  | some error => cases ran
  | none =>
      cases secondFailure with
      | some error => cases ran
      | none => exact ⟨front, back, rfl, rfl, (Except.ok.inj ran).symm⟩

/-- Two encoders in a row succeed if each does. -/
theorem result_append {first second : Emission} {front back : Bytes}
    (firstRan : first.result = .ok front)
    (secondRan : second.result = .ok back) :
    (first ++ second).result = .ok (front ++ back) := by
  obtain ⟨firstWritten, firstFailure⟩ := first
  obtain ⟨secondWritten, secondFailure⟩ := second
  cases firstFailure with
  | some error => cases firstRan
  | none =>
      cases secondFailure with
      | some error => cases secondRan
      | none =>
          cases firstRan
          cases secondRan
          rfl

/-- An encoder that stops lets none run behind it. -/
theorem result_append_of_error {first second : Emission} {error : Error}
    (failed : first.result = .error error) :
    (first ++ second).result = .error error := by
  obtain ⟨written, failure⟩ := first
  cases failure with
  | some other => exact failed
  | none => cases failed

theorem result_append_of_ok {first second : Emission} {written : Bytes}
    {error : Error} (ran : first.result = .ok written)
    (failed : second.result = .error error) :
    (first ++ second).result = .error error := by
  obtain ⟨firstWritten, firstFailure⟩ := first
  obtain ⟨secondWritten, secondFailure⟩ := second
  cases firstFailure with
  | some other => cases ran
  | none =>
      cases secondFailure with
      | some other => exact failed
      | none => cases failed

end Emission

@[simp] theorem TransportSize.ofByte?_toByte (size : TransportSize) :
    TransportSize.ofByte? size.toByte = some size := by
  cases size <;> rfl

@[simp] theorem Area.ofByte?_toByte (area : Area) :
    Area.ofByte? area.toByte = some area := by
  cases area <;> rfl

@[simp] theorem VariableType.ofByte?_toByte (variableType : VariableType) :
    VariableType.ofByte? variableType.toByte = some variableType := by
  cases variableType <;> rfl

namespace ReturnCode

/-- The bytes that have a return code of their own. -/
def knownBytes : List UInt8 :=
  [0x00, 0xFF, 0x01, 0x03, 0x05, 0x06, 0x07, 0x0A, 0x0B]

/-- An unknown code is the code of no known byte. -/
def Normal : ReturnCode -> Prop
  | unknown value => value ∉ knownBytes
  | _ => True

/-- A code in normal form reads back. -/
theorem ofByte_toByte {code : ReturnCode} (normal : code.Normal) :
    ofByte code.toByte = code := by
  cases code with
  | unknown value =>
      have notKnown : ∀ known ∈ knownBytes, value.toNat ≠ known.toNat :=
        fun known isKnown same =>
          normal (UInt8.toNat_inj.1 same ▸ isKnown)
      simp only [knownBytes, List.forall_mem_cons] at notKnown
      unfold toByte ofByte
      split <;> simp_all
  | _ => rfl

end ReturnCode

namespace VarSpec

/-- A bit index has three bits. -/
def Normal (spec : VarSpec) : Prop :=
  spec.bitIndex ≤ 7

/-- A number of 24 bits read back from its three bytes. -/
theorem join_addressBytes {value : Nat} (bound : value < 16777216) :
    ((UInt8.ofNat (value / 65536)).toNat * 256
        + (UInt8.ofNat (value / 256 % 256)).toNat) * 256
      + (UInt8.ofNat (value % 256)).toNat = value := by
  simp only [UInt8.toNat_ofNat']
  omega

variable {spec : VarSpec}

theorem addressBits_lt (spec : VarSpec) : spec.addressBits < 16777216 := by
  unfold addressBits
  omega

/-- An address in normal form reads back. -/
theorem parse_emit {written : Bytes}
    (normal : spec.Normal)
    (emitted : spec.emit.result = .ok written) (rest : Bytes) :
    parse (written ++ rest) = .ok (spec, rest) := by
  unfold emit at emitted
  split at emitted
  · cases emitted
  · rename_i inRange
    rw [Emission.result_bytes] at emitted
    cases emitted
    -- Below the bound no bit of the address is cut off, and the index fills the
    -- three bits that are left.
    have addressBound : spec.byteAddress.toNat ≤ 2097151 :=
      UInt32.le_iff_toNat_le.1 (UInt32.not_lt.1 inRange)
    have indexBound : spec.bitIndex.toNat ≤ 7 :=
      UInt8.le_iff_toNat_le.1 normal
    have address : UInt32.ofNat (spec.addressBits / 8)
        = spec.byteAddress := by
      rw [← UInt32.ofNat_toNat (x := spec.byteAddress), addressBits]
      congr 1
      omega
    have index : UInt8.ofNat (spec.addressBits % 8) = spec.bitIndex := by
      rw [← UInt8.ofNat_toNat (x := spec.bitIndex), addressBits]
      congr 1
      omega
    simp only [Word.bytes16, List.cons_append, List.nil_append, parse]
    rw [if_neg (by decide)]
    simp only [TransportSize.ofByte?_toByte, Area.ofByte?_toByte,
      Word.ofBytes16_high_low, join_addressBytes spec.addressBits_lt,
      address, index]

/-- Addresses written one after the other read back. -/
theorem parseMany_emitMany {specs : List VarSpec} {written : Bytes}
    (normal : ∀ spec ∈ specs, spec.Normal)
    (emitted : (emitMany specs).result = .ok written) (rest : Bytes) :
    parseMany specs.length (written ++ rest) = .ok (specs, rest) := by
  induction specs generalizing written with
  | nil =>
      cases Except.ok.inj emitted
      rfl
  | cons spec specs inductionHypothesis =>
      obtain ⟨firstNormal, normal⟩ := List.forall_mem_cons.1 normal
      obtain ⟨front, back, first, others, rfl⟩ :=
        Emission.exists_of_append emitted
      rw [List.length_cons, parseMany, List.append_assoc,
        parse_emit firstNormal first]
      change (parseMany specs.length (back ++ rest)).bind _ = _
      rw [inductionHypothesis normal others]
      rfl

end VarSpec

namespace DataItem

/-- The counted length of an item stands for the bytes it carries. -/
theorem byteLength_countedLength (item : DataItem)
    (fits : item.countedLength < 65536) :
    byteLength item.variableType (UInt16.ofNat item.countedLength)
      = item.data.length := by
  unfold byteLength
  rw [UInt16.toNat_ofNat_of_lt' fits, countedLength]
  split <;> omega

/-- An item whose return code is in normal form reads back. -/
theorem parse_emit {item : DataItem} {isLast : Bool} {written : Bytes}
    (normal : item.returnCode.Normal)
    (emitted : (item.emit isLast).result = .ok written) (rest : Bytes) :
    parse isLast (written ++ rest) = .ok (item, rest) := by
  unfold emit at emitted
  split at emitted
  · rename_i fits
    rw [Emission.result_bytes] at emitted
    cases emitted
    have counted := item.byteLength_countedLength fits
    simp only [Word.bytes16, List.cons_append, List.nil_append,
      List.append_assoc, parse, VariableType.ofByte?_toByte,
      Word.ofBytes16_high_low, counted, ReturnCode.ofByte_toByte normal]
    rw [if_neg (by simp), List.take_left, List.drop_left]
    by_cases noFill : item.fill isLast = 0
    · rw [if_pos noFill, noFill]
      rfl
    · have oneFill : item.fill isLast = 1 := by
        unfold fill at noFill ⊢
        split at noFill
        · rename_i odd
          rw [if_pos odd]
        · exact absurd rfl noFill
      rw [if_neg noFill, oneFill]
      rfl
  · cases emitted

/-- A list of items reads back if the return codes are in normal form. -/
theorem parseMany_emitMany {items : List DataItem} {written : Bytes}
    (normal : ∀ item ∈ items, item.returnCode.Normal)
    (emitted : (emitMany items).result = .ok written) (rest : Bytes) :
    parseMany items.length (written ++ rest) = .ok (items, rest) := by
  induction items generalizing written with
  | nil =>
      cases Except.ok.inj emitted
      rfl
  | cons item items inductionHypothesis =>
      obtain ⟨firstNormal, normal⟩ := List.forall_mem_cons.1 normal
      obtain ⟨front, back, first, others, rfl⟩ :=
        Emission.exists_of_append emitted
      have isLast : (items.length == 0) = items.isEmpty := by
        cases items <;> rfl
      rw [List.length_cons, parseMany, isLast, List.append_assoc,
        parse_emit firstNormal first]
      change (parseMany items.length (back ++ rest)).bind _ = _
      rw [inductionHypothesis normal others]
      rfl

theorem emitMany_singleton (item : DataItem) :
    emitMany [item] = item.emit true := by
  change (item.emit true).append (.bytes []) = item.emit true
  obtain ⟨written, failure⟩ := item.emit true
  cases failure with
  | some error => rfl
  | none => rw [Emission.append, Emission.bytes, List.append_nil]

theorem parseAll_emitMany {items : List DataItem} {written : Bytes}
    (normal : ∀ item ∈ items, item.returnCode.Normal)
    (emitted : (emitMany items).result = .ok written) :
    parseAll items.length written = .ok items := by
  have read := parseMany_emitMany normal emitted []
  rw [List.append_nil] at read
  rw [parseAll, read]
  rfl

end DataItem

namespace UserData

@[simp] theorem FunctionType.ofByte?_toByte (type : FunctionType) :
    FunctionType.ofByte? type.toByte = some type := by
  cases type <;> rfl

@[simp] theorem FunctionGroup.ofByte?_toByte (group : FunctionGroup) :
    FunctionGroup.ofByte? group.toByte = some group := by
  cases group <;> rfl

/-- Two half bytes read back from the byte they make. -/
theorem halves_join (type : FunctionType) (group : FunctionGroup) :
    (UInt8.ofNat (type.toByte.toNat * 16 + group.toByte.toNat)).toNat / 16
        = type.toByte.toNat
      ∧ (UInt8.ofNat
          (type.toByte.toNat * 16 + group.toByte.toNat)).toNat % 16
        = group.toByte.toNat := by
  cases type <;> cases group <;> decide

namespace Parameter

/-- The long form has every field; the short form leaves three at rest. -/
def Normal (parameter : Parameter) : Prop :=
  parameter.method = longMethod
    ∨ parameter.dataUnitRef = 0
      ∧ parameter.isLast = true ∧ parameter.error = 0

/-- A parameter in normal form reads back. -/
theorem parse_emit {parameter : Parameter} {written : Bytes}
    (normal : parameter.Normal)
    (emitted : parameter.emit.result = .ok written) :
    parse written = .ok parameter := by
  obtain ⟨method, type, group, subfunction, sequence, dataUnitRef, isLast,
    error⟩ := parameter
  obtain ⟨typeHalf, groupHalf⟩ := halves_join type group
  rw [emit, Emission.result_bytes] at emitted
  cases emitted
  -- Only the long form writes the last three fields.
  by_cases long : method = longMethod
  · subst long
    have more : ((if isLast then 0 else 1 : UInt8) == 0) = isLast := by
      cases isLast <;> rfl
    simp only [isLong, beq_self_eq_true, if_true, Word.bytes16,
      List.cons_append, List.nil_append, parse]
    rw [if_neg (by simp)]
    simp only [parseBody, typeHalf, groupHalf, UInt8.ofNat_toNat,
      FunctionType.ofByte?_toByte, FunctionGroup.ofByte?_toByte,
      Word.ofBytes16_high_low, more]
  · have short : (method == longMethod) = false := beq_eq_false_iff_ne.2 long
    obtain ⟨rfl, rfl, rfl⟩ := normal.resolve_left long
    simp only [isLong, short, Bool.false_eq_true, if_false,
      List.cons_append, List.nil_append, parse]
    rw [if_neg (by simp)]
    simp only [parseBody, typeHalf, groupHalf, UInt8.ofNat_toNat,
      FunctionType.ofByte?_toByte, FunctionGroup.ofByte?_toByte]

end Parameter
end UserData
end PlcLink
