import Mathlib
import PlcLink.Proofs.Pdu.RoundTrip

/-!
# How long PDUs are

What an encoder writes has the length that is foretold of it, down to the fill
bytes between items, unless it has no wire form at all. An encoder of a single
value then has written nothing; one of a list may have written some items.
-/

namespace PlcLink

/-- What was encoded has exactly the given length, unless it has no wire
form. -/
def TakesUp (outcome : Except Error Bytes) (length : Nat) : Prop :=
  (∃ wire, outcome = .ok wire ∧ wire.length = length)
    ∨ ∃ fault, outcome = .error (.encode fault)

theorem TakesUp.length_eq {wire : Bytes} {length : Nat}
    (takesUp : TakesUp (.ok wire) length) : wire.length = length := by
  obtain ⟨other, same, rfl⟩ | ⟨fault, failed⟩ := takesUp
  · rw [Except.ok.inj same]
  · cases failed

/-- An encoder blames the value it was given, not the caller. -/
theorem TakesUp.ne_invalidParameter {outcome : Except Error Bytes}
    {length : Nat} (takesUp : TakesUp outcome length) :
    outcome ≠ .error .invalidParameter := by
  rintro rfl
  obtain ⟨wire, encoded, -⟩ | ⟨fault, failed⟩ := takesUp
  · cases encoded
  · cases failed

namespace Emission

/-- The encoder appends exactly so many bytes, unless it stops for want of a
wire form. -/
def Appends (emission : Emission) (length : Nat) : Prop :=
  TakesUp emission.result length

theorem appends_bytes (written : Bytes) :
    (bytes written).Appends written.length :=
  .inl ⟨written, result_bytes written, rfl⟩

theorem appends_fail (fault : EncodeFault) (length : Nat) :
    (fail (.encode fault)).Appends length :=
  .inr ⟨fault, result_fail _⟩

theorem Appends.append {first second : Emission} {front back : Nat}
    (firstAppends : first.Appends front)
    (secondAppends : second.Appends back) :
    (first ++ second).Appends (front + back) := by
  obtain ⟨written, ran, rfl⟩ | ⟨fault, failed⟩ := firstAppends
  · obtain ⟨others, othersRan, rfl⟩ | ⟨fault, failed⟩ := secondAppends
    · exact .inl ⟨written ++ others, result_append ran othersRan,
        List.length_append⟩
    · exact .inr ⟨fault, result_append_of_ok ran failed⟩
  · exact .inr ⟨fault, result_append_of_error failed⟩

/-- The encoder appends all of so many bytes where that is possible, and else
stops for want of a wire form before it has appended any. -/
inductive Whole (possible : Prop) (length : Nat) : Emission -> Prop
  | written {wire : Bytes} (isPossible : possible)
      (isLength : wire.length = length) :
      Whole possible length (.bytes wire)
  | refused {fault : EncodeFault} (isImpossible : ¬possible) :
      Whole possible length (.fail (.encode fault))

theorem eq_bytes_of_result {emission : Emission} {wire : Bytes}
    (ran : emission.result = .ok wire) : emission = .bytes wire := by
  obtain ⟨written, failure⟩ := emission
  cases failure with
  | some error => cases ran
  | none =>
      cases ran
      rfl

theorem whole_bytes (wire : Bytes) : Whole True wire.length (bytes wire) :=
  .written trivial rfl

variable {possible : Prop} {length front back : Nat}
  {emission first second : Emission}

theorem Whole.appends (whole : Whole possible length emission) :
    emission.Appends length := by
  cases whole with
  | @written wire _ isLength => exact isLength ▸ appends_bytes wire
  | refused _ => exact appends_fail _ _

theorem Whole.of_possible (isPossible : possible)
    (whole : Whole True length emission) : Whole possible length emission := by
  cases whole with
  | written _ isLength => exact .written isPossible isLength
  | refused isImpossible => exact absurd trivial isImpossible

/-- What never refuses may stand behind what may refuse. The other way round
the first would have been written in vain. -/
theorem Whole.append (mayRefuse : Whole possible front first)
    (neverRefuses : Whole True back second) :
    Whole possible (front + back) (first ++ second) := by
  cases neverRefuses with
  | refused isImpossible => exact absurd trivial isImpossible
  | written _ backLength =>
      cases mayRefuse with
      | refused isImpossible => exact .refused isImpossible
      | written isPossible frontLength =>
          rw [bytes_append_bytes]
          refine .written isPossible ?_
          rw [List.length_append, frontLength, backLength]

end Emission

theorem VarSpec.exists_emit {spec : VarSpec}
    (inRange : spec.byteAddress ≤ maxByteAddress) :
    ∃ written, spec.emit.result = .ok written ∧ written.length = wireLength := by
  rw [emit, if_neg (UInt32.not_lt.2 inRange)]
  exact ⟨_, Emission.result_bytes _, rfl⟩

theorem VarSpec.whole_emit (spec : VarSpec) :
    spec.emit.Whole (spec.byteAddress ≤ maxByteAddress) spec.encodedLength := by
  by_cases inRange : spec.byteAddress ≤ maxByteAddress
  · obtain ⟨wire, emitted, length⟩ := exists_emit inRange
    rw [Emission.eq_bytes_of_result emitted]
    exact .written inRange length
  · rw [emit, if_pos (UInt32.not_le.1 inRange)]
    exact .refused inRange

theorem VarSpec.appends_emitMany (specs : List VarSpec) :
    (emitMany specs).Appends (wireLength * specs.length) := by
  induction specs with
  | nil => exact Emission.appends_bytes []
  | cons spec others inductionHypothesis =>
      have first : spec.emit.Appends wireLength := spec.whole_emit.appends
      have both := first.append inductionHypothesis
      rwa [Nat.add_comm, ← Nat.mul_succ] at both

theorem DataItem.exists_emit {item : DataItem}
    (short : item.countedLength < 65536) (isLast : Bool) :
    ∃ written,
      (item.emit isLast).result = .ok written
        ∧ written.length = item.encodedLength isLast := by
  rw [emit, if_pos short]
  refine ⟨_, Emission.result_bytes _, ?_⟩
  simp only [List.length_append, List.length_cons, List.length_nil,
    Word.length_bytes16, List.length_replicate, encodedLength, headerLength]

theorem DataItem.whole_emit (item : DataItem) (isLast : Bool) :
    (item.emit isLast).Whole (item.countedLength < 65536)
      (item.encodedLength isLast) := by
  by_cases short : item.countedLength < 65536
  · obtain ⟨wire, emitted, length⟩ := exists_emit short isLast
    rw [Emission.eq_bytes_of_result emitted]
    exact .written short length
  · rw [emit, if_neg short]
    exact .refused short

theorem DataItem.appends_emitMany (items : List DataItem) :
    (emitMany items).Appends (encodedLengthMany items) := by
  induction items with
  | nil => exact Emission.appends_bytes []
  | cons item others inductionHypothesis =>
      have first := (item.whole_emit others.isEmpty).appends
      exact first.append inductionHypothesis

/-- A list of items is not longer than one that has data wherever it has
some. -/
theorem DataItem.encodedLengthMany_mono {items fuller : List DataItem}
    (fewer : List.Forall₂
      (fun item full => item.data = [] ∨ item.data.length = full.data.length)
      items fuller) :
    encodedLengthMany items ≤ encodedLengthMany fuller := by
  induction fewer with
  | nil => exact Nat.le_refl 0
  | @cons item full items fuller first rest inductionHypothesis =>
      have sameLast : items.isEmpty = fuller.isEmpty := by
        cases rest <;> rfl
      have firstFewer : item.encodedLength items.isEmpty
          ≤ full.encodedLength fuller.isEmpty := by
        rw [sameLast]
        obtain nothing | sameLength := first
        · simp [encodedLength, fill, nothing, Nat.add_assoc]
        · rw [encodedLength, encodedLength, fill, fill, sameLength]
      exact Nat.add_le_add firstFewer inductionHypothesis

namespace Body

/-- The wire form of a body under a job reference. -/
def encode (body : Body) (reference : UInt16) : Except Error Bytes := do
  (<- body.toPdu reference).encode

variable {body : Body}

theorem emitFunctionAndCount_of_few (function : Function) {count : Nat}
    (few : count ≤ 255) :
    (emitFunctionAndCount function count).result
      = .ok [function.toByte, UInt8.ofNat count] := by
  rw [emitFunctionAndCount, if_pos (Nat.lt_succ_of_le few)]
  rfl

theorem appends_emitFunctionAndCount (function : Function) (count : Nat) :
    (emitFunctionAndCount function count).Appends 2 := by
  unfold emitFunctionAndCount
  split
  · exact Emission.appends_bytes _
  · exact Emission.appends_fail _ _

/-- A PDU is as long as its header and the two sections. -/
theorem takesUp_encode (body : Body) {front back : Nat}
    (parameter : body.emitParameter.Appends front)
    (data : body.emitData.Appends back) (reference : UInt16) :
    TakesUp (body.encode reference)
      ((if body.pduType.hasErrorWord then 12 else 10) + front + back) := by
  unfold encode toPdu
  obtain ⟨parameter, written, rfl⟩ | ⟨fault, failed⟩ := parameter
  · obtain ⟨data, dataWritten, rfl⟩ | ⟨fault, failed⟩ := data
    · rw [written, dataWritten]
      change TakesUp
        ((Pdu.ofSections body.pduType reference parameter data).bind _) _
      cases made : Pdu.ofSections body.pduType reference parameter data with
      | ok pdu =>
          obtain ⟨wire, encoded, -, length⟩ := Pdu.parse_encode made
          obtain ⟨-, -, rfl⟩ := Pdu.ofSections_eq_ok made
          exact .inl ⟨wire, encoded, length⟩
      | error error =>
          unfold Pdu.ofSections at made
          split at made
          · cases made
            exact .inr ⟨_, rfl⟩
          · split at made
            · cases made
              exact .inr ⟨_, rfl⟩
            · cases made
    · rw [written, failed]
      exact .inr ⟨fault, rfl⟩
  · rw [failed]
    exact .inr ⟨fault, rfl⟩

theorem takesUp_readRequest (specs : List VarSpec) (reference : UInt16) :
    TakesUp ((readRequest specs).encode reference)
      (12 + VarSpec.wireLength * specs.length) := by
  have parameter := (appends_emitFunctionAndCount .readVar specs.length).append
    (VarSpec.appends_emitMany specs)
  have data := Emission.appends_bytes []
  convert takesUp_encode (readRequest specs) parameter data reference using 1
  simp only [pduType, PduType.hasErrorWord, Bool.false_eq_true, if_false,
    List.length_nil]
  omega

theorem takesUp_readResponse (items : List DataItem) (reference : UInt16) :
    TakesUp ((readResponse items).encode reference)
      (14 + DataItem.encodedLengthMany items) :=
  takesUp_encode (readResponse items)
    (appends_emitFunctionAndCount _ _) (DataItem.appends_emitMany items)
    reference

theorem takesUp_writeRequest (items : List WriteItem) (reference : UInt16) :
    TakesUp ((writeRequest items).encode reference)
      (12 + VarSpec.wireLength * items.length
        + DataItem.encodedLengthMany (items.map WriteItem.toDataItem)) := by
  have parameter :=
    (appends_emitFunctionAndCount .writeVar items.length).append
      (VarSpec.appends_emitMany (items.map WriteItem.spec))
  have data := DataItem.appends_emitMany (items.map WriteItem.toDataItem)
  convert takesUp_encode (writeRequest items) parameter data reference using 1
  simp only [pduType, PduType.hasErrorWord, Bool.false_eq_true, if_false,
    List.length_map]
  omega

theorem takesUp_writeResponse (codes : List ReturnCode) (reference : UInt16) :
    TakesUp ((writeResponse codes).encode reference) (14 + codes.length) := by
  have data := Emission.appends_bytes (codes.map ReturnCode.toByte)
  rw [List.length_map] at data
  exact takesUp_encode (writeResponse codes)
    (appends_emitFunctionAndCount _ _) data reference

theorem exists_encode {reference : UInt16} {pdu : Pdu}
    (made : body.toPdu reference = .ok pdu) :
    ∃ wire, body.encode reference = .ok wire
      ∧ wire.length = pdu.encodedLength := by
  obtain ⟨parameter, -, ofParameter⟩ := exists_of_bind_eq_ok made
  obtain ⟨data, -, ofSections⟩ := exists_of_bind_eq_ok ofParameter
  obtain ⟨wire, encoded, -, length⟩ := Pdu.parse_encode ofSections
  exact ⟨wire, (bind_eq_of_eq_ok made).trans encoded, length⟩

theorem exists_wire_of_toPdu {reference : UInt16}
    (made : ∃ pdu, body.toPdu reference = .ok pdu) :
    ∃ wire, body.encode reference = .ok wire := by
  obtain ⟨pdu, made⟩ := made
  obtain ⟨wire, encoded, -⟩ := exists_encode made
  exact ⟨wire, encoded⟩

end Body
end PlcLink
