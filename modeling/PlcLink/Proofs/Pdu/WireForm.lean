import Mathlib
import PlcLink.Pdu.Basic
import PlcLink.Proofs.Failure

/-!
# The wire form of a PDU

A PDU whose header announces its sections as they are has one wire form, and
reading accepts just the wire forms. A header in normal form says nothing that
its wire form has no room for.
-/

namespace PlcLink

@[simp] theorem PduType.ofByte?_toByte (type : PduType) :
    PduType.ofByte? type.toByte = some type := by
  cases type <;> rfl

theorem PduType.toByte_of_ofByte? {byte : UInt8} {type : PduType}
    (isType : PduType.ofByte? byte = some type) : type.toByte = byte := by
  apply UInt8.toNat.inj
  unfold PduType.ofByte? at isType
  split at isType <;> cases isType <;> exact Eq.symm ‹byte.toNat = _›

namespace ErrorClass

/-- The bytes that have a class of their own. -/
def knownBytes : List UInt8 :=
  [0x00, 0x81, 0x82, 0x83, 0x84, 0x85, 0x87]

/-- An unknown class is the class of no known byte. -/
def Normal : ErrorClass -> Prop
  | unknown value => value ∉ knownBytes
  | _ => True

@[simp] theorem toByte_ofByte (byte : UInt8) : (ofByte byte).toByte = byte := by
  apply UInt8.toNat.inj
  unfold ofByte
  split
  case h_8 => rfl
  all_goals exact Eq.symm ‹byte.toNat = _›

theorem normal_ofByte (byte : UInt8) : (ofByte byte).Normal := by
  unfold ofByte
  split
  case h_8 =>
    intro isKnown
    simp only [knownBytes, List.mem_cons, List.not_mem_nil, or_false]
      at isKnown
    obtain rfl | rfl | rfl | rfl | rfl | rfl | rfl := isKnown <;> contradiction
  all_goals trivial

/-- A class in normal form reads back. -/
theorem ofByte_toByte {errorClass : ErrorClass} (normal : errorClass.Normal) :
    ofByte errorClass.toByte = errorClass := by
  cases errorClass with
  | unknown value =>
      have notKnown : ∀ known ∈ knownBytes, value.toNat ≠ known.toNat :=
        fun known isKnown same =>
          normal (UInt8.toNat_inj.1 same ▸ isKnown)
      simp only [knownBytes, List.forall_mem_cons] at notKnown
      unfold toByte ofByte
      split <;> simp_all
  | _ => rfl

end ErrorClass

namespace ErrorCode

@[simp] theorem word_ofBytes (classByte code : UInt8) :
    (ofBytes classByte code).word = Word.ofBytes16 classByte code := by
  rw [word, ofBytes, ErrorClass.toByte_ofByte]

/-- An error whose class is in normal form reads back from its word. -/
theorem ofWord_word {error : ErrorCode} (normal : error.errorClass.Normal) :
    ofBytes (Word.high error.word) (Word.low error.word) = error := by
  rw [word, Word.high_ofBytes16, Word.low_ofBytes16, ofBytes,
    ErrorClass.ofByte_toByte normal]

end ErrorCode

namespace Header

/-- The error word is there for the types that carry one and for no others,
and its class is in normal form. -/
structure Normal (header : Header) : Prop where
  error_isSome : header.error?.isSome = header.type.hasErrorWord
  errorClass_normal : ∀ error ∈ header.error?, error.errorClass.Normal

theorem normal_ofLengths (type : PduType)
    (reference parameterLength dataLength : UInt16) :
    (ofLengths type reference parameterLength dataLength).Normal := by
  refine ⟨?_, ?_⟩
  · cases type <;> rfl
  · intro error isError
    unfold ofLengths at isError
    dsimp only at isError
    split at isError
    · cases isError
      exact ErrorClass.normal_ofByte 0
    · cases isError

theorem length_emit (header : Header) :
    header.emit.written.length = header.encodedLength := by
  unfold emit encodedLength
  cases header.type.hasErrorWord <;> rfl

/-- A header in normal form reads back. -/
theorem parse_emit {header : Header} (normal : header.Normal) (rest : Bytes) :
    parse (header.emit.written ++ rest) = .ok (header, rest) := by
  obtain ⟨type, reserved, reference, parameterLength, dataLength, error?⟩ :=
    header
  obtain ⟨isSome, classNormal⟩ := normal
  dsimp only at isSome classNormal
  have first : (identifier ≠ identifier) = False := by simp
  cases withError : type.hasErrorWord with
  | true =>
      rw [withError, Option.isSome_iff_exists] at isSome
      obtain ⟨error, rfl⟩ := isSome
      simp only [emit, Emission.bytes, withError, if_true, Word.bytes16,
        List.cons_append, List.nil_append, parse, first, if_false,
        PduType.ofByte?_toByte, Word.ofBytes16_high_low, Option.getD_some,
        ErrorCode.ofWord_word (classNormal error rfl)]
  | false =>
      rw [withError, Option.isSome_eq_false_iff, Option.isNone_iff_eq_none]
        at isSome
      subst isSome
      simp only [emit, Emission.bytes, withError, Bool.false_eq_true,
        if_false, Word.bytes16, List.cons_append, List.nil_append, parse,
        first, PduType.ofByte?_toByte, Word.ofBytes16_high_low]

/-- A header that was read is in normal form, and written back it gives the
bytes it was read from. -/
theorem normal_and_emit_of_parse {input rest : Bytes} {header : Header}
    (parsed : parse input = .ok (header, rest)) :
    header.Normal ∧ input = header.emit.written ++ rest := by
  unfold parse at parsed
  split at parsed
  case h_2 => cases parsed
  case h_1 first typeByte _ _ _ _ _ _ _ _ tail =>
    split at parsed
    · cases parsed
    rename_i isIdentifier
    cases Decidable.not_not.1 isIdentifier
    split at parsed
    · cases parsed
    rename_i type isType
    cases PduType.toByte_of_ofByte? isType
    dsimp only at parsed
    split at parsed
    · rename_i hasErrorWord
      split at parsed
      · rename_i errorClass code after
        cases parsed
        refine ⟨⟨hasErrorWord.symm, ?_⟩, ?_⟩
        · rintro error ⟨⟩
          exact ErrorClass.normal_ofByte errorClass
        · simp only [emit, Emission.bytes, hasErrorWord, if_true,
            Option.getD_some, ErrorCode.word_ofBytes, Word.bytes16_ofBytes16,
            List.cons_append, List.nil_append]
      · cases parsed
    · rename_i hasNoErrorWord
      cases parsed
      refine ⟨⟨(Bool.eq_false_of_not_eq_true hasNoErrorWord).symm, ?_⟩, ?_⟩
      · rintro error ⟨⟩
      · simp only [emit, Emission.bytes, hasNoErrorWord, Bool.false_eq_true,
          if_false, Word.bytes16_ofBytes16, List.cons_append, List.nil_append]

/-- Reading accepts the wire forms of headers in normal form, and no other
bytes. -/
theorem parse_eq_ok_iff {input rest : Bytes} {header : Header} :
    parse input = .ok (header, rest)
      ↔ header.Normal ∧ input = header.emit.written ++ rest := by
  refine ⟨normal_and_emit_of_parse, ?_⟩
  rintro ⟨normal, rfl⟩
  exact parse_emit normal rest

end Header

namespace Pdu

variable {pdu : Pdu} {raw : Bytes}

/-- The header announces the sections as they are. -/
structure Announced (pdu : Pdu) : Prop where
  parameterLength_eq :
    pdu.header.parameterLength.toNat = pdu.parameter.length
  dataLength_eq : pdu.header.dataLength.toNat = pdu.data.length

/-- The bytes of the header and of the sections, one after the other. -/
def wire (pdu : Pdu) : Bytes :=
  pdu.header.emit.written ++ (pdu.parameter ++ pdu.data)

theorem length_wire (pdu : Pdu) : pdu.wire.length = pdu.encodedLength := by
  rw [wire, List.length_append, List.length_append, Header.length_emit,
    encodedLength, Nat.add_assoc]

theorem encode_of_announced (announced : pdu.Announced) :
    pdu.encode = .ok pdu.wire := by
  have agree : ¬(pdu.header.parameterLength.toNat ≠ pdu.parameter.length
      ∨ pdu.header.dataLength.toNat ≠ pdu.data.length) := by
    rintro (parameter | data)
    · exact parameter announced.parameterLength_eq
    · exact data announced.dataLength_eq
  rw [wire, ← List.append_assoc]
  exact congrArg Emission.result (if_neg agree)

theorem encode_of_not_announced (notAnnounced : ¬pdu.Announced) :
    pdu.encode = .error (.encode .sectionLengthsDisagree) := by
  have disagree : pdu.header.parameterLength.toNat ≠ pdu.parameter.length
      ∨ pdu.header.dataLength.toNat ≠ pdu.data.length := by
    by_contra agree
    obtain ⟨parameter, data⟩ := not_or.1 agree
    exact notAnnounced ⟨not_not.1 parameter, not_not.1 data⟩
  exact congrArg Emission.result (if_pos disagree)

/-- Writing fails just for a header that announces other sections. -/
theorem exists_encode_eq_error_iff :
    (∃ error, pdu.encode = .error error) ↔ ¬pdu.Announced := by
  constructor
  · rintro ⟨error, failed⟩ announced
    cases (encode_of_announced announced).symm.trans failed
  · exact fun notAnnounced => ⟨_, encode_of_not_announced notAnnounced⟩

theorem encode_eq_ok_iff :
    pdu.encode = .ok raw ↔ pdu.Announced ∧ raw = pdu.wire := by
  by_cases announced : pdu.Announced
  · rw [encode_of_announced announced, Except.ok.injEq]
    exact ⟨fun same => ⟨announced, same.symm⟩, fun same => same.2.symm⟩
  · rw [encode_of_not_announced announced]
    exact ⟨fun written => (nomatch written),
      fun written => absurd written.1 announced⟩

/-- Reading fills both sections and leaves nothing over. -/
theorem parse_eq_ok_iff_wire :
    parse raw = .ok pdu
      ↔ pdu.header.Normal ∧ pdu.Announced ∧ raw = pdu.wire := by
  constructor
  · intro parsed
    obtain ⟨⟨header, rest⟩, isHeader, checked⟩ := exists_of_bind_eq_ok parsed
    obtain ⟨normal, rfl⟩ := Header.parse_eq_ok_iff.1 isHeader
    dsimp only at checked
    split at checked
    · cases checked
    rename_i fills
    cases checked
    have lengths := not_not.1 fills
    refine ⟨normal, ⟨?_, ?_⟩, ?_⟩
    · rw [List.length_take, lengths]
      exact (Nat.min_eq_left (Nat.le_add_right _ _)).symm
    · rw [List.length_drop, lengths, Nat.add_sub_cancel_left]
    · rw [wire, List.take_append_drop]
  · rintro ⟨normal, announced, rfl⟩
    have fills : ¬(pdu.parameter ++ pdu.data).length
        ≠ pdu.header.parameterLength.toNat + pdu.header.dataLength.toNat := by
      rw [List.length_append, announced.parameterLength_eq,
        announced.dataLength_eq]
      exact not_not.2 rfl
    rw [parse, wire]
    refine (bind_eq_of_eq_ok (Header.parse_emit normal _)).trans ?_
    dsimp only
    rw [if_neg fills, announced.parameterLength_eq, List.take_left,
      List.drop_left]
    rfl

/-- Reading accepts just what writing makes of PDUs in normal form, to the last
byte, and writing fails just for a header that announces other sections. -/
theorem accepts_exactly_wire (raw : Bytes) (pdu : Pdu) :
    (parse raw = .ok pdu ↔ pdu.header.Normal ∧ pdu.encode = .ok raw)
      ∧ ((∃ error, pdu.encode = .error error) ↔ ¬pdu.Announced) := by
  refine ⟨?_, exists_encode_eq_error_iff⟩
  rw [parse_eq_ok_iff_wire, encode_eq_ok_iff]

end Pdu
end PlcLink
