import Mathlib
import PlcLink.Proofs.Pdu.Encodable
import PlcLink.Proofs.Pdu.Grammar

/-!
# Bodies that are written back

A body that was read is written again unless one of its items counts its length
in bits and has too many of them. It is read back as it was, but for a
user-data parameter in long form that names another method: the fields that only
the long form has are lost.
-/

namespace PlcLink

namespace UserData.Parameter

/-- The parameter with the fields of the long form at rest, if it is written in
the short one. -/
def atRest (parameter : Parameter) : Parameter :=
  if parameter.isLong then parameter
  else { parameter with dataUnitRef := 0, isLast := true, error := 0 }

variable {parameter : Parameter}

theorem isLong_eq_true_iff :
    parameter.isLong = true ↔ parameter.method = longMethod := by
  rw [isLong, beq_iff_eq]

/-- The short form does not show the fields of the long one. -/
theorem emit_atRest (parameter : Parameter) :
    parameter.atRest.emit = parameter.emit := by
  unfold atRest
  split
  · rfl
  · rename_i short
    unfold emit
    simp only [isLong] at short ⊢
    simp only [short, if_false, Bool.false_eq_true]

theorem length_written_lt (parameter : Parameter) :
    parameter.emit.written.length < 65536 := by
  unfold emit
  split
  · exact show 12 < 65536 by decide
  · exact show 8 < 65536 by decide

theorem normal_atRest (parameter : Parameter) : parameter.atRest.Normal := by
  unfold atRest
  split
  · rename_i long
    exact .inl (isLong_eq_true_iff.1 long)
  · exact .inr ⟨rfl, rfl, rfl⟩

theorem atRest_eq_iff : parameter.atRest = parameter ↔ parameter.Normal := by
  constructor
  · intro same
    exact same ▸ parameter.normal_atRest
  · intro normal
    unfold atRest
    split
    · rfl
    · rename_i short
      rw [isLong_eq_true_iff] at short
      obtain ⟨noRef, last, noError⟩ := normal.resolve_left short
      rw [← noRef, ← last, ← noError]

end UserData.Parameter

namespace DataItem

/-- An item that counts its length in bits has few enough bytes for that. -/
def BitsFit (item : DataItem) : Prop :=
  item.variableType.lengthInBits = true -> item.data.length < 8192

instance (item : DataItem) : Decidable item.BitsFit :=
  inferInstanceAs (Decidable (_ -> _))

variable {isLast : Bool} {own : Bytes} {item : DataItem}
  {items : List DataItem}

theorem Spells.length_data_lt (spelled : Spells isLast own item) :
    item.data.length < 65536 := by
  obtain ⟨known, counts, fills⟩ := spelled
  rename_i code typeByte high low variableType data filling
  have bound := (Word.ofBytes16 high low).toNat_lt
  unfold Counts at counts
  split at counts <;> dsimp only <;> omega

theorem countedLength_lt_iff (bounded : item.data.length < 65536) :
    item.countedLength < 65536 ↔ item.BitsFit := by
  unfold countedLength BitsFit
  split
  · rename_i inBits
    rw [imp_iff_right inBits]
    omega
  · rename_i inBytes
    exact iff_of_true bounded fun inBits => absurd inBits inBytes

theorem Spells.length_eq (spelled : Spells isLast own item) :
    own.length = item.encodedLength isLast := by
  obtain ⟨known, counts, fills⟩ := spelled
  rw [encodedLength, fill_eq, headerLength, ← fills]
  simp only [List.length_cons, List.length_append]
  omega

theorem SpellsMany.length_eq (spelled : SpellsMany own items) :
    own.length = encodedLengthMany items := by
  induction spelled with
  | nil => rfl
  | cons first _ inductionHypothesis =>
      rw [List.length_append, first.length_eq, inductionHypothesis,
        encodedLengthMany]

theorem SpellsMany.length_data_lt (spelled : SpellsMany own items) :
    ∀ item ∈ items, item.data.length < 65536 := by
  induction spelled with
  | nil => simp
  | cons first _ inductionHypothesis =>
      exact List.forall_mem_cons.2
        ⟨first.length_data_lt, inductionHypothesis⟩

theorem SpellsMany.normal (spelled : SpellsMany own items) :
    ∀ item ∈ items, item.returnCode.Normal := by
  induction spelled with
  | nil => simp
  | cons first _ inductionHypothesis =>
      refine List.forall_mem_cons.2 ⟨?_, inductionHypothesis⟩
      cases first
      apply ReturnCode.normal_ofByte

/-- An item with more bits than can be counted stops the encoder. -/
theorem emitMany_of_tooLong
    (tooLong : ∃ item ∈ items, ¬item.countedLength < 65536) :
    (emitMany items).result = .error (.encode .itemTooLong) := by
  induction items with
  | nil => simp at tooLong
  | cons item items inductionHypothesis =>
      by_cases short : item.countedLength < 65536
      · obtain ⟨other, member, otherLong⟩ := tooLong
        have member := (List.mem_cons.1 member).resolve_left
          fun same => otherLong (same ▸ short)
        obtain ⟨written, emitted, -⟩ := exists_emit short items.isEmpty
        exact Emission.result_append_of_ok emitted
          (inductionHypothesis ⟨other, member, otherLong⟩)
      · apply Emission.result_append_of_error
        rw [emit, if_neg short]
        rfl

end DataItem

namespace Pdu

variable {specs : List VarSpec} {items : List DataItem}

theorem encodable_of_decodeSpecs {count : UInt8} {rest : Bytes}
    (read : decodeSpecs count rest = .ok specs) : VarSpec.Encodable specs := by
  obtain ⟨counted, -, emitted⟩ := decodeSpecs_eq_ok_iff.1 read
  have bound := count.toNat_lt
  exact ⟨by omega, VarSpec.inRange_of_emitMany emitted⟩

theorem length_eq_of_reads {count : UInt8} {rest data : Bytes}
    (specsRead : decodeSpecs count rest = .ok specs)
    (itemsRead : DataItem.parseAll count.toNat data = .ok items) :
    specs.length = items.length :=
  (decodeSpecs_eq_ok_iff.1 specsRead).1.symm.trans
    (DataItem.parseAll_eq_ok_iff.1 itemsRead).1

theorem map_spec_joinWrites (sameLength : specs.length = items.length) :
    (joinWrites specs items).map WriteItem.spec = specs := by
  rw [joinWrites, List.map_zipWith]
  simpa [List.zip, List.map_zipWith] using List.map_fst_zip sameLength.le

theorem length_joinWrites (sameLength : specs.length = items.length) :
    (joinWrites specs items).length = specs.length := by
  rw [joinWrites, List.length_zipWith, sameLength, Nat.min_self]

/-- What is written has the data that was read, whatever it was called. -/
theorem forall₂_joinWrites (sameLength : specs.length = items.length) :
    List.Forall₂ (fun written read => written.data = read.data)
      ((joinWrites specs items).map WriteItem.toDataItem) items := by
  rw [List.forall₂_map_left_iff]
  induction specs generalizing items with
  | nil =>
      cases List.eq_nil_of_length_eq_zero sameLength.symm
      exact .nil
  | cons spec specs inductionHypothesis =>
      obtain ⟨item, items, rfl⟩ :=
        List.exists_cons_of_length_eq_add_one sameLength.symm
      exact .cons rfl (inductionHypothesis (Nat.succ.inj sameLength))

end Pdu

namespace Body

/-- The items of a body, as they are written. -/
def items : Body -> List DataItem
  | readResponse items => items
  | writeRequest items => items.map WriteItem.toDataItem
  | userData _ item? => item?.toList
  | _ => []

/-- The body as it is read back: a user-data parameter in short form has lost
the fields of the long one. -/
def atRest : Body -> Body
  | userData parameter item? => userData parameter.atRest item?
  | body => body

variable {body : Body} {pdu : Pdu}

theorem toPdu_atRest (reference : UInt16) :
    body.atRest.toPdu reference = body.toPdu reference := by
  cases body with
  | userData parameter item? =>
      change (userData parameter.atRest item?).toPdu reference = _
      rw [toPdu, toPdu, emitParameter, UserData.Parameter.emit_atRest]
      cases item? <;> rfl
  | _ => rfl

/-- Only a parameter in short form has something to lose. -/
theorem atRest_eq_iff :
    body.atRest = body
      ↔ ∀ parameter item?, body = userData parameter item? ->
        parameter.Normal := by
  cases body with
  | userData parameter item? =>
      change userData parameter.atRest item? = userData parameter item? ↔ _
      rw [userData.injEq, UserData.Parameter.atRest_eq_iff]
      simp
  | _ =>
      refine iff_of_true rfl ?_
      rintro _ _ ⟨⟩

/-- A body whose items have too many bits for their lengths has no data
section. -/
theorem emitData_of_tooLong
    (tooLong : ∃ item ∈ body.items, ¬item.countedLength < 65536) :
    body.emitData.result = .error (.encode .itemTooLong) := by
  have failed := DataItem.emitMany_of_tooLong tooLong
  cases body with
  | readResponse items => exact failed
  | writeRequest items => exact failed
  | userData parameter item? =>
      cases item? with
      | none => simp [items] at tooLong
      | some item =>
          rwa [items, Option.toList_some, DataItem.emitMany_singleton]
            at failed
  | _ => simp [items] at tooLong

/-- A body without items, or with items that are short enough, has a data
section. -/
theorem exists_emitData
    (short : ∀ item ∈ body.items, item.countedLength < 65536)
    (few : ∀ codes, body = writeResponse codes -> codes.length < 65536)
    (fits : DataItem.encodedLengthMany body.items < 65536) :
    ∃ data, body.emitData.result = .ok data ∧ data.length < 65536 := by
  obtain ⟨data, written, length⟩ := DataItem.exists_emitMany short
  have dataFits := length.trans_lt fits
  cases body with
  | readResponse items => exact ⟨data, written, dataFits⟩
  | writeRequest items => exact ⟨data, written, dataFits⟩
  | writeResponse codes =>
      refine ⟨_, Emission.result_bytes _, ?_⟩
      rw [List.length_map]
      exact few codes rfl
  | userData parameter item? =>
      cases item? with
      | none => exact ⟨[], rfl, by decide⟩
      | some item =>
          rw [items, Option.toList_some, DataItem.emitMany_singleton]
            at written
          exact ⟨data, written, dataFits⟩
  | _ => exact ⟨[], rfl, by decide⟩

end Body

namespace Pdu.Says

open Body

variable {pdu : Pdu} {body : Body}

theorem normal_atRest (said : pdu.Says body) : body.atRest.Normal := by
  cases said with
  | setupRequest | setupResponse | ack => trivial
  | readRequest _ _ specsRead => exact (decodeSpecs_eq_ok_iff.1 specsRead).2.1
  | readResponse _ _ itemsRead =>
      exact (DataItem.parseAll_eq_ok_iff.1 itemsRead).2.normal
  | writeRequest _ _ specsRead itemsRead =>
      obtain ⟨-, normal, -⟩ := decodeSpecs_eq_ok_iff.1 specsRead
      rw [← map_spec_joinWrites (length_eq_of_reads specsRead itemsRead)]
        at normal
      exact List.forall_mem_map.1 normal
  | writeResponse _ _ _ =>
      exact List.forall_mem_map.2 fun byte _ => ReturnCode.normal_ofByte byte
  | @userData parameter _ _ _ =>
      exact ⟨parameter.normal_atRest, by simp⟩
  | @userDataItem parameter item _ _ _ itemRead =>
      obtain ⟨-, spelled⟩ := DataItem.parseAll_eq_ok_iff.1 itemRead
      refine ⟨parameter.normal_atRest, ?_⟩
      simpa using spelled.normal

theorem exists_emitParameter (said : pdu.Says body) :
    ∃ parameter, body.emitParameter.result = .ok parameter
      ∧ parameter.length < 65536 := by
  cases said with
  | setupRequest | setupResponse => exact ⟨_, rfl, show 8 < 65536 by decide⟩
  | readRequest _ _ specsRead =>
      exact exists_emitAddresses .readVar (encodable_of_decodeSpecs specsRead)
  | @readResponse count _ items _ _ itemsRead =>
      obtain ⟨counted, -⟩ := DataItem.parseAll_eq_ok_iff.1 itemsRead
      have bound := count.toNat_lt
      exact ⟨_, emitFunctionAndCount_of_few .readVar (by omega),
        show 2 < 65536 by decide⟩
  | writeRequest _ _ specsRead itemsRead =>
      have sameLength := length_eq_of_reads specsRead itemsRead
      rw [emitParameter, length_joinWrites sameLength,
        map_spec_joinWrites sameLength]
      exact exists_emitAddresses .writeVar (encodable_of_decodeSpecs specsRead)
  | @writeResponse count _ _ _ counted =>
      have bound := count.toNat_lt
      refine ⟨_, emitFunctionAndCount_of_few .writeVar ?_,
        show 2 < 65536 by decide⟩
      rw [List.length_map]
      omega
  | @userData parameter | @userDataItem parameter =>
      exact ⟨_, Emission.result_bytes _, parameter.length_written_lt⟩
  | ack => exact ⟨[], rfl, by decide⟩

theorem length_items_lt (announced : pdu.Announced) (said : pdu.Says body) :
    DataItem.encodedLengthMany body.items < 65536 := by
  have bound := announced.dataLength_eq ▸ pdu.header.dataLength.toNat_lt
  cases said with
  | readResponse _ _ itemsRead =>
      obtain ⟨-, spelled⟩ := DataItem.parseAll_eq_ok_iff.1 itemsRead
      exact spelled.length_eq ▸ bound
  | writeRequest _ _ specsRead itemsRead =>
      obtain ⟨-, spelled⟩ := DataItem.parseAll_eq_ok_iff.1 itemsRead
      have sameData :=
        forall₂_joinWrites (length_eq_of_reads specsRead itemsRead)
      have notLonger := DataItem.encodedLengthMany_mono
        (sameData.imp fun _ _ same => .inr (congrArg List.length same))
      exact notLonger.trans_lt (spelled.length_eq ▸ bound)
  | userDataItem _ _ _ itemRead =>
      obtain ⟨-, spelled⟩ := DataItem.parseAll_eq_ok_iff.1 itemRead
      exact spelled.length_eq ▸ bound
  | _ => exact Nat.zero_lt_succ 65535

theorem length_data_lt (said : pdu.Says body) :
    ∀ item ∈ body.items, item.data.length < 65536 := by
  cases said with
  | readResponse _ _ itemsRead =>
      exact (DataItem.parseAll_eq_ok_iff.1 itemsRead).2.length_data_lt
  | writeRequest _ _ specsRead itemsRead =>
      obtain ⟨-, spelled⟩ := DataItem.parseAll_eq_ok_iff.1 itemsRead
      have sameData :=
        forall₂_joinWrites (length_eq_of_reads specsRead itemsRead)
      refine forall_mem_of_forall₂ sameData.flip ?_
      intro read member written same
      exact same ▸ spelled.length_data_lt read member
  | userDataItem _ _ _ itemRead =>
      exact (DataItem.parseAll_eq_ok_iff.1 itemRead).2.length_data_lt
  | _ => simp [items]

theorem length_codes_lt (said : pdu.Says body) :
    ∀ codes, body = .writeResponse codes -> codes.length < 65536 := by
  cases said with
  | @writeResponse count _ _ _ counted =>
      rintro codes ⟨⟩
      have bound := count.toNat_lt
      rw [List.length_map]
      omega
  | _ => rintro codes ⟨⟩

end Pdu.Says

namespace Body

variable {body : Body} {pdu : Pdu} {raw : Bytes}

theorem decode_of_toPdu {reference : UInt16} (normal : body.Normal)
    (made : body.toPdu reference = .ok pdu) : pdu.decode = .ok body := by
  obtain ⟨parameter, parameterWritten, made⟩ := exists_of_bind_eq_ok made
  obtain ⟨data, dataWritten, made⟩ := exists_of_bind_eq_ok made
  obtain ⟨-, -, rfl⟩ := Pdu.ofSections_eq_ok made
  exact decode_sections normal rfl parameterWritten dataWritten

/-- A body that was read is written again just if its items have few enough bits
for their lengths, and it is read back at rest. -/
theorem rewrites (parsed : Pdu.parse raw = .ok pdu)
    (decoded : pdu.decode = .ok body) (reference : UInt16) :
    ((∀ item ∈ body.items, item.BitsFit) ->
        ∃ again, body.toPdu reference = .ok again
          ∧ again.decode = .ok body.atRest)
      ∧ ((¬∀ item ∈ body.items, item.BitsFit) ->
        body.toPdu reference = .error (.encode .itemTooLong))
      ∧ (body.atRest = body
        ↔ ∀ parameter item?, body = userData parameter item? ->
          parameter.Normal) := by
  obtain ⟨-, announced, -⟩ := Pdu.parse_eq_ok_iff_wire.1 parsed
  have said := Pdu.says_of_decode decoded
  obtain ⟨parameter, parameterWritten, parameterFits⟩ :=
    said.exists_emitParameter
  have countable : (∀ item ∈ body.items, item.countedLength < 65536)
      ↔ ∀ item ∈ body.items, item.BitsFit :=
    forall₂_congr fun item member =>
      DataItem.countedLength_lt_iff (said.length_data_lt item member)
  refine ⟨fun bitsFit => ?_, fun tooMany => ?_, atRest_eq_iff⟩
  · obtain ⟨data, dataWritten, dataFits⟩ :=
      exists_emitData (countable.2 bitsFit) said.length_codes_lt
        (said.length_items_lt announced)
    obtain ⟨again, made⟩ := exists_toPdu reference parameterWritten
      dataWritten parameterFits dataFits
    rw [← toPdu_atRest] at made
    refine ⟨again, toPdu_atRest reference ▸ made, ?_⟩
    exact decode_of_toPdu said.normal_atRest made
  · have tooLong : ∃ item ∈ body.items, ¬item.countedLength < 65536 := by
      rw [← countable] at tooMany
      simpa using tooMany
    rw [toPdu, parameterWritten]
    change body.emitData.result.bind _ = _
    rw [emitData_of_tooLong tooLong]
    rfl

/-- Two writes under types and lengths that no encoder would give them, the
first with a return code and a fill byte that are not zero. -/
def foreignWrites : Bytes :=
  [0x32, 0x01, 0xAA, 0xBB, 0x00, 0x07, 0x00, 0x1A, 0x00, 0x0E,
    0x05, 0x02,
    0x12, 0x0A, 0x10, 0x02, 0x00, 0x03, 0x00, 0x05, 0x84, 0x00, 0x00, 0x08,
    0x12, 0x0A, 0x10, 0x04, 0x00, 0x01, 0x00, 0x00, 0x83, 0x00, 0x00, 0x50,
    0x07, 0x09, 0x00, 0x03, 0xAA, 0xBB, 0xCC, 0xFF,
    0x00, 0x05, 0x00, 0x09, 0x01, 0x02]

/-- What the foreign writes say. -/
def foreignWritesBody : Body :=
  .writeRequest
    [.ofBytes .dataBlock 5 1 [0xAA, 0xBB, 0xCC],
      { spec := .elements .marker 0 10 .word 1, data := [1, 2] }]

theorem rewrites_foreignWrites :
    ∃ pdu again,
      Pdu.parse foreignWrites = .ok pdu
        ∧ pdu.decode = .ok foreignWritesBody
        ∧ foreignWritesBody.toPdu 9 = .ok again
        ∧ again.decode = .ok foreignWritesBody := by
  have read : (Pdu.parse foreignWrites).bind Pdu.decode
      = .ok foreignWritesBody := by
    decide +kernel
  obtain ⟨pdu, parsed, decoded⟩ := exists_of_bind_eq_ok read
  obtain ⟨written, -⟩ := rewrites parsed decoded 9
  obtain ⟨again, made, decodedAgain⟩ := written (by decide)
  exact ⟨pdu, again, parsed, decoded, made, decodedAgain⟩

/-- A user-data parameter in long form that names the method of the short
one. -/
def longShortMethod : Bytes :=
  [0x32, 0x07, 0x00, 0x00, 0x00, 0x01, 0x00, 0x0C, 0x00, 0x00,
    0x00, 0x01, 0x12, 0x08, 0x11, 0x44, 0x01, 0x00, 0x05, 0x00, 0x00, 0x00]

/-- A reply with one item of 65535 bits. -/
def mostBits (data : Bytes) : Pdu :=
  { header := .ofLengths .ackData 1 2 8196
    parameter := [0x04, 0x01]
    data := 0xFF :: 0x04 :: 0xFF :: 0xFF :: data }

/-- So many bits fill 8192 bytes, which is a byte too many to be written. -/
theorem read_and_toPdu_mostBits {data : Bytes} (length : data.length = 8192) :
    Pdu.parse (mostBits data).wire = .ok (mostBits data)
      ∧ ∃ body, (mostBits data).decode = .ok body
        ∧ body.toPdu 1 = .error (.encode .itemTooLong) := by
  have itemRead : DataItem.parseAll 1 (mostBits data).data
      = .ok [.succeeded .byteWordDoubleWord data] := by
    refine DataItem.parseAll_eq_ok_iff.2
      ⟨rfl, DataItem.spellsMany_single rfl ?_⟩
    rw [DataItem.counts_iff, length]
    rfl
  have isParameter :
      (mostBits data).parameter = Function.readVar.toByte :: [1] := rfl
  have announced : (mostBits data).Announced :=
    ⟨rfl, (congrArg (· + 4) length).symm⟩
  have parsed : Pdu.parse (mostBits data).wire = .ok (mostBits data) :=
    Pdu.parse_eq_ok_iff_wire.2
      ⟨Header.normal_ofLengths .., announced, rfl⟩
  have decoded : (mostBits data).decode
      = .ok (.readResponse [.succeeded .byteWordDoubleWord data]) := by
    rw [Pdu.decode_reply rfl isParameter, Pdu.decodeReply, isParameter]
    exact (bind_eq_of_eq_ok itemRead).trans rfl
  refine ⟨parsed, _, decoded, ?_⟩
  have tooLong : ∃ item ∈ items (.readResponse
      [.succeeded .byteWordDoubleWord data]),
      ¬item.countedLength < 65536 := by
    refine ⟨_, List.mem_singleton_self _, ?_⟩
    change ¬data.length * 8 < 65536
    omega
  rw [toPdu, emitData_of_tooLong tooLong]
  rfl

/-- Two bodies that were read and are not written back as they are. -/
theorem exists_read_not_rewritten :
    (∃ pdu body again,
      Pdu.parse longShortMethod = .ok pdu ∧ pdu.decode = .ok body
        ∧ body.toPdu 1 = .ok again ∧ again.decode ≠ .ok body)
      ∧ ∃ raw pdu body,
        Pdu.parse raw = .ok pdu ∧ pdu.decode = .ok body
          ∧ body.toPdu 1 = .error (.encode .itemTooLong) := by
  constructor
  · refine ⟨_, _, _, rfl, rfl, rfl, ?_⟩
    decide
  · have length : (List.replicate 8192 (0 : UInt8)).length = 8192 :=
      List.length_replicate
    obtain ⟨parsed, body, decoded, failed⟩ := read_and_toPdu_mostBits length
    exact ⟨_, _, body, parsed, decoded, failed⟩

end Body
end PlcLink
