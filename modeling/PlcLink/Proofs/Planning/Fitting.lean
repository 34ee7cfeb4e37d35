import Mathlib
import PlcLink.Session.Run
import PlcLink.Proofs.Planning.Encoding

/-!
# Planned batches fit their PDUs

The two running sizes of a batch to read are those of its request and of its
longest reply. So no planned request and no reply to it is longer than agreed,
to the byte.
-/

namespace PlcLink
namespace Body

/-- The wire form of a body takes up exactly the given length, which the limits
allow. Under a condition there is one. -/
structure Fits (limits : BatchLimits) (body : Body) (encodable : Prop)
    (length : Nat) : Prop where
  takesUp : ∀ reference, TakesUp (body.encode reference) length
  exists_wire : encodable -> ∀ reference, ∃ wire,
    body.encode reference = .ok wire
  length_le : length ≤ limits.pduSize.toNat

/-- No session with PDUs of the agreed size refuses to send a body as too
long. -/
def Admitted (limits : BatchLimits) (body : Body) : Prop :=
  ∀ {Ticket : Type} (session : Session Ticket) (ticket : Ticket) (now : Nat),
    (∀ service, session.phase.service? = some service ->
      limits.pduSize ≤ service.context.pduSize) ->
    session.submit ticket body now ≠ .error .invalidParameter

variable {limits : BatchLimits} {body : Body}

theorem Fits.exists_encode_eq {encodable : Prop} {length : Nat}
    (fits : body.Fits limits encodable length) (isEncodable : encodable)
    (reference : UInt16) :
    ∃ wire, body.encode reference = .ok wire ∧ wire.length = length := by
  obtain ⟨wire, encoded⟩ := fits.exists_wire isEncodable reference
  exact ⟨wire, encoded, (encoded ▸ fits.takesUp reference).length_eq⟩

/-- The length a session looks at is that of the wire form. -/
theorem Fits.admitted {encodable : Prop} {length : Nat}
    (fits : body.Fits limits encodable length) :
    body.Admitted limits := by
  intro Ticket session ticket now agreed refused
  unfold Session.submit at refused
  cases serving : session.phase.service? with
  | none =>
      rw [serving] at refused
      cases refused
  | some service =>
      rw [serving] at refused
      cases made : body.toPdu 0 with
      | error error =>
          rw [made] at refused
          apply (fits.takesUp 0).ne_invalidParameter
          rw [encode, made, Except.error.inj refused]
          rfl
      | ok pdu =>
          obtain ⟨wire, encoded, pduLength⟩ := exists_encode made
          have wireLength := (encoded ▸ fits.takesUp 0).length_eq
          have agreedLength := UInt16.le_iff_toNat_le.1 (agreed service serving)
          have limited := fits.length_le
          rw [made] at refused
          change (if _ then _ else _) = _ at refused
          rw [if_neg (by omega)] at refused
          split at refused <;> cases refused

end Body

/-! ## Replies to a batch to read -/

/-- A reply item carries what its piece asks for, or it reports a failure and
carries nothing. -/
def VarSpec.CarriesOrFails (piece : VarSpec) (item : DataItem) : Prop :=
  item.data.length = piece.byteLength
    ∨ (item.returnCode.isSuccess = false ∧ item.data = [])

/-- A reply item that carries what its piece asks for. -/
def VarSpec.fullAnswer (piece : VarSpec) : DataItem :=
  .succeeded piece.transportSize.variableType
    (List.replicate piece.byteLength 0)

@[simp] theorem VarSpec.length_data_fullAnswer (piece : VarSpec) :
    piece.fullAnswer.data.length = piece.byteLength :=
  List.length_replicate

/-- No reply to a batch is longer than the one in which nothing fails. -/
theorem DataItem.encodedLengthMany_le_fullAnswers {batch : List VarSpec}
    {items : List DataItem}
    (replied : List.Forall₂ VarSpec.CarriesOrFails batch items) :
    encodedLengthMany items
      ≤ encodedLengthMany (batch.map VarSpec.fullAnswer) := by
  apply encodedLengthMany_mono
  rw [List.forall₂_map_right_iff]
  apply replied.flip.imp
  rintro item piece (carries | ⟨-, nothing⟩)
  · exact .inr (carries.trans piece.length_data_fullAnswer.symm)
  · exact .inl nothing

/-! ## Batches to read -/

/-- The sizes that are kept of a batch to read are those of its request and of
its full reply. -/
structure BatchSize.CountsReads (limits : BatchLimits)
    (batch : List VarSpec) (size : BatchSize) : Prop where
  request_eq : size.request = 12 + VarSpec.wireLength * batch.length
  request_le : size.request ≤ limits.pduSize.toNat
  reply_eq :
    size.reply
      = 14 + DataItem.encodedLengthMany (batch.map VarSpec.fullAnswer)
  reply_le : size.reply ≤ limits.pduSize.toNat
  lastOdd_eq :
    size.lastOdd
      = (batch.map VarSpec.fullAnswer).getLast?.any DataItem.isOdd

namespace BatchSize

variable {limits : BatchLimits} {next : VarSpec}

theorem countsReads_singleton
    (short : next.byteLength ≤ limits.readChunk)
    (room : 24 ≤ limits.pduSize.toNat) :
    CountsReads limits [next] (BatchSize.empty.addRead next) := by
  rw [BatchLimits.readChunk] at short
  constructor
  · rfl
  · exact room
  · rw [List.map_singleton, DataItem.encodedLengthMany_singleton,
      VarSpec.length_data_fullAnswer]
    simp only [addRead, fill, empty, Bool.false_eq_true, if_false]
    omega
  · simp only [addRead, fill, empty, DataItem.headerLength,
      Bool.false_eq_true, if_false]
    omega
  · simp [addRead, DataItem.isOdd]

theorem CountsReads.append {batch : List VarSpec} {size : BatchSize}
    (counts : CountsReads limits batch size)
    (fits : fitsRead limits size next) :
    CountsReads limits (batch ++ [next]) (size.addRead next) := by
  have isFill : size.fill
      = if (batch.map VarSpec.fullAnswer).getLast?.any DataItem.isOdd
        then 1 else 0 := by
    rw [fill, counts.lastOdd_eq]
  rw [fitsRead, Bool.and_eq_true, Bool.and_eq_true] at fits
  obtain ⟨⟨-, requestFits⟩, replyFits⟩ := fits
  constructor
  · change size.request + VarSpec.wireLength = _
    rw [counts.request_eq, List.length_append, List.length_singleton,
      Nat.mul_succ]
    omega
  · exact of_decide_eq_true requestFits
  · change size.reply + size.fill + DataItem.headerLength + next.byteLength = _
    rw [List.map_append, List.map_singleton,
      DataItem.encodedLengthMany_append, VarSpec.length_data_fullAnswer,
      counts.reply_eq, isFill]
    omega
  · exact of_decide_eq_true replyFits
  · simp [addRead, DataItem.isOdd]

end BatchSize

/-- A batch to read keeps within the limits, and so does every reply to it in
which each item carries what was asked for or fails. -/
structure BatchLimits.HoldsRead (limits : BatchLimits)
    (batch : List VarSpec) : Prop where
  nonempty : 1 ≤ batch.length
  few : batch.length ≤ max 1 limits.maxItems
  request :
    (Body.readRequest batch).Fits limits (VarSpec.Encodable batch)
      (12 + 12 * batch.length)
  reply : ∀ items, List.Forall₂ VarSpec.CarriesOrFails batch items ->
    (Body.readResponse items).Fits limits (DataItem.Encodable items)
      (14 + DataItem.encodedLengthMany items)
  admitted : (Body.readRequest batch).Admitted limits

namespace ReadPlan

variable {limits : BatchLimits} {specs : List VarSpec} {plan : ReadPlan}

/-- No piece of a plan is longer than an item can be. -/
theorem byteLength_le_of_mem (planned : ofSpecs limits specs = .ok plan)
    (room : 18 < limits.pduSize.toNat) :
    ∀ piece ∈ plan.pieces.flatten, piece.byteLength ≤ limits.readChunk := by
  have chunk : 0 < limits.readChunk := Nat.sub_pos_of_lt room
  rw [List.forall_mem_flatten]
  refine forall_mem_of_forall₂ (cut_of_ofSpecs planned) ?_
  intro spec _ cut isCut piece inCut
  exact (VarSpec.byteLength_le_of_mem_pieces chunk isCut piece inCut).1

/-- The request of every batch of a plan and its full reply are within the
agreed size. -/
theorem exists_countsReads (planned : ofSpecs limits specs = .ok plan)
    (room : 24 ≤ limits.pduSize.toNat) :
    ∀ batch ∈ plan.batches,
      ∃ size, BatchSize.CountsReads limits batch size := by
  have short := byteLength_le_of_mem planned (by omega)
  obtain ⟨pieces, -, isPlan⟩ := exists_of_bind_eq_ok planned
  cases Except.ok.inj isPlan
  refine forall_packBehind ?_ ?_ (.inl ⟨rfl, rfl⟩)
  · intro next member
    exact BatchSize.countsReads_singleton (short next member) room
  · intro batch size counts next _ fits
    exact counts.append fits

theorem holdsRead (planned : ofSpecs limits specs = .ok plan)
    (room : 240 ≤ limits.pduSize.toNat) :
    ∀ batch ∈ plan.batches, limits.HoldsRead batch := by
  intro batch member
  obtain ⟨nonempty, few⟩ := length_bounds planned batch member
  obtain ⟨size, counts⟩ :=
    exists_countsReads planned (by omega) batch member
  have request : (Body.readRequest batch).Fits limits
      (VarSpec.Encodable batch) (12 + 12 * batch.length) :=
    { takesUp := Body.takesUp_readRequest batch
      exists_wire := fun encodable reference => Body.exists_wire_of_toPdu
        ((Body.exists_toPdu_readRequest batch reference).2 encodable)
      length_le := counts.request_eq.symm.trans_le counts.request_le }
  refine ⟨nonempty, few, request, ?_, request.admitted⟩
  intro items replied
  have within : 14 + DataItem.encodedLengthMany items ≤ limits.pduSize.toNat :=
    calc 14 + DataItem.encodedLengthMany items
        ≤ 14 + DataItem.encodedLengthMany (batch.map VarSpec.fullAnswer) :=
          Nat.add_le_add_left
            (DataItem.encodedLengthMany_le_fullAnswers replied) 14
      _ = size.reply := counts.reply_eq.symm
      _ ≤ limits.pduSize.toNat := counts.reply_le
  refine ⟨Body.takesUp_readResponse items, ?_, within⟩
  intro encodable reference
  have small := limits.pduSize.toNat_lt
  exact Body.exists_wire_of_toPdu
    (Body.exists_toPdu_readResponse encodable (by omega) reference)

end ReadPlan

/-! ## Batches to write -/

theorem DataItem.headers_le_encodedLengthMany (items : List DataItem) :
    headerLength * items.length ≤ encodedLengthMany items := by
  induction items with
  | nil => exact Nat.le_refl 0
  | cons item others inductionHypothesis =>
      rw [List.length_cons, Nat.mul_succ, encodedLengthMany, encodedLength]
      omega

/-- A batch to write keeps within the limits, and so does a reply to it, which
has one code for each item. -/
structure BatchLimits.HoldsWrite (limits : BatchLimits)
    (batch : List WriteItem) : Prop where
  nonempty : 1 ≤ batch.length
  few : batch.length ≤ max 1 limits.maxItems
  request :
    (Body.writeRequest batch).Fits limits
      (VarSpec.Encodable (batch.map WriteItem.spec))
      (12 + 12 * batch.length
        + DataItem.encodedLengthMany (batch.map WriteItem.toDataItem))
  reply : ∀ codes : List ReturnCode, codes.length = batch.length ->
    (Body.writeResponse codes).Fits limits (batch.length ≤ 255)
      (14 + batch.length)
  admitted : (Body.writeRequest batch).Admitted limits

namespace WritePlan

variable {limits : BatchLimits} {items : List WriteItem} {plan : WritePlan}

theorem holdsWrite (planned : ofItems limits items = .ok plan)
    (room : 240 ≤ limits.pduSize.toNat) :
    ∀ batch ∈ plan.batches, limits.HoldsWrite batch := by
  intro batch member
  obtain ⟨nonempty, few⟩ := length_bounds planned batch member
  obtain ⟨size, counts⟩ :=
    exists_countsWrites planned (by omega) batch member
  have request : (Body.writeRequest batch).Fits limits
      (VarSpec.Encodable (batch.map WriteItem.spec))
      (12 + 12 * batch.length
        + DataItem.encodedLengthMany (batch.map WriteItem.toDataItem)) :=
    { takesUp := Body.takesUp_writeRequest batch
      exists_wire := fun encodable reference => Body.exists_wire_of_toPdu
        ((exists_toPdu_iff planned (by omega) member reference).2 encodable)
      length_le := counts.request_eq.symm.trans_le counts.request_le }
  refine ⟨nonempty, few, request, ?_, request.admitted⟩
  intro codes perItem
  -- A reply is shorter than its request, in which every code has a whole item.
  have headers := DataItem.headers_le_encodedLengthMany
    (batch.map WriteItem.toDataItem)
  rw [List.length_map, DataItem.headerLength] at headers
  have requestFits := request.length_le
  rw [← perItem]
  refine ⟨Body.takesUp_writeResponse codes, ?_, by omega⟩
  intro few reference
  exact Body.exists_wire_of_toPdu
    (Body.exists_toPdu_writeResponse few reference)

end WritePlan

/-- With PDUs of at least 240 bytes, every batch of a plan has at least one item
and no more than are allowed, and neither its request nor a proper reply is
longer than a PDU may be. -/
theorem BatchLimits.holds_batches {limits : BatchLimits}
    (room : 240 ≤ limits.pduSize.toNat) :
    (∀ specs plan, ReadPlan.ofSpecs limits specs = .ok plan ->
      ∀ batch ∈ plan.batches, limits.HoldsRead batch)
    ∧ ∀ items plan, WritePlan.ofItems limits items = .ok plan ->
      ∀ batch ∈ plan.batches, limits.HoldsWrite batch :=
  ⟨fun _ _ planned => ReadPlan.holdsRead planned room,
    fun _ _ planned => WritePlan.holdsWrite planned room⟩

/-- Two variables whose reply, with a fill byte between them, has 240 bytes. -/
def fullReads : List VarSpec :=
  [.elements .dataBlock 1 0 .byte 101, .elements .dataBlock 2 0 .byte 116]

/-- Two items whose request, with a fill byte between them, has 240 bytes. -/
def fullWrites : List WriteItem :=
  [.ofBytes .dataBlock 1 0 (List.replicate 101 7),
    .ofBytes .dataBlock 2 0 (List.replicate 94 8)]

theorem BatchLimits.holds_batches_full :
    (∃ plan,
      ReadPlan.ofSpecs (.ofPduSize 240 20) fullReads = .ok plan
        ∧ plan.batches = [fullReads]
        ∧ ∃ wire,
          (Body.readResponse (fullReads.map VarSpec.fullAnswer)).encode 1
            = .ok wire
          ∧ wire.length = 240)
    ∧ ∃ plan,
      WritePlan.ofItems (.ofPduSize 240 20) fullWrites = .ok plan
        ∧ plan.batches = [fullWrites]
        ∧ ∃ wire,
          (Body.writeRequest fullWrites).encode 1 = .ok wire
            ∧ wire.length = 240 := by
  have room : 240 ≤ (ofPduSize 240 20).pduSize.toNat := by decide
  obtain ⟨reads, writes⟩ := holds_batches room
  have reading : (ReadPlan.ofSpecs (.ofPduSize 240 20) fullReads).map
      ReadPlan.batches = .ok [fullReads] := by
    decide +kernel
  have writing : (WritePlan.ofItems (.ofPduSize 240 20) fullWrites).map
      WritePlan.batches = .ok [fullWrites] := by
    decide +kernel
  obtain ⟨readPlan, readPlanned, readBatches⟩ := exists_of_map_eq_ok reading
  obtain ⟨writePlan, writePlanned, writeBatches⟩ := exists_of_map_eq_ok writing
  have readHeld := reads _ _ readPlanned fullReads (by simp [readBatches])
  have writeHeld := writes _ _ writePlanned fullWrites (by simp [writeBatches])
  have replied : List.Forall₂ VarSpec.CarriesOrFails fullReads
      (fullReads.map VarSpec.fullAnswer) := by
    rw [List.forall₂_map_right_iff, List.forall₂_same]
    exact fun piece _ => .inl piece.length_data_fullAnswer
  refine ⟨⟨readPlan, readPlanned, readBatches, ?_⟩,
    writePlan, writePlanned, writeBatches, ?_⟩
  · exact (readHeld.reply _ replied).exists_encode_eq (by decide +kernel) 1
  · exact writeHeld.request.exists_encode_eq (by decide +kernel) 1

end PlcLink
