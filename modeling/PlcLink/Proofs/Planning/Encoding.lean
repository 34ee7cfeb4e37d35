import Mathlib
import PlcLink.Session.Exchange
import PlcLink.Proofs.Pdu.Encodable
import PlcLink.Proofs.Planning.Packing
import PlcLink.Proofs.Planning.Reading
import PlcLink.Proofs.Session.Negotiation

/-!
# Planned batches on the wire

Of what a plan asks for, the encoder refuses just the batches with more items
than a byte can count, or with an address that does not fit its 21 bits.
-/

namespace PlcLink
namespace VarSpec

/-- The number of bytes that can be addressed. -/
def addressSpace : Nat := 2 ^ 21

/-- The pieces of a variable in the address space have addresses with a wire
form. -/
theorem inRange_of_mem_pieces {spec : VarSpec} {maxBytes : Nat}
    {pieces : List VarSpec}
    (cut : spec.pieces maxBytes = .ok pieces)
    (addressable : spec.stop ≤ addressSpace) :
    ∀ piece ∈ pieces, piece.byteAddress ≤ maxByteAddress := by
  intro piece member
  have within := (within_of_mem_pieces cut piece member).stop_le
  have nonempty := byteLength_pos_of_mem_pieces cut piece member
  rw [UInt32.le_iff_toNat_le]
  change piece.start ≤ 2 ^ 21 - 1
  rw [stop] at within
  rw [addressSpace] at addressable
  omega

end VarSpec

namespace ReadPlan

variable {limits : BatchLimits} {specs : List VarSpec} {plan : ReadPlan}

theorem encodable_of_mem_batches (planned : ofSpecs limits specs = .ok plan)
    (positive : 0 < limits.maxItems) (few : limits.maxItems ≤ 255)
    (addressable : ∀ spec ∈ specs, spec.stop ≤ VarSpec.addressSpace) :
    ∀ batch ∈ plan.batches, VarSpec.Encodable batch := by
  have inRange : ∀ piece ∈ plan.pieces.flatten,
      piece.byteAddress ≤ VarSpec.maxByteAddress := by
    rw [List.forall_mem_flatten]
    exact forall_mem_of_forall₂ (cut_of_ofSpecs planned)
      fun spec member _ cut =>
        VarSpec.inRange_of_mem_pieces cut (addressable spec member)
  intro batch member
  refine ⟨?_, ?_⟩
  · exact (length_le_of_mem_batches planned positive batch member).trans few
  · intro piece inBatch
    apply inRange
    rw [← plan.flatten_batches]
    exact List.mem_flatten_of_mem member inBatch

end ReadPlan

namespace WritePlan

variable {limits : BatchLimits} {items : List WriteItem} {plan : WritePlan}

theorem mem_pieces_of_mem_batch {batch : List WriteItem}
    (member : batch ∈ plan.batches) :
    ∀ piece ∈ batch, piece ∈ plan.pieces.flatten := by
  intro piece inBatch
  rw [← plan.flatten_batches]
  exact List.mem_flatten_of_mem member inBatch

/-- The length of what a piece carries can be counted. -/
theorem countedLength_lt (planned : ofItems limits items = .ok plan)
    (room : 28 < limits.pduSize.toNat) :
    ∀ piece ∈ plan.pieces.flatten,
      piece.toDataItem.countedLength < 65536 := by
  have small := limits.pduSize.toNat_lt
  intro piece member
  obtain ⟨covers, short, counted⟩ := carries_of_mem planned room piece member
  rw [BatchLimits.writeChunk] at short
  rw [DataItem.countedLength, WriteItem.toDataItem]
  dsimp only
  rw [covers]
  split
  · rename_i inBits
    have few := counted inBits
    rw [VarSpec.maxBitCountedBytes] at few
    omega
  · omega

/-- A planned request to write has a PDU if its addresses have a wire form. -/
theorem exists_toPdu_iff (planned : ofItems limits items = .ok plan)
    (room : 28 < limits.pduSize.toNat) {batch : List WriteItem}
    (member : batch ∈ plan.batches) (reference : UInt16) :
    (∃ pdu, (Body.writeRequest batch).toPdu reference = .ok pdu)
      ↔ VarSpec.Encodable (batch.map WriteItem.spec) := by
  have small := limits.pduSize.toNat_lt
  apply Body.exists_toPdu_writeRequest
  · intro piece inBatch
    exact countedLength_lt planned room piece
      (mem_pieces_of_mem_batch member piece inBatch)
  · obtain ⟨size, counts⟩ := exists_countsWrites planned room batch member
    have whole := counts.request_eq
    have within := counts.request_le
    omega

theorem encodable_of_mem_batches (planned : ofItems limits items = .ok plan)
    (positive : 0 < limits.maxItems) (few : limits.maxItems ≤ 255)
    (addressable : ∀ item ∈ items, item.spec.stop ≤ VarSpec.addressSpace) :
    ∀ batch ∈ plan.batches,
      VarSpec.Encodable (batch.map WriteItem.spec) := by
  have inRange : ∀ piece ∈ plan.pieces.flatten,
      piece.spec.byteAddress ≤ VarSpec.maxByteAddress := by
    rw [List.forall_mem_flatten]
    refine forall_mem_of_forall₂ (cut_of_ofItems planned) ?_
    intro item member cut planned piece inCut
    obtain ⟨_, isCut, rfl⟩ := WriteItem.exists_pieces_spec planned
    exact VarSpec.inRange_of_mem_pieces isCut (addressable item member)
      piece.spec (List.mem_map_of_mem inCut)
  intro batch member
  refine ⟨?_, ?_⟩
  · rw [List.length_map]
    exact (length_le_of_mem_batches planned positive batch member).trans few
  · rw [List.forall_mem_map]
    intro piece inBatch
    exact inRange piece (mem_pieces_of_mem_batch member piece inBatch)

end WritePlan

/-- Of the batches of a plan, the encoder refuses just those of more items than a
byte can count and those with an address beyond the address space. A session
that asks for no more items than that has every plan within the address space
encoded. -/
theorem Context.encodes_iff {asked : SessionSettings} {granted : Setup}
    {frameSize : Nat} {context : Context}
    (negotiated : Context.negotiate asked.tsaps frameSize asked.setup granted
      = .ok context) :
    (∀ specs plan,
      ReadPlan.ofSpecs (Operation.limits asked context) specs = .ok plan ->
        (∀ batch ∈ plan.batches, ∀ reference,
          (∃ pdu, (Body.readRequest batch).toPdu reference = .ok pdu)
            ↔ VarSpec.Encodable batch)
        ∧ (asked.maxItemsPerRequest ≤ 255 ->
          (∀ spec ∈ specs, spec.stop ≤ VarSpec.addressSpace) ->
            ∀ batch ∈ plan.batches, VarSpec.Encodable batch))
    ∧ ∀ items plan,
      WritePlan.ofItems (Operation.limits asked context) items = .ok plan ->
        (∀ batch ∈ plan.batches, ∀ reference,
          (∃ pdu, (Body.writeRequest batch).toPdu reference = .ok pdu)
            ↔ VarSpec.Encodable (batch.map WriteItem.spec))
        ∧ (asked.maxItemsPerRequest ≤ 255 ->
          (∀ item ∈ items, item.spec.stop ≤ VarSpec.addressSpace) ->
            ∀ batch ∈ plan.batches,
              VarSpec.Encodable (batch.map WriteItem.spec)) := by
  obtain ⟨-, -, notSmaller⟩ := Context.pduSize_negotiate negotiated
  have room : 28 < (Operation.limits asked context).pduSize.toNat :=
    lt_of_lt_of_le (by decide : 28 < 240) (UInt16.le_iff_toNat_le.1 notSmaller)
  have positive : 0 < (Operation.limits asked context).maxItems :=
    lt_of_lt_of_le Nat.one_pos (Nat.le_max_right _ _)
  constructor
  · intro specs plan planned
    refine ⟨?_, ?_⟩
    · intro batch _ reference
      exact Body.exists_toPdu_readRequest batch reference
    · intro few addressable
      exact plan.encodable_of_mem_batches planned positive
        (Nat.max_le.2 ⟨few, by decide⟩) addressable
  · intro items plan planned
    refine ⟨?_, ?_⟩
    · intro batch member reference
      exact plan.exists_toPdu_iff planned room member reference
    · intro few addressable
      exact plan.encodable_of_mem_batches planned positive
        (Nat.max_le.2 ⟨few, by decide⟩) addressable

/-- The limits of the usual session with a controller of small PDUs. -/
theorem Settings.exists_limits_default :
    ∃ session context,
      Settings.default.session = .ok session
        ∧ Context.negotiate session.tsaps 1024 session.setup
            { calling := 8, called := 8, pduSize := 240 }
          = .ok context
        ∧ Operation.limits session context = .ofPduSize 240 20 :=
  ⟨_, _, rfl, rfl, rfl⟩

/-- The last item of 300 bytes within the address space. -/
def lastItem : WriteItem :=
  .ofBytes .dataBlock 1 2096852 (List.replicate 300 7)

theorem Context.encodes_iff_lastItem :
    ∃ session context plan,
      Context.negotiate session.tsaps 1024 session.setup
          { calling := 8, called := 8, pduSize := 240 }
        = .ok context
        ∧ WritePlan.ofItems (Operation.limits session context) [lastItem]
          = .ok plan
        ∧ plan.batches.map List.length = [1, 1]
        ∧ ∀ batch ∈ plan.batches, ∀ reference,
          ∃ pdu, (Body.writeRequest batch).toPdu reference = .ok pdu := by
  have shape : (WritePlan.ofItems (.ofPduSize 240 20) [lastItem]).map
      (fun plan => plan.batches.map List.length) = .ok [1, 1] := by
    decide +kernel
  obtain ⟨plan, planned, lengths⟩ := exists_of_map_eq_ok shape
  obtain ⟨session, context, accepted, negotiated, limits⟩ :=
    Settings.exists_limits_default
  have few : session.maxItemsPerRequest ≤ 255 := by
    cases accepted
    decide
  rw [← limits] at planned
  obtain ⟨-, writes⟩ := encodes_iff negotiated
  obtain ⟨encodes, encodable⟩ := writes _ plan planned
  refine ⟨session, context, plan, negotiated, planned, lengths, ?_⟩
  intro batch member reference
  rw [encodes batch member]
  exact encodable few (by decide +kernel) batch member

/-- An item that ends behind the address space is planned all the same. The first
of its batches can be sent, and the second not. -/
theorem Context.exists_batch_beyond :
    ∃ session context plan first second pdu,
      Settings.default.session = .ok session
        ∧ Context.negotiate session.tsaps 1024 session.setup
            { calling := 8, called := 8, pduSize := 240 }
          = .ok context
        ∧ WritePlan.ofItems (Operation.limits session context)
            [.ofBytes .dataBlock 1 2096940 (List.replicate 424 0)]
          = .ok plan
        ∧ plan.batches = [first, second]
        ∧ (Body.writeRequest first).toPdu 0 = .ok pdu
        ∧ (Body.writeRequest second).toPdu 0
          = .error (.encode .addressTooLarge) := by
  have shape : (WritePlan.ofItems (.ofPduSize 240 20)
      [.ofBytes .dataBlock 1 2096940 (List.replicate 424 0)]).map
        (fun plan => plan.batches.map fun batch =>
          ((Body.writeRequest batch).toPdu 0).map fun _ => ())
      = .ok [.ok (), .error (.encode .addressTooLarge)] := by
    decide +kernel
  obtain ⟨plan, planned, encodings⟩ := exists_of_map_eq_ok shape
  obtain ⟨first, others, batches, made, rest⟩ :=
    List.map_eq_cons_iff.1 encodings
  obtain ⟨second, none, rfl, refused, isLast⟩ := List.map_eq_cons_iff.1 rest
  obtain rfl := List.map_eq_nil_iff.1 isLast
  obtain ⟨pdu, isPdu, -⟩ := exists_of_map_eq_ok made
  obtain ⟨session, context, accepted, negotiated, limits⟩ :=
    Settings.exists_limits_default
  rw [← limits] at planned
  exact ⟨session, context, plan, first, second, pdu, accepted, negotiated,
    planned, batches, isPdu, eq_error_of_map_eq_error refused⟩

end PlcLink
