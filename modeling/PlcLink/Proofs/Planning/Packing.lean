import Mathlib
import PlcLink.Proofs.Planning.Memory

/-!
# Sizes of batches

The size that is kept of a batch to write is the size of its request, so that
no planned request grows beyond the agreed size.
-/

namespace PlcLink

/-! ## Packing -/

section Packing

variable {piece : Type} {fits : BatchSize -> piece -> Bool}
  {add : BatchSize -> piece -> BatchSize}

/-- What holds of a batch of one piece, and goes on holding as long as further
pieces fit, holds of every batch. -/
theorem forall_packBehind {packed : List piece -> BatchSize -> Prop}
    {begun others : List piece} {size : BatchSize}
    (first : ∀ next ∈ others, packed [next] (add .empty next))
    (more : ∀ batch size, packed batch size -> ∀ next ∈ others,
      fits size next -> packed (batch ++ [next]) (add size next))
    (start : (begun = [] ∧ size = .empty) ∨ (begun ≠ [] ∧ packed begun size)) :
    ∀ batch ∈ packBehind fits add begun size others,
      ∃ size, packed batch size := by
  induction others generalizing begun size with
  | nil =>
      intro batch member
      rw [packBehind] at member
      obtain ⟨rfl, -⟩ | ⟨nonempty, holds⟩ := start
      · cases member
      · rw [if_neg (by simpa using nonempty)] at member
        obtain rfl := List.mem_singleton.1 member
        exact ⟨size, holds⟩
  | cons next others inductionHypothesis =>
      obtain ⟨nextFirst, othersFirst⟩ := List.forall_mem_cons.1 first
      have othersMore : ∀ batch size, packed batch size ->
          ∀ next ∈ others, fits size next ->
            packed (batch ++ [next]) (add size next) :=
        fun batch size holds next member =>
          more batch size holds next (List.mem_cons_of_mem _ member)
      rw [packBehind]
      split
      · rename_i goesOn
        apply inductionHypothesis othersFirst othersMore
        refine .inr ⟨by simp, ?_⟩
        obtain ⟨rfl, rfl⟩ | ⟨nonempty, holds⟩ := start
        · exact nextFirst
        · have nextFits : fits size next = true := by
            simpa [nonempty] using goesOn
          exact more begun size holds next List.mem_cons_self nextFits
      · rename_i stops
        have nonempty : begun ≠ [] := by
          rintro rfl
          exact stops rfl
        have holds : packed begun size :=
          (start.resolve_left fun empty => nonempty empty.1).2
        refine List.forall_mem_cons.2 ⟨⟨size, holds⟩, ?_⟩
        exact inductionHypothesis othersFirst othersMore
          (.inr ⟨List.cons_ne_nil _ _, nextFirst⟩)

/-- No batch is empty or has more pieces than are allowed. -/
theorem length_le_of_mem_packBehind {maxItems : Nat} {pieces : List piece}
    (positive : 0 < maxItems)
    (counts : ∀ size next, (add size next).items = size.items + 1)
    (limited : ∀ size next, fits size next -> size.items < maxItems) :
    ∀ batch ∈ packBehind fits add [] .empty pieces,
      0 < batch.length ∧ batch.length ≤ maxItems := by
  have counted : ∀ batch ∈ packBehind fits add [] .empty pieces,
      ∃ size : BatchSize,
        batch.length = size.items ∧ 0 < size.items ∧ size.items ≤ maxItems := by
    refine forall_packBehind ?_ ?_ (.inl ⟨rfl, rfl⟩)
    · intro next _
      rw [counts]
      exact ⟨rfl, Nat.succ_pos _, positive⟩
    · intro batch size packed next _ nextFits
      rw [counts, List.length_append, packed.1]
      exact ⟨rfl, Nat.succ_pos _, limited size next nextFits⟩
  intro batch member
  obtain ⟨size, length, nonempty, few⟩ := counted batch member
  rw [length]
  exact ⟨nonempty, few⟩

end Packing

/-- A batch to read has a piece, and no more of them than are allowed. -/
theorem ReadPlan.length_bounds {limits : BatchLimits}
    {specs : List VarSpec} {plan : ReadPlan}
    (planned : ofSpecs limits specs = .ok plan) :
    ∀ batch ∈ plan.batches,
      0 < batch.length ∧ batch.length ≤ max 1 limits.maxItems := by
  obtain ⟨pieces, -, isPlan⟩ := exists_of_bind_eq_ok planned
  cases Except.ok.inj isPlan
  refine length_le_of_mem_packBehind (by omega) (fun _ _ => rfl) ?_
  intro size next fits
  rw [BatchSize.fitsRead, Bool.and_eq_true, Bool.and_eq_true] at fits
  have fewer := of_decide_eq_true fits.1.1
  omega

/-- A batch to read has no more items than are allowed. -/
theorem ReadPlan.length_le_of_mem_batches {limits : BatchLimits}
    {specs : List VarSpec} {plan : ReadPlan}
    (planned : ofSpecs limits specs = .ok plan)
    (positive : 0 < limits.maxItems) :
    ∀ batch ∈ plan.batches, batch.length ≤ limits.maxItems := by
  intro batch member
  obtain ⟨-, few⟩ := length_bounds planned batch member
  rwa [Nat.max_eq_right positive] at few

/-! ## Lists of data items -/

namespace DataItem

/-- Whether an item has to be filled up before another follows. -/
def isOdd (item : DataItem) : Bool :=
  item.data.length % 2 == 1

theorem encodedLengthMany_singleton (item : DataItem) :
    encodedLengthMany [item] = headerLength + item.data.length := by
  simp [encodedLengthMany, encodedLength, fill]

theorem encodedLengthMany_cons (item : DataItem) {others : List DataItem}
    (several : others ≠ []) :
    encodedLengthMany (item :: others)
      = headerLength + item.data.length + (if item.isOdd then 1 else 0)
        + encodedLengthMany others := by
  rw [encodedLengthMany, List.isEmpty_eq_false_iff.2 several]
  rfl

/-- One more item needs room for itself and for what fills up the last one. -/
theorem encodedLengthMany_append (items : List DataItem) (next : DataItem) :
    encodedLengthMany (items ++ [next])
      = encodedLengthMany items + (if items.getLast?.any isOdd then 1 else 0)
        + headerLength + next.data.length := by
  induction items with
  | nil =>
      rw [List.nil_append, encodedLengthMany_singleton, encodedLengthMany]
      simp
  | cons item others inductionHypothesis =>
      rw [List.cons_append, encodedLengthMany_cons item (by simp)]
      cases others with
      | nil =>
          rw [List.nil_append, encodedLengthMany_singleton,
            encodedLengthMany_singleton, List.getLast?_singleton,
            Option.any_some]
          omega
      | cons second rest =>
          rw [inductionHypothesis,
            encodedLengthMany_cons item (List.cons_ne_nil _ _),
            List.getLast?_cons_cons]
          omega

end DataItem

/-! ## Batches to write -/

/-- The size that is kept of a batch to write is that of its request. -/
structure BatchSize.CountsWrites (limits : BatchLimits)
    (batch : List WriteItem) (size : BatchSize) : Prop where
  request_eq :
    size.request
      = 12 + VarSpec.wireLength * batch.length
        + DataItem.encodedLengthMany (batch.map WriteItem.toDataItem)
  request_le : size.request ≤ limits.pduSize.toNat
  lastOdd_eq :
    size.lastOdd
      = (batch.map WriteItem.toDataItem).getLast?.any DataItem.isOdd

namespace BatchSize

variable {limits : BatchLimits} {next : WriteItem}

theorem countsWrites_singleton
    (covers : next.data.length = next.spec.byteLength)
    (short : next.spec.byteLength ≤ limits.writeChunk)
    (room : 28 ≤ limits.pduSize.toNat) :
    CountsWrites limits [next] (BatchSize.empty.addWrite next) := by
  rw [BatchLimits.writeChunk] at short
  constructor
  · simp [addWrite, writeGrowth, fill, empty, DataItem.encodedLengthMany,
      DataItem.encodedLength, DataItem.fill, WriteItem.toDataItem, covers]
    omega
  · simp only [addWrite, writeGrowth, fill, empty, VarSpec.wireLength,
      DataItem.headerLength, Bool.false_eq_true, if_false]
    omega
  · simp [addWrite, DataItem.isOdd, WriteItem.toDataItem, covers]

theorem CountsWrites.append {batch : List WriteItem} {size : BatchSize}
    (counts : CountsWrites limits batch size)
    (covers : next.data.length = next.spec.byteLength)
    (fits : fitsWrite limits size next) :
    CountsWrites limits (batch ++ [next]) (size.addWrite next) := by
  have isFill : size.fill
      = if (batch.map WriteItem.toDataItem).getLast?.any DataItem.isOdd
        then 1 else 0 := by
    rw [fill, counts.lastOdd_eq]
  constructor
  · have isData : next.toDataItem.data.length = next.spec.byteLength := covers
    change size.request + size.writeGrowth next = _
    rw [List.map_append, List.map_singleton,
      DataItem.encodedLengthMany_append, List.length_append,
      List.length_singleton, writeGrowth, counts.request_eq, isFill, isData,
      Nat.mul_succ]
    omega
  · rw [fitsWrite, Bool.and_eq_true, Bool.and_eq_true] at fits
    exact of_decide_eq_true fits.1.2
  · simp [BatchSize.addWrite, DataItem.isOdd, WriteItem.toDataItem, covers]

end BatchSize

namespace WritePlan

variable {limits : BatchLimits} {items : List WriteItem} {plan : WritePlan}

/-- What the pieces of a plan carry. -/
theorem carries_of_mem (planned : ofItems limits items = .ok plan)
    (room : 28 < limits.pduSize.toNat) :
    ∀ piece ∈ plan.pieces.flatten,
      piece.data.length = piece.spec.byteLength
        ∧ piece.spec.byteLength ≤ limits.writeChunk
        ∧ (piece.spec.transportSize.variableType.lengthInBits →
          piece.spec.byteLength ≤ VarSpec.maxBitCountedBytes) := by
  have chunk : 0 < limits.writeChunk := Nat.sub_pos_of_lt room
  intro piece member
  obtain ⟨cut, isCut, inCut⟩ := List.mem_flatten.1 member
  revert cut
  refine forall_mem_of_forall₂ (cut_of_ofItems planned) ?_
  intro item _ cut planned inCut
  have covers := WriteItem.covers_of_mem_pieces planned piece inCut
  obtain ⟨_, isCut, rfl⟩ := WriteItem.exists_pieces_spec planned
  exact ⟨covers, VarSpec.byteLength_le_of_mem_pieces chunk isCut piece.spec
    (List.mem_map_of_mem inCut)⟩

/-- The request of every batch of a plan is within the agreed size. -/
theorem exists_countsWrites (planned : ofItems limits items = .ok plan)
    (room : 28 < limits.pduSize.toNat) :
    ∀ batch ∈ plan.batches, ∃ size, BatchSize.CountsWrites limits batch size := by
  have carries := carries_of_mem planned room
  obtain ⟨pieces, -, isPlan⟩ := exists_of_bind_eq_ok planned
  cases Except.ok.inj isPlan
  refine forall_packBehind ?_ ?_ (.inl ⟨rfl, rfl⟩)
  · intro next member
    obtain ⟨covers, short, -⟩ := carries next member
    exact BatchSize.countsWrites_singleton covers short room.le
  · intro batch size counts next member fits
    exact counts.append (carries next member).1 fits

/-- A batch to write has a piece, and no more of them than are allowed. -/
theorem length_bounds (planned : ofItems limits items = .ok plan) :
    ∀ batch ∈ plan.batches,
      0 < batch.length ∧ batch.length ≤ max 1 limits.maxItems := by
  obtain ⟨pieces, -, isPlan⟩ := exists_of_bind_eq_ok planned
  cases Except.ok.inj isPlan
  refine length_le_of_mem_packBehind (by omega) (fun _ _ => rfl) ?_
  intro size next fits
  rw [BatchSize.fitsWrite, Bool.and_eq_true, Bool.and_eq_true] at fits
  have fewer := of_decide_eq_true fits.1.1
  omega

/-- A batch to write has no more items than are allowed. -/
theorem length_le_of_mem_batches (planned : ofItems limits items = .ok plan)
    (positive : 0 < limits.maxItems) :
    ∀ batch ∈ plan.batches, batch.length ≤ limits.maxItems := by
  intro batch member
  obtain ⟨-, few⟩ := length_bounds planned batch member
  rwa [Nat.max_eq_right positive] at few

end WritePlan
end PlcLink
