import Mathlib
import PlcLink.Proofs.Planning.Pieces

/-!
# What planned writes do to memory

Writing the pieces of a plan does to a controller's memory what writing the
items themselves does, and in any order if no two items share a byte.
-/

namespace PlcLink

/-- A controller's memory: the byte at each address of each block of each
area. -/
abbrev Memory : Type :=
  Area -> UInt16 -> Nat -> UInt8

namespace Memory

/-- Put bytes into a block from an address on. -/
def put (memory : Memory) (area : Area) (block : UInt16) (start : Nat)
    (bytes : Bytes) : Memory :=
  fun area' block' address =>
    if area' = area ∧ block' = block ∧ start ≤ address then
      (bytes[address - start]?).getD (memory area' block' address)
    else
      memory area' block' address

/-- Write an item. A bit is written as the byte that carries it. -/
def write (memory : Memory) (item : WriteItem) : Memory :=
  memory.put item.spec.area item.spec.blockNumber item.spec.start item.data

/-- Write items one after the other. -/
def writeAll (memory : Memory) (items : List WriteItem) : Memory :=
  items.foldl write memory

/-- Write batches one after the other. -/
def writeBatches (memory : Memory) (batches : List (List WriteItem)) : Memory :=
  batches.foldl writeAll memory

theorem put_nil (memory : Memory) (area : Area) (block : UInt16)
    (start : Nat) : memory.put area block start [] = memory := by
  funext area' block' address
  simp [put]

/-- Bytes put behind others are put with them. -/
theorem put_put_append (memory : Memory) (area : Area) (block : UInt16)
    (start : Nat) (first second : Bytes) :
    (memory.put area block start first).put area block
        (start + first.length) second
      = memory.put area block start (first ++ second) := by
  funext area' block' address
  unfold put
  by_cases here : area' = area ∧ block' = block
  · obtain ⟨rfl, rfl⟩ := here
    by_cases behind : start + first.length ≤ address
    · have inSecond : address - start - first.length
          = address - (start + first.length) := by
        omega
      have notFirst : first.length ≤ address - start := by
        omega
      simp only [true_and, if_pos behind, if_pos (Nat.le_of_add_right_le behind),
        List.getElem?_append_right notFirst, inSecond,
        List.getElem?_eq_none notFirst, Option.getD_none]
    · by_cases before : address < start
      · simp [Nat.not_le.2 before, behind]
      · have inFirst : address - start < first.length := by
          omega
        simp only [true_and, if_neg behind, if_pos (Nat.le_of_not_lt before),
          List.getElem?_append_left inFirst]
  · simp only [← and_assoc, here, false_and, if_false]

/-- The bytes beside those that are put stay. -/
theorem put_apply_of_beside {memory : Memory} {area area' : Area}
    {block block' : UInt16} {start address : Nat} {bytes : Bytes}
    (beside :
      area' ≠ area ∨ block' ≠ block ∨ address < start
        ∨ start + bytes.length ≤ address) :
    memory.put area block start bytes area' block' address
      = memory area' block' address := by
  unfold put
  split
  · rename_i here
    obtain ⟨sameArea, sameBlock, behind⟩ := here
    have beyond : bytes.length ≤ address - start := by
      obtain other | other | before | beyond := beside
      · exact absurd sameArea other
      · exact absurd sameBlock other
      · omega
      · omega
    rw [List.getElem?_eq_none beyond, Option.getD_none]
  · rfl

/-- The bytes that are put do not depend on those they replace. -/
theorem put_apply_congr {memory other : Memory} {area area' : Area}
    {block block' : UInt16} {start address : Nat} {bytes : Bytes}
    (same : memory area' block' address = other area' block' address) :
    memory.put area block start bytes area' block' address
      = other.put area block start bytes area' block' address := by
  unfold put
  rw [same]

/-- Items without a common byte can be written in either order. -/
theorem write_comm {first second : WriteItem}
    (firstCovers : first.data.length = first.spec.byteLength)
    (secondCovers : second.data.length = second.spec.byteLength)
    (apart : first.spec.Apart second.spec) (memory : Memory) :
    (memory.write first).write second = (memory.write second).write first := by
  funext area block address
  unfold VarSpec.Apart VarSpec.stop at apart
  rw [← firstCovers, ← secondCovers] at apart
  -- An address is beside one of the two items, and is then written by the
  -- other alone.
  by_cases besideFirst : area ≠ first.spec.area
      ∨ block ≠ first.spec.blockNumber ∨ address < first.spec.start
      ∨ first.spec.start + first.data.length ≤ address
  · have left : (memory.write second).write first area block address
        = memory.write second area block address :=
      put_apply_of_beside besideFirst
    rw [left]
    exact put_apply_congr (put_apply_of_beside besideFirst)
  · simp only [not_or, ne_eq, not_not, Nat.not_lt, Nat.not_le] at besideFirst
    obtain ⟨rfl, rfl, behind, before⟩ := besideFirst
    have besideSecond : first.spec.area ≠ second.spec.area
        ∨ first.spec.blockNumber ≠ second.spec.blockNumber
        ∨ address < second.spec.start
        ∨ second.spec.start + second.data.length ≤ address := by
      obtain area | block | earlier | later := apart
      · exact .inl area
      · exact .inr (.inl block)
      · exact .inr (.inr (.inl (by omega)))
      · exact .inr (.inr (.inr (by omega)))
    have left : (memory.write first).write second first.spec.area
        first.spec.blockNumber address
        = memory.write first first.spec.area first.spec.blockNumber address :=
      put_apply_of_beside besideSecond
    rw [left]
    exact put_apply_congr (put_apply_of_beside besideSecond).symm

theorem writeAll_append (memory : Memory) (first second : List WriteItem) :
    memory.writeAll (first ++ second)
      = (memory.writeAll first).writeAll second :=
  List.foldl_append

theorem writeBatches_eq (memory : Memory) (batches : List (List WriteItem)) :
    memory.writeBatches batches = memory.writeAll batches.flatten :=
  List.foldl_flatten.symm

/-- Whether two items can be written in either order. -/
def Interchangeable (first second : WriteItem) : Prop :=
  ∀ memory : Memory,
    (memory.write first).write second = (memory.write second).write first

/-- Items no two of which share a byte can be written in any order. -/
theorem writeAll_perm {items order : List WriteItem}
    (covers : ∀ item ∈ items, item.data.length = item.spec.byteLength)
    (apart : items.Pairwise fun first second => first.spec.Apart second.spec)
    (reordered : order.Perm items) (memory : Memory) :
    memory.writeAll order = memory.writeAll items := by
  have pairwise : items.Pairwise Interchangeable :=
    apart.imp_of_mem fun firstMember secondMember apart =>
      write_comm (covers _ firstMember) (covers _ secondMember) apart
  have flipped : items.Pairwise (flip Interchangeable) :=
    pairwise.imp fun interchangeable memory => (interchangeable memory).symm
  have all := pairwise.forall_of_forall_of_flip (fun _ _ _ => rfl) flipped
  refine reordered.foldl_eq' ?_ memory
  intro first firstMember second secondMember memory
  exact all (reordered.mem_iff.1 firstMember)
    (reordered.mem_iff.1 secondMember) memory

end Memory

/-! ## Planned writes -/

namespace WriteItem

variable {item : WriteItem} {pieces : List VarSpec}

theorem map_spec_share (pieces : List VarSpec) (data : Bytes) :
    (share pieces data).map WriteItem.spec = pieces := by
  induction pieces generalizing data with
  | nil => rfl
  | cons piece others inductionHypothesis =>
      rw [share, List.map_cons, inductionHypothesis]

/-- Each piece gets as much data as it has bytes. -/
theorem covers_share {data : Bytes}
    (length : (pieces.map VarSpec.byteLength).sum = data.length) :
    ∀ piece ∈ share pieces data,
      piece.data.length = piece.spec.byteLength := by
  induction pieces generalizing data with
  | nil => simp [share]
  | cons piece others inductionHypothesis =>
      rw [List.map_cons, List.sum_cons] at length
      rw [share]
      refine List.forall_mem_cons.2 ⟨?_, ?_⟩
      · change (data.take piece.byteLength).length = piece.byteLength
        rw [List.length_take]
        omega
      · apply inductionHypothesis
        rw [List.length_drop]
        omega

/-- Writing consecutive pieces puts all the data into their place. -/
theorem writeAll_share {spec : VarSpec} {first last : Nat} {data : Bytes}
    (consecutive : VarSpec.Consecutive spec first pieces last)
    (length : first + data.length = last) (memory : Memory) :
    memory.writeAll (share pieces data)
      = memory.put spec.area spec.blockNumber first data := by
  induction consecutive generalizing data memory with
  | done place =>
      have isEmpty : data = [] := List.length_eq_zero_iff.1 (by omega)
      rw [isEmpty, Memory.put_nil]
      rfl
  | @piece piece others stop area_eq block_eq follow inductionHypothesis =>
      have bound := follow.le
      unfold VarSpec.stop at bound
      have taken : (data.take piece.byteLength).length = piece.byteLength := by
        rw [List.length_take]
        omega
      have left : piece.stop + (data.drop piece.byteLength).length = stop := by
        rw [List.length_drop, VarSpec.stop]
        omega
      change (memory.put piece.area piece.blockNumber piece.start
        (data.take piece.byteLength)).writeAll
          (share others (data.drop piece.byteLength)) = _
      rw [inductionHypothesis left, area_eq, block_eq, VarSpec.stop]
      nth_rewrite 2 [← taken]
      rw [Memory.put_put_append, List.take_append_drop]

/-- What the pieces of an item are. -/
theorem pieces_eq_ok {maxBytes : Nat} {cut : List WriteItem}
    (planned : item.pieces maxBytes = .ok cut) :
    item.data.length = item.spec.byteLength
      ∧ ∃ pieces, item.spec.pieces maxBytes = .ok pieces
        ∧ cut = share pieces item.data := by
  unfold WriteItem.pieces at planned
  split at planned
  · cases planned
  · rename_i covers
    obtain ⟨pieces, isCut, shared⟩ := exists_of_bind_eq_ok planned
    exact ⟨not_not.1 covers, pieces, isCut, (Except.ok.inj shared).symm⟩

/-- The pieces of an item lie where those of its variable do. -/
theorem exists_pieces_spec {maxBytes : Nat} {cut : List WriteItem}
    (planned : item.pieces maxBytes = .ok cut) :
    ∃ pieces, item.spec.pieces maxBytes = .ok pieces
      ∧ cut.map WriteItem.spec = pieces := by
  obtain ⟨-, pieces, isCut, rfl⟩ := pieces_eq_ok planned
  exact ⟨pieces, isCut, map_spec_share pieces item.data⟩

/-- The pieces of an item carry all of their bytes. -/
theorem covers_of_mem_pieces {maxBytes : Nat} {cut : List WriteItem}
    (planned : item.pieces maxBytes = .ok cut) :
    ∀ piece ∈ cut, piece.data.length = piece.spec.byteLength := by
  obtain ⟨covers, pieces, isCut, rfl⟩ := pieces_eq_ok planned
  exact covers_share ((VarSpec.sum_byteLength_pieces isCut).trans covers.symm)

section

variable {maxBytes : Nat} {cut : List WriteItem}
  (planned : item.pieces maxBytes = .ok cut)

include planned

/-- Writing the pieces of an item writes the item. -/
theorem writeAll_pieces (memory : Memory) :
    memory.writeAll cut = memory.write item := by
  obtain ⟨covers, pieces, isCut, rfl⟩ := pieces_eq_ok planned
  have length : item.spec.start + item.data.length = item.spec.stop := by
    rw [covers, VarSpec.stop]
  exact writeAll_share (VarSpec.consecutive_pieces isCut) length memory

theorem within_of_mem_pieces :
    ∀ piece ∈ cut, piece.spec.Within item.spec := by
  obtain ⟨_, isCut, rfl⟩ := exists_pieces_spec planned
  intro piece member
  exact VarSpec.within_of_mem_pieces isCut piece.spec
    (List.mem_map_of_mem member)

theorem apart_pieces :
    cut.Pairwise fun first second => first.spec.Apart second.spec := by
  obtain ⟨_, isCut, rfl⟩ := exists_pieces_spec planned
  exact List.pairwise_map.1
    (VarSpec.consecutive_pieces isCut).pairwise_apart

end

/-- The pieces of a list of items. -/
def Cut (maxBytes : Nat) (items : List WriteItem)
    (pieces : List (List WriteItem)) : Prop :=
  List.Forall₂ (fun item cut => item.pieces maxBytes = .ok cut) items pieces

section

variable {maxBytes : Nat} {items : List WriteItem}
  {pieces : List (List WriteItem)}
  (cut : Cut maxBytes items pieces)

include cut

theorem Cut.writeAll_flatten (memory : Memory) :
    memory.writeAll pieces.flatten = memory.writeAll items := by
  induction cut generalizing memory with
  | nil => rfl
  | @cons item cut items pieces planned _ inductionHypothesis =>
      rw [List.flatten_cons, Memory.writeAll_append,
        writeAll_pieces planned, inductionHypothesis]
      rfl

theorem Cut.exists_of_mem_flatten :
    ∀ piece ∈ pieces.flatten,
      piece.data.length = piece.spec.byteLength
        ∧ ∃ item ∈ items, piece.spec.Within item.spec := by
  induction cut with
  | nil => simp
  | @cons item cut items pieces planned _ inductionHypothesis =>
      intro piece member
      rw [List.flatten_cons, List.mem_append] at member
      obtain inFirst | inOthers := member
      · exact ⟨covers_of_mem_pieces planned piece inFirst, item,
          List.mem_cons_self,
          within_of_mem_pieces planned piece inFirst⟩
      · obtain ⟨covers, other, isOther, within⟩ :=
          inductionHypothesis piece inOthers
        exact ⟨covers, other, List.mem_cons_of_mem _ isOther, within⟩

/-- Items without a common byte have pieces without one. -/
theorem Cut.apart_flatten
    (apart :
      items.Pairwise fun first second => first.spec.Apart second.spec) :
    pieces.flatten.Pairwise
      fun first second => first.spec.Apart second.spec := by
  induction cut with
  | nil => exact .nil
  | @cons item cut items pieces planned others inductionHypothesis =>
      obtain ⟨itemApart, apart⟩ := List.pairwise_cons.1 apart
      rw [List.flatten_cons, List.pairwise_append]
      refine ⟨apart_pieces planned, inductionHypothesis apart, ?_⟩
      intro first inFirst second inOthers
      obtain ⟨-, other, isOther, within⟩ :=
        Cut.exists_of_mem_flatten others second inOthers
      exact (itemApart other isOther).mono
        (within_of_mem_pieces planned first inFirst) within

end
end WriteItem

namespace WritePlan

variable {limits : BatchLimits} {items : List WriteItem} {plan : WritePlan}

theorem cut_of_ofItems (planned : ofItems limits items = .ok plan) :
    WriteItem.Cut limits.writeChunk items plan.pieces := by
  obtain ⟨pieces, cut, isPlan⟩ := exists_of_bind_eq_ok planned
  cases Except.ok.inj isPlan
  exact forall₂_of_mapM_eq_ok cut

/-- Writing the batches of a plan writes its items, and in any order of their
pieces if no two items share a byte. -/
theorem writes_items
    (planned : ofItems limits items = .ok plan)
    (memory : Memory) :
    memory.writeBatches plan.batches = memory.writeAll items
      ∧ ((items.Pairwise fun first second =>
            first.spec.Apart second.spec) →
          ∀ order, order.Perm plan.batches.flatten →
            memory.writeAll order = memory.writeAll items) := by
  have cut := cut_of_ofItems planned
  have inOrder : memory.writeAll plan.batches.flatten
      = memory.writeAll items := by
    rw [plan.flatten_batches]
    exact cut.writeAll_flatten memory
  refine ⟨(memory.writeBatches_eq _).trans inOrder, ?_⟩
  intro apart order reordered
  rw [← inOrder]
  rw [plan.flatten_batches] at reordered ⊢
  exact Memory.writeAll_perm
    (fun piece member => (cut.exists_of_mem_flatten piece member).1)
    (cut.apart_flatten apart) reordered memory

/-- Two items next to each other, the first of which takes two batches. -/
def adjacentItems : List WriteItem :=
  [.ofBytes .dataBlock 250 0 (List.replicate 300 7),
    .ofBytes .dataBlock 250 300 [1, 2]]

theorem writes_items_adjacent :
    ∃ plan,
      ofItems (.ofPduSize 240 20) adjacentItems = .ok plan
        ∧ plan.batches.map List.length = [1, 2]
        ∧ ∀ memory : Memory,
          memory.writeBatches plan.batches = memory.writeAll adjacentItems
            ∧ memory.writeAll plan.batches.flatten.reverse
              = memory.writeAll adjacentItems := by
  have shape :
      (ofItems (.ofPduSize 240 20) adjacentItems).map
        (fun plan => plan.batches.map List.length) = .ok [1, 2] := by
    decide +kernel
  obtain ⟨plan, planned, lengths⟩ := exists_of_map_eq_ok shape
  refine ⟨plan, planned, lengths, ?_⟩
  intro memory
  obtain ⟨inOrder, inAnyOrder⟩ := writes_items planned memory
  exact ⟨inOrder, inAnyOrder (by decide +kernel) _ (List.reverse_perm _)⟩

end WritePlan
end PlcLink
