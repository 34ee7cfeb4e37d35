import Mathlib
import PlcLink.Planning.Plan
import PlcLink.Proofs.Failure

/-!
# How pieces lie in memory

The pieces of a variable follow one another without gaps and cover its bytes
exactly. A variable is cut only if all its pieces begin at addresses.
-/

namespace PlcLink
namespace VarSpec

/-- The first byte of a variable. -/
def start (spec : VarSpec) : Nat :=
  spec.byteAddress.toNat

/-- The first byte behind a variable. -/
def stop (spec : VarSpec) : Nat :=
  spec.start + spec.byteLength

/-- Two variables have no byte in common. -/
def Apart (first second : VarSpec) : Prop :=
  first.area ≠ second.area ∨ first.blockNumber ≠ second.blockNumber
    ∨ first.stop ≤ second.start ∨ second.stop ≤ first.start

instance (first second : VarSpec) : Decidable (first.Apart second) :=
  inferInstanceAs (Decidable (_ ∨ _ ∨ _ ∨ _))

theorem Apart.symm {first second : VarSpec} (apart : first.Apart second) :
    second.Apart first := by
  obtain area | block | before | behind := apart
  · exact .inl area.symm
  · exact .inr (.inl block.symm)
  · exact .inr (.inr (.inr before))
  · exact .inr (.inr (.inl behind))

/-- The bytes of the first variable are among those of the second. -/
structure Within (inner outer : VarSpec) : Prop where
  area_eq : inner.area = outer.area
  blockNumber_eq : inner.blockNumber = outer.blockNumber
  start_le : outer.start ≤ inner.start
  stop_le : inner.stop ≤ outer.stop

theorem Apart.mono {first second firstInner secondInner : VarSpec}
    (apart : first.Apart second)
    (firstWithin : firstInner.Within first)
    (secondWithin : secondInner.Within second) :
    firstInner.Apart secondInner := by
  have firstStart := firstWithin.start_le
  have firstStop := firstWithin.stop_le
  have secondStart := secondWithin.start_le
  have secondStop := secondWithin.stop_le
  unfold Apart
  rw [firstWithin.area_eq, firstWithin.blockNumber_eq,
    secondWithin.area_eq, secondWithin.blockNumber_eq]
  obtain area | block | before | behind := apart
  · exact .inl area
  · exact .inr (.inl block)
  · exact .inr (.inr (.inl (by omega)))
  · exact .inr (.inr (.inr (by omega)))

/-- Pieces that follow one another from one byte up to another, in the place
of a variable. -/
inductive Consecutive (spec : VarSpec) : Nat -> List VarSpec -> Nat -> Prop
  | done (place : Nat) : Consecutive spec place [] place
  | piece {piece : VarSpec} {others : List VarSpec} {stop : Nat}
      (area_eq : piece.area = spec.area)
      (blockNumber_eq : piece.blockNumber = spec.blockNumber)
      (others_follow : Consecutive spec piece.stop others stop) :
      Consecutive spec piece.start (piece :: others) stop

namespace Consecutive

variable {spec : VarSpec} {pieces : List VarSpec} {first last : Nat}

theorem le (consecutive : Consecutive spec first pieces last) :
    first ≤ last := by
  induction consecutive with
  | done place => exact Nat.le_refl place
  | piece _ _ _ bound =>
      unfold stop at bound
      omega

/-- Each piece lies between the ends. -/
theorem bounds (consecutive : Consecutive spec first pieces last) :
    ∀ piece ∈ pieces,
      piece.area = spec.area ∧ piece.blockNumber = spec.blockNumber
        ∧ first ≤ piece.start ∧ piece.stop ≤ last := by
  induction consecutive with
  | done place => simp
  | @piece piece others stop area_eq blockNumber_eq follow bounds =>
      intro member isMember
      obtain rfl | isOther := List.mem_cons.1 isMember
      · exact ⟨area_eq, blockNumber_eq, Nat.le_refl _, follow.le⟩
      · obtain ⟨area, block, start, stop⟩ := bounds member isOther
        refine ⟨area, block, ?_, stop⟩
        unfold VarSpec.stop at start
        omega

/-- Pieces that follow one another have no byte in common. -/
theorem pairwise_apart (consecutive : Consecutive spec first pieces last) :
    pieces.Pairwise Apart := by
  induction consecutive with
  | done place => exact .nil
  | piece area_eq blockNumber_eq follow apart =>
      refine List.pairwise_cons.2 ⟨?_, apart⟩
      intro other isOther
      obtain ⟨-, -, start, -⟩ := follow.bounds other isOther
      exact .inr (.inr (.inl start))

end Consecutive

/-! ## The pieces of a variable -/

section

variable {spec : VarSpec}

theorem elementBytes_pos (spec : VarSpec) : 0 < spec.elementBytes :=
  spec.transportSize.elementBytes_pos

theorem elementBytes_le (spec : VarSpec) : spec.elementBytes ≤ 8 := by
  unfold elementBytes
  cases spec.transportSize <;> decide

theorem start_lt (spec : VarSpec) : spec.start < 2 ^ 32 :=
  spec.byteAddress.toNat_lt

/-- Where the run begins that lies so many elements further on. -/
def placeOf (spec : VarSpec) (skip : Nat) : Nat :=
  spec.start + skip * spec.elementBytes

/-- The piece that a run of elements is, if it begins at an address. -/
def part (spec : VarSpec) (run : Nat × Nat) : VarSpec :=
  { spec with
    byteAddress := UInt32.ofNat (spec.placeOf run.1)
    count := UInt16.ofNat run.2 }

theorem subRange_eq {skip : Nat} (few : skip ≤ 65536) (count : Nat) :
    spec.subRange skip (UInt16.ofNat count)
      = if spec.placeOf skip < 2 ^ 32 then .ok (spec.part (skip, count))
        else Guarded.crash .overflow := by
  have short : skip * spec.elementBytes < UInt32.size :=
    lt_of_le_of_lt (Nat.mul_le_mul few spec.elementBytes_le) (by decide)
  have isSize : skip * spec.elementBytes < UInt64.size :=
    short.trans (by decide)
  rw [subRange, Guarded.mul_eq isSize, Guarded.ok_bind,
    Nat.mod_eq_of_lt short]
  by_cases isAddress :
      spec.byteAddress.toNat + skip * spec.elementBytes < UInt32.size
  · rw [Guarded.add_eq isAddress]
    exact (if_pos isAddress).symm
  · rw [Guarded.add_eq_crash (Nat.not_lt.1 isAddress)]
    exact (if_neg isAddress).symm

theorem start_part {run : Nat × Nat}
    (isAddress : spec.placeOf run.1 < 2 ^ 32) :
    (spec.part run).start = spec.placeOf run.1 := by
  change (UInt32.ofNat (spec.placeOf run.1)).toNat = _
  rw [UInt32.toNat_ofNat', Nat.mod_eq_of_lt isAddress]

theorem byteLength_part {run : Nat × Nat} (countFits : run.2 < 65536) :
    (spec.part run).byteLength = run.2 * spec.elementBytes := by
  change (UInt16.ofNat run.2).toNat * spec.elementBytes = _
  rw [UInt16.toNat_ofNat', Nat.mod_eq_of_lt (by omega)]

theorem stop_part {run : Nat × Nat}
    (isAddress : spec.placeOf run.1 < 2 ^ 32) (countFits : run.2 < 65536) :
    (spec.part run).stop = spec.placeOf (run.1 + run.2) := by
  rw [stop, start_part isAddress, byteLength_part countFits, placeOf, placeOf,
    Nat.add_mul]
  omega

/-- One more run in front of pieces that follow it. -/
theorem Consecutive.run {run : Nat × Nat} {last : Nat}
    {others : List VarSpec}
    (isAddress : spec.placeOf run.1 < 2 ^ 32) (countFits : run.2 < 65536)
    (follow :
      Consecutive spec (spec.placeOf (run.1 + run.2)) others last) :
    Consecutive spec (spec.placeOf run.1) (spec.part run :: others) last := by
  rw [← stop_part isAddress countFits] at follow
  rw [← start_part isAddress]
  exact .piece rfl rfl follow

/-- Runs that begin at addresses follow one another. -/
theorem consecutive_runs (spec : VarSpec) (size skip left : Nat)
    (countFits : left < 65536)
    (areAddresses : ∀ run ∈ runs size skip left,
      spec.placeOf run.1 < 2 ^ 32) :
    Consecutive spec (spec.placeOf skip)
      ((runs size skip left).map spec.part) (spec.placeOf (skip + left)) := by
  fun_induction runs size skip left with
  | case1 skip left isLast =>
      rw [List.forall_mem_singleton] at areAddresses
      exact .run areAddresses countFits (.done _)
  | case2 skip left goesOn inductionHypothesis =>
      obtain ⟨isAddress, areAddresses⟩ := List.forall_mem_cons.1 areAddresses
      have whole : skip + size + (left - size) = skip + left := by omega
      rw [whole] at inductionHypothesis
      exact .run isAddress (by omega)
        (inductionHypothesis (by omega) areAddresses)

/-! ## Where the last run begins -/

/-- Where the last of the runs of at most `size` elements begins. -/
def lastPlace (spec : VarSpec) (maxBytes : Nat) : Nat :=
  let size := spec.elementsWithin maxBytes
  spec.placeOf ((spec.count.toNat - 1) / size * size)

theorem placeOf_mono {first second : Nat} (inOrder : first ≤ second) :
    spec.placeOf first ≤ spec.placeOf second :=
  Nat.add_le_add_left (Nat.mul_le_mul_right _ inOrder) _

/-- The last run is one of the runs, and no other lies behind it. -/
theorem last_runs {size : Nat} (positive : size ≠ 0) (skip : Nat)
    {left : Nat} (someLeft : 0 < left) :
    (∃ run ∈ runs size skip left, run.1 = skip + (left - 1) / size * size)
      ∧ ∀ run ∈ runs size skip left,
        run.1 ≤ skip + (left - 1) / size * size := by
  fun_induction runs size skip left with
  | case1 skip left isLast =>
      have single : (left - 1) / size = 0 := Nat.div_eq_of_lt (by omega)
      rw [single, Nat.zero_mul, List.forall_mem_singleton]
      exact ⟨⟨_, List.mem_singleton_self _, rfl⟩, le_rfl⟩
  | case2 skip left goesOn inductionHypothesis =>
      obtain ⟨⟨run, member, isLast⟩, behind⟩ :=
        inductionHypothesis (by omega)
      have oneMore : skip + size + (left - size - 1) / size * size
          = skip + (left - 1) / size * size := by
        rw [show left - 1 = left - size - 1 + size by omega,
          Nat.add_div_right _ (Nat.pos_of_ne_zero positive), Nat.succ_mul]
        omega
      rw [oneMore] at isLast behind
      refine ⟨⟨run, List.mem_cons_of_mem _ member, isLast⟩, ?_⟩
      exact List.forall_mem_cons.2 ⟨Nat.le_add_right _ _, behind⟩

/-- All runs of a variable begin at addresses if the last one does. -/
theorem lastPlace_lt_iff {maxBytes : Nat}
    (room : spec.elementsWithin maxBytes ≠ 0)
    (positive : 0 < spec.count.toNat) :
    spec.lastPlace maxBytes < 2 ^ 32
      ↔ ∀ run ∈ runs (spec.elementsWithin maxBytes) 0 spec.count.toNat,
        spec.placeOf run.1 < 2 ^ 32 := by
  obtain ⟨⟨last, member, isLast⟩, behind⟩ := last_runs room 0 positive
  rw [Nat.zero_add] at isLast behind
  rw [lastPlace, ← isLast]
  constructor
  · intro isAddress run isRun
    exact (placeOf_mono (isLast ▸ behind run isRun)).trans_lt isAddress
  · intro areAddresses
    exact areAddresses last member

/-! ## When a variable is cut -/

theorem lt_of_mem_runs {size skip left : Nat} (countFits : left < 65536) :
    ∀ run ∈ runs size skip left, run.1 ≤ skip + left ∧ run.2 < 65536 := by
  fun_induction runs size skip left with
  | case1 skip left isLast =>
      rw [List.forall_mem_singleton]
      exact ⟨Nat.le_add_right _ _, countFits⟩
  | case2 skip left goesOn inductionHypothesis =>
      refine List.forall_mem_cons.2 ⟨⟨Nat.le_add_right _ _, by omega⟩, ?_⟩
      intro run member
      obtain ⟨within, countFits⟩ := inductionHypothesis (by omega) run member
      exact ⟨by omega, countFits⟩

/-- Cutting a variable into runs succeeds if the last one begins at an
address. -/
theorem mapM_subRange {maxBytes : Nat}
    (room : spec.elementsWithin maxBytes ≠ 0)
    (positive : 0 < spec.count.toNat) :
    ((runs (spec.elementsWithin maxBytes) 0 spec.count.toNat).mapM fun run =>
        spec.subRange run.1 (UInt16.ofNat run.2))
      = if spec.lastPlace maxBytes < 2 ^ 32 then
          .ok ((runs (spec.elementsWithin maxBytes) 0 spec.count.toNat).map
            spec.part)
        else Guarded.crash .overflow := by
  have few := spec.count.toNat_lt
  calc
    _ = (runs (spec.elementsWithin maxBytes) 0 spec.count.toNat).mapM
          fun run =>
            if spec.placeOf run.1 < 2 ^ 32 then Except.ok (spec.part run)
            else Guarded.crash .overflow := by
        apply mapM_congr_left
        intro run member
        have within := (lt_of_mem_runs few run member).1
        rw [subRange_eq (by omega)]
    _ = _ := by
        rw [if_congr (lastPlace_lt_iff room positive) rfl rfl]
        exact mapM_ite spec.part _ _

/-- What the pieces of a variable are: a single bit, or runs of its elements. -/
theorem pieces_eq_ok {maxBytes : Nat} {pieces : List VarSpec}
    (cut : spec.pieces maxBytes = .ok pieces) :
    0 < spec.count.toNat
      ∧ ((spec.transportSize = .bit ∧ spec.count = 1 ∧ pieces = [spec])
        ∨ (spec.elementsWithin maxBytes ≠ 0
          ∧ spec.lastPlace maxBytes < 2 ^ 32
          ∧ pieces
            = (runs (spec.elementsWithin maxBytes) 0 spec.count.toNat).map
              spec.part)) := by
  unfold VarSpec.pieces at cut
  split at cut
  · cases cut
  · rename_i someElements
    have positive : 0 < spec.count.toNat := by
      rw [Nat.pos_iff_ne_zero]
      intro zero
      exact someElements (UInt16.toNat_inj.1 zero)
    refine ⟨positive, ?_⟩
    split at cut
    · rename_i isBit
      split at cut
      · rename_i single
        cases cut
        exact .inl ⟨isBit, single, rfl⟩
      · cases cut
    · dsimp only at cut
      split at cut
      · cases cut
      · rename_i room
        rw [mapM_subRange room positive] at cut
        split at cut
        · rename_i isAddress
          cases cut
          exact .inr ⟨room, isAddress, rfl⟩
        · cases cut

/-- The pieces of a variable cover its bytes in order. -/
theorem consecutive_pieces {maxBytes : Nat} {pieces : List VarSpec}
    (cut : spec.pieces maxBytes = .ok pieces) :
    Consecutive spec spec.start pieces spec.stop := by
  obtain ⟨positive, ⟨-, -, rfl⟩ | ⟨room, isAddress, rfl⟩⟩ := pieces_eq_ok cut
  · exact .piece rfl rfl (.done _)
  · have runs := consecutive_runs spec
      (spec.elementsWithin maxBytes) 0 spec.count.toNat
      spec.count.toNat_lt ((lastPlace_lt_iff room positive).1 isAddress)
    rw [placeOf, Nat.zero_mul, Nat.add_zero, Nat.zero_add] at runs
    exact runs

/-- The bytes of each piece are among those of the variable. -/
theorem within_of_mem_pieces {maxBytes : Nat} {pieces : List VarSpec}
    (cut : spec.pieces maxBytes = .ok pieces) :
    ∀ piece ∈ pieces, piece.Within spec := by
  intro piece member
  obtain ⟨area, block, start, stop⟩ :=
    (consecutive_pieces cut).bounds piece member
  exact ⟨area, block, start, stop⟩

end

/-! ## The lengths of pieces -/

section

variable {spec : VarSpec} {maxBytes : Nat} {pieces : List VarSpec}

theorem le_of_mem_runs (size skip left : Nat) :
    ∀ run ∈ runs size skip left,
      run.2 ≤ left ∧ (size ≠ 0 → run.2 ≤ size) := by
  fun_induction runs size skip left with
  | case1 skip left isLast =>
      rw [List.forall_mem_singleton]
      exact ⟨le_rfl, fun positive => isLast.resolve_left positive⟩
  | case2 skip left goesOn inductionHypothesis =>
      refine List.forall_mem_cons.2 ⟨⟨by omega, fun _ => le_rfl⟩, ?_⟩
      intro run member
      obtain ⟨withinLeft, withinSize⟩ := inductionHypothesis run member
      exact ⟨by omega, withinSize⟩

theorem pos_of_mem_runs {size : Nat} (skip : Nat) {left : Nat}
    (positive : size ≠ 0) (someLeft : 0 < left) :
    ∀ run ∈ runs size skip left, 0 < run.2 := by
  fun_induction runs size skip left with
  | case1 skip left isLast =>
      rw [List.forall_mem_singleton]
      exact someLeft
  | case2 skip left goesOn inductionHypothesis =>
      refine List.forall_mem_cons.2 ⟨Nat.pos_of_ne_zero positive, ?_⟩
      exact inductionHypothesis (by omega)

theorem sum_runs (size skip left : Nat) :
    ((runs size skip left).map Prod.snd).sum = left := by
  fun_induction runs size skip left with
  | case1 skip left isLast => rfl
  | case2 skip left goesOn inductionHypothesis =>
      rw [List.map_cons, List.sum_cons, inductionHypothesis]
      omega

/-- No piece of a variable is empty. -/
theorem byteLength_pos_of_mem_pieces (cut : spec.pieces maxBytes = .ok pieces) :
    ∀ piece ∈ pieces, 0 < piece.byteLength := by
  obtain ⟨positive, ⟨-, -, rfl⟩ | ⟨someElements, -, rfl⟩⟩ := pieces_eq_ok cut
  · rw [List.forall_mem_singleton]
    exact Nat.mul_pos positive spec.elementBytes_pos
  · rw [List.forall_mem_map]
    intro run member
    rw [byteLength_part (lt_of_mem_runs spec.count.toNat_lt run member).2]
    exact Nat.mul_pos (pos_of_mem_runs 0 someElements positive run member)
      spec.elementBytes_pos

/-- The pieces of a variable have as many bytes as the variable. -/
theorem sum_byteLength_pieces (cut : spec.pieces maxBytes = .ok pieces) :
    (pieces.map byteLength).sum = spec.byteLength := by
  obtain ⟨-, ⟨-, -, rfl⟩ | ⟨-, -, rfl⟩⟩ := pieces_eq_ok cut
  · rw [List.map_singleton, List.sum_singleton]
  · have lengths : ∀ run ∈ runs (spec.elementsWithin maxBytes) 0
          spec.count.toNat,
        (byteLength ∘ spec.part) run = run.2 * spec.elementBytes :=
      fun run member =>
        byteLength_part (lt_of_mem_runs spec.count.toNat_lt run member).2
    rw [List.map_map, List.map_congr_left lengths, List.sum_map_mul_right,
      sum_runs]
    rfl

/-- The elements that fit take up no more bytes than there are, nor more than
a data item can count. -/
theorem elementsWithin_mul_le (spec : VarSpec) (maxBytes : Nat) :
    spec.elementsWithin maxBytes * spec.elementBytes ≤ maxBytes
      ∧ (spec.transportSize.variableType.lengthInBits →
        spec.elementsWithin maxBytes * spec.elementBytes
          ≤ maxBitCountedBytes) := by
  unfold elementsWithin
  split
  · have within :=
      Nat.div_mul_le_self (min maxBytes maxBitCountedBytes) spec.elementBytes
    exact ⟨within.trans (Nat.min_le_left _ _),
      fun _ => within.trans (Nat.min_le_right _ _)⟩
  · rename_i countsBytes
    exact ⟨Nat.div_mul_le_self _ _, fun counted => absurd counted countsBytes⟩

/-- No piece is longer than asked for, nor longer than its data item can
count. -/
theorem byteLength_le_of_mem_pieces (room : 0 < maxBytes)
    (cut : spec.pieces maxBytes = .ok pieces) :
    ∀ piece ∈ pieces,
      piece.byteLength ≤ maxBytes
        ∧ (piece.transportSize.variableType.lengthInBits →
          piece.byteLength ≤ maxBitCountedBytes) := by
  obtain ⟨-, ⟨isBit, single, rfl⟩ | ⟨someElements, -, rfl⟩⟩ :=
    pieces_eq_ok cut
  · rw [List.forall_mem_singleton, byteLength, elementBytes, isBit, single]
    exact ⟨room, fun counted => absurd counted (by decide)⟩
  · rw [List.forall_mem_map]
    intro run member
    have short := (le_of_mem_runs _ _ _ run member).2 someElements
    have whole := Nat.mul_le_mul_right spec.elementBytes short
    rw [← byteLength_part (lt_of_mem_runs spec.count.toNat_lt run member).2]
      at whole
    obtain ⟨within, withinCounted⟩ := spec.elementsWithin_mul_le maxBytes
    exact ⟨whole.trans within, fun counts =>
      whole.trans (withinCounted counts)⟩

end
end VarSpec
end PlcLink
