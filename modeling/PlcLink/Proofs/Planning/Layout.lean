import Mathlib
import PlcLink.Proofs.Planning.Reading

/-!
# How plans are laid out

Planning stops at the first item that is miscounted or does not match its data,
which is refused, or whose last piece lies behind the last address, which is a
fault. Otherwise the pieces of each variable tile it, the batches list all
pieces in order, and the table of fragments has every slot of the batches once.
-/

namespace PlcLink
namespace VarSpec

variable {spec : VarSpec} {maxBytes : Nat} {pieces : List VarSpec}

/-! ## When a variable is cut -/

/-- A count under which nothing can be asked for: no element, or a bit and not
just one. -/
def Miscounted (spec : VarSpec) : Prop :=
  spec.count = 0 ∨ spec.transportSize = .bit ∧ spec.count ≠ 1

instance (spec : VarSpec) : Decidable spec.Miscounted :=
  inferInstanceAs (Decidable (_ ∨ _ ∧ _))

/-- Eight bytes are enough for an element of any size. -/
theorem elementsWithin_ne_zero (spec : VarSpec) (room : 8 ≤ maxBytes) :
    spec.elementsWithin maxBytes ≠ 0 := by
  have short := spec.elementBytes_le
  have limited : spec.elementBytes ≤ min maxBytes maxBitCountedBytes :=
    short.trans (le_min room (by decide))
  unfold elementsWithin
  apply Nat.ne_of_gt
  apply Nat.div_pos _ spec.elementBytes_pos
  split
  · exact limited
  · exact short.trans room

/-- The last piece belongs behind the last address. -/
def Overruns (maxBytes : Nat) (spec : VarSpec) : Prop :=
  2 ^ 32 ≤ spec.lastPlace maxBytes

instance (maxBytes : Nat) : DecidablePred (Overruns maxBytes) := fun spec =>
  inferInstanceAs (Decidable (2 ^ 32 ≤ spec.lastPlace maxBytes))

/-- A variable of which no byte lies behind the last address has no such
piece. -/
theorem not_overruns (fits : spec.stop ≤ 2 ^ 32) (maxBytes : Nat) :
    ¬spec.Overruns maxBytes := by
  have whole := Nat.div_mul_le_self (spec.count.toNat - 1)
    (spec.elementsWithin maxBytes)
  have lastElement : spec.lastPlace maxBytes
      ≤ spec.placeOf (spec.count.toNat - 1) :=
    placeOf_mono whole
  have begins := spec.start_lt
  rw [Overruns, Nat.not_le]
  apply lastElement.trans_lt
  rw [placeOf]
  rw [stop, byteLength] at fits
  obtain none | some := Nat.eq_zero_or_pos spec.count.toNat
  · rw [none, Nat.zero_sub, Nat.zero_mul]
    exact begins
  · have shorter := Nat.mul_lt_mul_of_pos_right (Nat.sub_one_lt_of_lt some)
      spec.elementBytes_pos
    omega

theorem pieces_of_miscounted (miscounted : spec.Miscounted) (maxBytes : Nat) :
    spec.pieces maxBytes = Guarded.refuse .invalidParameter := by
  unfold VarSpec.pieces
  obtain none | ⟨isBit, several⟩ := miscounted
  · rw [if_pos none]
  · rw [if_pos isBit, if_neg several, ite_self]

/-- A bit has one piece, and that begins where it does. -/
theorem not_overruns_of_single (single : spec.count = 1) :
    ¬spec.Overruns maxBytes := by
  have first : spec.lastPlace maxBytes = spec.start := by
    rw [lastPlace, single]
    change spec.start + (0 / _ * _) * _ = _
    rw [Nat.zero_div, Nat.zero_mul, Nat.zero_mul, Nat.add_zero]
  rw [Overruns, Nat.not_le, first]
  exact spec.start_lt

theorem pieces_of_overruns (counted : ¬spec.Miscounted)
    (room : 8 ≤ maxBytes) (overruns : spec.Overruns maxBytes) :
    spec.pieces maxBytes = Guarded.crash .overflow := by
  obtain ⟨some, single⟩ := not_or.1 counted
  have notBit : spec.transportSize ≠ .bit := fun isBit =>
    not_overruns_of_single (not_not.1 fun several => single ⟨isBit, several⟩)
      overruns
  have positive : 0 < spec.count.toNat :=
    Nat.pos_of_ne_zero fun zero => some (UInt16.toNat_inj.1 zero)
  have someElements := spec.elementsWithin_ne_zero room
  unfold VarSpec.pieces
  rw [if_neg some, if_neg notBit]
  dsimp only
  rw [if_neg someElements, mapM_subRange someElements positive,
    if_neg (Nat.not_lt.2 overruns)]

/-- A variable that is not miscounted is cut, unless its last piece has no
address. -/
theorem exists_pieces (counted : ¬spec.Miscounted) (room : 8 ≤ maxBytes)
    (notBeyond : ¬spec.Overruns maxBytes) :
    ∃ pieces, spec.pieces maxBytes = .ok pieces := by
  obtain ⟨some, single⟩ := not_or.1 counted
  have positive : 0 < spec.count.toNat :=
    Nat.pos_of_ne_zero fun zero => some (UInt16.toNat_inj.1 zero)
  have someElements := spec.elementsWithin_ne_zero room
  unfold VarSpec.pieces
  rw [if_neg some]
  by_cases isBit : spec.transportSize = .bit
  · have one : spec.count = 1 := not_not.1 fun several =>
      single ⟨isBit, several⟩
    rw [if_pos isBit, if_pos one]
    exact ⟨_, rfl⟩
  · rw [if_neg isBit]
    dsimp only
    rw [if_neg someElements, mapM_subRange someElements positive,
      if_pos (Nat.not_le.1 notBeyond)]
    exact ⟨_, rfl⟩

/-! ## How the pieces lie -/

/-- The pieces keep all of a variable but where it begins and how far it
goes. -/
structure Keeps (spec piece : VarSpec) : Prop where
  area_eq : piece.area = spec.area
  blockNumber_eq : piece.blockNumber = spec.blockNumber
  transportSize_eq : piece.transportSize = spec.transportSize
  bitIndex_eq : piece.bitIndex = spec.bitIndex

/-- Pieces that make up a variable. -/
structure Tiling (spec : VarSpec) (pieces : List VarSpec) : Prop where
  keeps : ∀ piece ∈ pieces, spec.Keeps piece
  nonempty : ∀ piece ∈ pieces, 0 < piece.byteLength
  aligned : ∀ piece ∈ pieces, ∃ skip,
    piece.start = spec.start + skip * spec.elementBytes
  contiguous : Consecutive spec spec.start pieces spec.stop
  apart : pieces.Pairwise Apart
  covers : ∀ address, spec.start ≤ address ∧ address < spec.stop ↔
    ∃ piece ∈ pieces, piece.start ≤ address ∧ address < piece.stop

theorem keeps_of_mem_pieces (cut : spec.pieces maxBytes = .ok pieces) :
    ∀ piece ∈ pieces, spec.Keeps piece := by
  obtain ⟨-, ⟨-, -, rfl⟩ | ⟨-, -, rfl⟩⟩ := pieces_eq_ok cut
  · exact List.forall_mem_singleton.2 ⟨rfl, rfl, rfl, rfl⟩
  · exact List.forall_mem_map.2 fun run _ => ⟨rfl, rfl, rfl, rfl⟩

theorem Keeps.byteLength_eq {piece : VarSpec} (keeps : spec.Keeps piece) :
    piece.byteLength = piece.count.toNat * spec.elementBytes := by
  rw [byteLength, elementBytes, keeps.transportSize_eq, elementBytes]

/-- Pieces of whole elements begin at elements. -/
theorem Consecutive.aligned {first last : Nat}
    (consecutive : Consecutive spec first pieces last)
    (keeps : ∀ piece ∈ pieces, spec.Keeps piece) :
    ∀ piece ∈ pieces, ∃ skip,
      piece.start = first + skip * spec.elementBytes := by
  induction consecutive with
  | done place => simp
  | @piece piece others stop _ _ _ inductionHypothesis =>
      obtain ⟨firstKeeps, othersKeep⟩ := List.forall_mem_cons.1 keeps
      refine List.forall_mem_cons.2 ⟨⟨0, by omega⟩, ?_⟩
      intro other member
      obtain ⟨skip, begins⟩ := inductionHypothesis othersKeep other member
      refine ⟨piece.count.toNat + skip, ?_⟩
      rw [begins, VarSpec.stop, firstKeeps.byteLength_eq, Nat.add_mul]
      omega

/-- Every address between the ends is that of a piece. -/
theorem Consecutive.covers {first last : Nat}
    (consecutive : Consecutive spec first pieces last) (address : Nat) :
    first ≤ address ∧ address < last ↔
      ∃ piece ∈ pieces, piece.start ≤ address ∧ address < piece.stop := by
  induction consecutive with
  | done place =>
      simp only [List.not_mem_nil, false_and, exists_false, iff_false]
      omega
  | @piece piece others stop _ _ follow inductionHypothesis =>
      have reaches := follow.le
      have begins : piece.start ≤ piece.stop := Nat.le_add_right _ _
      simp only [List.mem_cons, or_and_right, exists_or, exists_eq_left,
        ← inductionHypothesis]
      omega

theorem tiling_pieces (cut : spec.pieces maxBytes = .ok pieces) :
    spec.Tiling pieces := by
  have keeps := keeps_of_mem_pieces cut
  have consecutive := consecutive_pieces cut
  exact
    { keeps
      nonempty := byteLength_pos_of_mem_pieces cut
      aligned := consecutive.aligned keeps
      contiguous := consecutive
      apart := consecutive.pairwise_apart
      covers := consecutive.covers }

end VarSpec

namespace WriteItem

variable {item : WriteItem} {maxBytes : Nat} {cut : List WriteItem}

/-- A miscounted item, or one whose data do not match its variable. -/
def Unplannable (item : WriteItem) : Prop :=
  item.spec.Miscounted ∨ item.data.length ≠ item.spec.byteLength

instance (item : WriteItem) : Decidable item.Unplannable :=
  inferInstanceAs (Decidable (_ ∨ _))

/-- Pieces that make up an item. -/
structure Tiling (item : WriteItem) (cut : List WriteItem) : Prop where
  spec : item.spec.Tiling (cut.map WriteItem.spec)
  covers : ∀ piece ∈ cut, piece.data.length = piece.spec.byteLength
  data_eq : cut.flatMap WriteItem.data = item.data

theorem pieces_of_unplannable (unplannable : item.Unplannable)
    (maxBytes : Nat) :
    item.pieces maxBytes = Guarded.refuse .invalidParameter := by
  unfold WriteItem.pieces
  split
  · rfl
  · rename_i covers
    have miscounted := unplannable.resolve_right covers
    rw [VarSpec.pieces_of_miscounted miscounted]
    rfl

theorem pieces_of_overruns (plannable : ¬item.Unplannable)
    (room : 8 ≤ maxBytes) (overruns : item.spec.Overruns maxBytes) :
    item.pieces maxBytes = Guarded.crash .overflow := by
  obtain ⟨counted, covers⟩ := not_or.1 plannable
  unfold WriteItem.pieces
  rw [if_neg covers, VarSpec.pieces_of_overruns counted room overruns]
  rfl

theorem exists_pieces (plannable : ¬item.Unplannable) (room : 8 ≤ maxBytes)
    (notBeyond : ¬item.spec.Overruns maxBytes) :
    ∃ cut, item.pieces maxBytes = .ok cut := by
  obtain ⟨counted, covers⟩ := not_or.1 plannable
  obtain ⟨pieces, isCut⟩ := VarSpec.exists_pieces counted room notBeyond
  unfold WriteItem.pieces
  rw [if_neg covers, isCut]
  exact ⟨_, rfl⟩

/-- All of the data is shared out. -/
theorem flatMap_data_share {pieces : List VarSpec} {data : Bytes}
    (length : data.length = (pieces.map VarSpec.byteLength).sum) :
    (share pieces data).flatMap WriteItem.data = data := by
  induction pieces generalizing data with
  | nil => exact (List.length_eq_zero_iff.1 length).symm
  | cons piece others inductionHypothesis =>
      rw [List.map_cons, List.sum_cons] at length
      rw [share, List.flatMap_cons, inductionHypothesis, List.take_append_drop]
      rw [List.length_drop]
      omega

theorem tiling_pieces (planned : item.pieces maxBytes = .ok cut) :
    item.Tiling cut := by
  have covers := covers_of_mem_pieces planned
  obtain ⟨length, pieces, isCut, rfl⟩ := pieces_eq_ok planned
  refine ⟨?_, covers, ?_⟩
  · rw [map_spec_share]
    exact VarSpec.tiling_pieces isCut
  · apply flatMap_data_share
    rw [length, VarSpec.sum_byteLength_pieces isCut]

end WriteItem

/-! ## The table of fragments -/

/-- Batches and a table of fragments for a list of items, each of which is
`tiled` by its pieces. -/
structure LaidOut {item piece : Type} (tiled : item -> List piece -> Prop)
    (items : List item) (batches : List (List piece))
    (fragments : List (List (Fragment piece))) : Prop where
  /-- The table has the pieces of every item. -/
  pieces_tile :
    List.Forall₂ tiled items (fragments.map (List.map Prod.fst))
  /-- The batches, one after the other, list the pieces in order. -/
  flatten_batches :
    batches.flatten = (fragments.map (List.map Prod.fst)).flatten
  /-- Every piece stands in its slot. -/
  stands : ∀ fragment ∈ fragments.flatten,
    fragment.2.find? batches = some fragment.1
  /-- The table has every slot of the batches exactly once. -/
  count_eq_one : ∀ slot, (slot.find? batches).isSome ->
    (fragments.flatten.map Prod.snd).count slot = 1

theorem length_slotsBehind {piece : Type} {fits : BatchSize -> piece -> Bool}
    {add : BatchSize -> piece -> BatchSize} (free : Slot) (size : BatchSize)
    (pieces : List piece) :
    (slotsBehind fits add free size pieces).length = pieces.length := by
  induction pieces generalizing free size with
  | nil => rfl
  | cons next others inductionHypothesis =>
      rw [slotsBehind]
      split <;> rw [List.length_cons, List.length_cons, inductionHypothesis]

theorem laidOut_packBehind {item piece : Type}
    {tiled : item -> List piece -> Prop} {items : List item}
    {groups : List (List piece)} (tile : List.Forall₂ tiled items groups)
    (fits : BatchSize -> piece -> Bool)
    (add : BatchSize -> piece -> BatchSize) :
    LaidOut tiled items (packBehind fits add [] .empty groups.flatten)
      (regroup groups
        (slotsBehind fits add .first .empty groups.flatten)) := by
  have sameLength :
      (slotsBehind fits add .first .empty groups.flatten).length
        = groups.flatten.length :=
    length_slotsBehind .first .empty groups.flatten
  have inOrder : (packBehind fits add [] .empty groups.flatten).flatten
      = groups.flatten :=
    flatten_packBehind fits add [] .empty groups.flatten
  have rows := map_fst_regroup groups sameLength.ge
  have slots : slotsBehind fits add .first .empty groups.flatten
      = Slot.all 0 (packBehind fits add [] .empty groups.flatten) :=
    slotsBehind_eq_all groups.flatten
  constructor
  · rwa [rows]
  · rw [rows, inOrder]
  · have found := Slot.map_find?_all []
      (packBehind fits add [] .empty groups.flatten)
    rw [inOrder, List.length_nil, ← slots, ← List.forall₂_eq_eq_eq,
      List.forall₂_map_left_iff, List.forall₂_map_right_iff] at found
    intro fragment member
    rw [flatten_regroup] at member
    exact List.forall₂_zip found.flip member
  · intro slot isSlot
    rw [flatten_regroup, List.map_snd_zip sameLength.le, slots]
    apply List.count_eq_one_of_mem (Slot.nodup_all 0 _)
    exact Slot.mem_all.2 ⟨Nat.zero_le _, isSlot⟩

theorem LaidOut.imp {item piece : Type}
    {tiled implied : item -> List piece -> Prop} {items : List item}
    {batches : List (List piece)}
    {fragments : List (List (Fragment piece))}
    (laidOut : LaidOut tiled items batches fragments)
    (implies : ∀ item pieces, tiled item pieces -> implied item pieces) :
    LaidOut implied items batches fragments :=
  { laidOut with pieces_tile := laidOut.pieces_tile.imp implies }

/-! ## Plans -/

/-- What stops planning at an item, if anything does. -/
def stop? {item : Type} (unplannable overruns : item -> Prop)
    [DecidablePred unplannable] [DecidablePred overruns] (item : item) :
    Option Halt :=
  if unplannable item then some (.refused .invalidParameter)
  else if overruns item then some (.crashed .overflow)
  else none

/-- A way of planning that stops at the first item that stops it. Where no item
overruns the addresses, it refuses just the lists with an unplannable item, and
for one reason only. -/
structure Refuses {item plan : Type} (planOf : List item -> Guarded plan)
    (unplannable overruns : item -> Prop) [DecidablePred unplannable]
    [DecidablePred overruns] : Prop where
  halts_iff : ∀ items halt, planOf items = .error halt ↔
    items.findSome? (stop? unplannable overruns) = some halt
  fails_iff : ∀ items, (∀ item ∈ items, ¬overruns item) ->
    ((∃ halt, planOf items = .error halt) ↔
      ∃ item ∈ items, unplannable item)
  error_eq : ∀ items, (∀ item ∈ items, ¬overruns item) ->
    ∀ halt, planOf items = .error halt -> halt = .refused .invalidParameter

section

variable {item pieces plan : Type} {unplannable overruns : item -> Prop}
  [DecidablePred unplannable] [DecidablePred overruns]

theorem stop?_eq_of_not_overruns {item : item} (within : ¬overruns item) :
    stop? unplannable overruns item
      = if unplannable item then some (.refused .invalidParameter)
        else none := by
  rw [stop?, if_neg within]

/-- Planning that stops at the first item that stops it refuses as it should. -/
theorem refuses_of_halts_iff {planOf : List item -> Guarded plan}
    (halts_iff : ∀ items halt, planOf items = .error halt ↔
      items.findSome? (stop? unplannable overruns) = some halt) :
    Refuses planOf unplannable overruns := by
  have stopped : ∀ items, (∀ item ∈ items, ¬overruns item) ->
      ∀ halt, planOf items = .error halt ->
        ∃ item ∈ items, unplannable item
          ∧ halt = .refused .invalidParameter := by
    intro items within halt halted
    obtain ⟨item, member, isStop⟩ :=
      List.exists_of_findSome?_eq_some ((halts_iff items halt).1 halted)
    rw [stop?_eq_of_not_overruns (within item member)] at isStop
    split at isStop
    · rename_i isUnplannable
      exact ⟨item, member, isUnplannable, (Option.some.inj isStop).symm⟩
    · cases isStop
  refine ⟨halts_iff, ?_, ?_⟩
  · intro items within
    constructor
    · rintro ⟨halt, halted⟩
      obtain ⟨item, member, isUnplannable, -⟩ :=
        stopped items within halt halted
      exact ⟨item, member, isUnplannable⟩
    · rintro ⟨item, member, isUnplannable⟩
      have stops : (items.findSome?
          (stop? unplannable overruns)).isSome := by
        rw [List.isSome_findSome?, List.any_eq_true]
        refine ⟨item, member, ?_⟩
        rw [stop?, if_pos isUnplannable]
        rfl
      obtain ⟨halt, found⟩ := Option.isSome_iff_exists.1 stops
      exact ⟨halt, (halts_iff items halt).2 found⟩
  · intro items within halt halted
    obtain ⟨item, -, -, isHalt⟩ := stopped items within halt halted
    exact isHalt

/-- Planning that begins with cutting every item stops where cutting does. -/
theorem refuses_of_cut {cut : item -> Guarded pieces}
    (refused : ∀ item, unplannable item ->
      cut item = Guarded.refuse .invalidParameter)
    (crashed : ∀ item, ¬unplannable item -> overruns item ->
      cut item = Guarded.crash .overflow)
    (accepted : ∀ item, ¬unplannable item -> ¬overruns item ->
      ∃ pieces, cut item = .ok pieces)
    (finish : List pieces -> plan) :
    Refuses (fun items =>
      (items.mapM cut).bind fun pieces => .ok (finish pieces))
      unplannable overruns := by
  have stops : ∀ item halt, cut item = .error halt ↔
      stop? unplannable overruns item = some halt := by
    intro item halt
    by_cases isUnplannable : unplannable item
    · rw [refused item isUnplannable, stop?, if_pos isUnplannable,
        Guarded.refuse, Except.error.injEq, Option.some.injEq]
    · rw [stop?, if_neg isUnplannable]
      by_cases isBeyond : overruns item
      · rw [crashed item isUnplannable isBeyond, if_pos isBeyond,
          Guarded.crash, Except.error.injEq, Option.some.injEq]
      · obtain ⟨pieces, isCut⟩ := accepted item isUnplannable isBeyond
        rw [isCut, if_neg isBeyond]
        exact iff_of_false (fun failed => by cases failed)
          (fun found => by cases found)
  apply refuses_of_halts_iff
  intro items halt
  rw [← mapM_eq_error_iff_findSome? stops]
  constructor
  · exact eq_error_of_bind_ok
  · intro failed
    rw [failed]
    rfl

end

namespace ReadPlan

variable {limits : BatchLimits} {specs : List VarSpec} {plan : ReadPlan}

/-- A plan to read in which every variable is tiled by its pieces. -/
def LaysOut (plan : ReadPlan) (specs : List VarSpec) : Prop :=
  LaidOut VarSpec.Tiling specs plan.batches plan.fragments

theorem refuses (room : 240 ≤ limits.pduSize.toNat) :
    Refuses (ofSpecs limits) VarSpec.Miscounted
      (VarSpec.Overruns limits.readChunk) := by
  have chunk : 8 ≤ limits.readChunk := by
    unfold BatchLimits.readChunk
    omega
  exact refuses_of_cut
    (fun _ miscounted => VarSpec.pieces_of_miscounted miscounted _)
    (fun _ counted => VarSpec.pieces_of_overruns counted chunk)
    (fun _ counted => VarSpec.exists_pieces counted chunk) _

/-- A plan has the pieces of its variables. -/
theorem laidOut (planned : ofSpecs limits specs = .ok plan) :
    LaidOut (fun spec pieces => spec.pieces limits.readChunk = .ok pieces)
      specs plan.batches plan.fragments := by
  have cut := cut_of_ofSpecs planned
  obtain ⟨pieces, -, isPlan⟩ := exists_of_bind_eq_ok planned
  cases Except.ok.inj isPlan
  exact laidOut_packBehind cut _ _

theorem laysOut (planned : ofSpecs limits specs = .ok plan) :
    plan.LaysOut specs :=
  (laidOut planned).imp fun _ _ cut => VarSpec.tiling_pieces cut

end ReadPlan

namespace WritePlan

variable {limits : BatchLimits} {items : List WriteItem} {plan : WritePlan}

/-- A plan to write in which every item is tiled by its pieces. -/
def LaysOut (plan : WritePlan) (items : List WriteItem) : Prop :=
  LaidOut WriteItem.Tiling items plan.batches plan.fragments

theorem refuses (room : 240 ≤ limits.pduSize.toNat) :
    Refuses (ofItems limits) WriteItem.Unplannable
      (fun item => item.spec.Overruns limits.writeChunk) := by
  have chunk : 8 ≤ limits.writeChunk := by
    unfold BatchLimits.writeChunk
    omega
  exact refuses_of_cut
    (fun _ unplannable => WriteItem.pieces_of_unplannable unplannable _)
    (fun _ plannable => WriteItem.pieces_of_overruns plannable chunk)
    (fun _ plannable => WriteItem.exists_pieces plannable chunk) _

/-- A plan has the pieces of its items. -/
theorem laidOut (planned : ofItems limits items = .ok plan) :
    LaidOut (fun item pieces => item.pieces limits.writeChunk = .ok pieces)
      items plan.batches plan.fragments := by
  have cut := cut_of_ofItems planned
  obtain ⟨pieces, -, isPlan⟩ := exists_of_bind_eq_ok planned
  cases Except.ok.inj isPlan
  exact laidOut_packBehind cut _ _

theorem laysOut (planned : ofItems limits items = .ok plan) :
    plan.LaysOut items :=
  (laidOut planned).imp fun _ _ cut => WriteItem.tiling_pieces cut

end WritePlan

/-- Within PDUs of at least 240 bytes, planning stops at the first item that is
miscounted or does not match its data, or whose last piece has no address. No
variable of which all bytes have addresses has such a piece, and lists of these
are refused just for a miscounted variable, or for data that do not match one,
and always as an invalid parameter. Every plan is laid out as it should be. -/
theorem BatchLimits.refuses_and_laysOut {limits : BatchLimits}
    (room : 240 ≤ limits.pduSize.toNat) :
    Refuses (ReadPlan.ofSpecs limits) VarSpec.Miscounted
      (VarSpec.Overruns limits.readChunk)
    ∧ Refuses (WritePlan.ofItems limits) WriteItem.Unplannable
      (fun item => item.spec.Overruns limits.writeChunk)
    ∧ (∀ (spec : VarSpec) maxBytes,
      spec.byteAddress.toNat + spec.byteLength ≤ 2 ^ 32 ->
        ¬spec.Overruns maxBytes)
    ∧ (∀ specs plan, ReadPlan.ofSpecs limits specs = .ok plan ->
      plan.LaysOut specs)
    ∧ ∀ items plan, WritePlan.ofItems limits items = .ok plan ->
      plan.LaysOut items :=
  ⟨ReadPlan.refuses room, WritePlan.refuses room,
    fun _ maxBytes fits => VarSpec.not_overruns fits maxBytes,
    fun _ _ planned => ReadPlan.laysOut planned,
    fun _ _ planned => WritePlan.laysOut planned⟩

/-- A word without elements, and two bits under one address. -/
def miscountedSpecs : List VarSpec :=
  [.elements .dataBlock 1 0 .word 0, .elements .marker 0 0 .bit 2]

/-- An item whose data are one byte short. -/
def shortItem : WriteItem :=
  { spec := .elements .dataBlock 250 310 .word 2, data := [1, 2, 3] }

theorem BatchLimits.refuses_and_laysOut_nested :
    (∀ spec ∈ miscountedSpecs,
      ReadPlan.ofSpecs (.ofPduSize 240 20) (ReadPlan.nestedSpecs ++ [spec])
        = Guarded.refuse .invalidParameter)
    ∧ WritePlan.ofItems (.ofPduSize 240 20)
        (WritePlan.adjacentItems ++ [shortItem])
      = Guarded.refuse .invalidParameter
    ∧ (∃ plan,
      ReadPlan.ofSpecs (.ofPduSize 240 20) ReadPlan.nestedSpecs = .ok plan
        ∧ plan.batches.map List.length = [1, 2]
        ∧ plan.LaysOut ReadPlan.nestedSpecs)
    ∧ ∃ plan,
      WritePlan.ofItems (.ofPduSize 240 20) WritePlan.adjacentItems = .ok plan
        ∧ plan.batches.map List.length = [1, 2]
        ∧ plan.LaysOut WritePlan.adjacentItems := by
  have room : 240 ≤ (ofPduSize 240 20).pduSize.toNat := by decide
  obtain ⟨reads, writes, -, readPlans, writePlans⟩ := refuses_and_laysOut room
  have reading : (ReadPlan.ofSpecs (.ofPduSize 240 20)
      ReadPlan.nestedSpecs).map (fun plan => plan.batches.map List.length)
      = .ok [1, 2] := by
    decide +kernel
  have writing : (WritePlan.ofItems (.ofPduSize 240 20)
      WritePlan.adjacentItems).map (fun plan => plan.batches.map List.length)
      = .ok [1, 2] := by
    decide +kernel
  obtain ⟨readPlan, readPlanned, readLengths⟩ := exists_of_map_eq_ok reading
  obtain ⟨writePlan, writePlanned, writeLengths⟩ := exists_of_map_eq_ok writing
  refine ⟨?_, ?_, ?_, ?_⟩
  · intro spec member
    apply (reads.halts_iff _ _).2
    revert spec
    decide +kernel
  · apply (writes.halts_iff _ _).2
    decide +kernel
  · exact ⟨readPlan, readPlanned, readLengths, readPlans _ _ readPlanned⟩
  · exact ⟨writePlan, writePlanned, writeLengths,
      writePlans _ _ writePlanned⟩

/-- Bytes that go on behind the last address. -/
def VarSpec.beyondLast : VarSpec :=
  .elements .dataBlock 1 4294967084 .byte 424

/-- A variable that is not miscounted comes to a fault, and so does a list in
which a miscounted one follows it. -/
theorem ReadPlan.crashes_beyondLast :
    ¬VarSpec.beyondLast.Miscounted
      ∧ ofSpecs (.ofPduSize 240 20) [.beyondLast] = Guarded.crash .overflow
      ∧ ∀ spec ∈ miscountedSpecs,
        ofSpecs (.ofPduSize 240 20) [.beyondLast, spec]
          = Guarded.crash .overflow := by
  refine ⟨by decide, ?_, ?_⟩
  · apply eq_error_of_map_eq_error (f := fun plan => plan.batches)
    decide +kernel
  · intro spec member
    apply eq_error_of_map_eq_error (f := fun plan => plan.batches)
    revert spec
    decide +kernel

end PlcLink
