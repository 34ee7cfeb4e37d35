import Mathlib
import PlcLink.Proofs.Failure
import PlcLink.UserData.Alarm

/-!
# The grammar of alarm lists

Which bytes spell an item, a transition, an alarm and a list of alarms is said
here without a parser. Each parser is then right about its part and misses
nothing: it hands out what the front of its input spells and what is behind that
front. So a list is read if and only if objects make it up to its last byte, and
no alarm depends on the bytes of another one.
-/

namespace PlcLink

/-- Bytes that are long enough have a front of the length. -/
theorem exists_front {length : Nat} {bytes : Bytes}
    (isLong : length ≤ bytes.length) :
    ∃ front behind, front ++ behind = bytes ∧ front.length = length :=
  ⟨_, _, List.take_append_drop length bytes, List.length_take_of_le isLong⟩

namespace DataItem

/-- A counted length stands for so many bytes. If it counts bits, it needs these
bytes and no fewer. -/
def Counts (variableType : VariableType) (counted : UInt16)
    (length : Nat) : Prop :=
  if variableType.lengthInBits then
    counted.toNat ≤ 8 * length ∧ 8 * length < counted.toNat + 8
  else
    counted.toNat = length

/-- Bytes spell an item: its return code, a known type, the length and so many
bytes. A byte of any value fills an odd length up unless the item is the last
one. -/
inductive Spells (isLast : Bool) : Bytes -> DataItem -> Prop
  | intro {code typeByte high low : UInt8} {variableType : VariableType}
      {data filling : Bytes}
      (known : VariableType.ofByte? typeByte = some variableType)
      (counts : Counts variableType (Word.ofBytes16 high low) data.length)
      (fills : filling.length = if isLast then 0 else data.length % 2) :
      Spells isLast (code :: typeByte :: high :: low :: (data ++ filling))
        { returnCode := .ofByte code, variableType, data }

/-- Bytes spell items one behind the other, the last one without a fill
byte. -/
inductive SpellsMany : Bytes -> List DataItem -> Prop
  | nil : SpellsMany [] []
  | cons {own others : Bytes} {item : DataItem} {items : List DataItem}
      (first : Spells items.isEmpty own item)
      (behind : SpellsMany others items) :
      SpellsMany (own ++ others) (item :: items)

theorem counts_iff {variableType : VariableType} {counted : UInt16}
    {length : Nat} :
    Counts variableType counted length
      ↔ byteLength variableType counted = length := by
  unfold Counts byteLength
  split
  · omega
  · exact Iff.rfl

theorem fill_eq (item : DataItem) (isLast : Bool) :
    item.fill isLast = if isLast then 0 else item.data.length % 2 := by
  unfold fill
  cases isLast with
  | true => rfl
  | false =>
      rcases Nat.mod_two_eq_zero_or_one item.data.length with even | odd
      · simp [even]
      · simp [odd]

theorem fill_le_one (item : DataItem) (isLast : Bool) :
    item.fill isLast ≤ 1 := by
  unfold fill
  split <;> omega

variable {isLast : Bool} {own input rest : Bytes} {item : DataItem}
  {items : List DataItem}

/-- An item is read off the bytes that spell it, whatever is behind them. -/
theorem parse_append (spelled : Spells isLast own item) (rest : Bytes) :
    parse isLast (own ++ rest) = .ok (item, rest) := by
  obtain ⟨known, counts, fills⟩ := spelled
  rename_i code typeByte high low variableType data filling
  simp only [List.cons_append, List.append_assoc, parse, known,
    counts_iff.1 counts, List.take_left, List.drop_left]
  rw [← fill_eq { returnCode := .ofByte code, variableType, data }] at fills
  have atMostOne := fills.trans_le (fill_le_one _ _)
  rw [if_neg (by simp), ← fills]
  match filling, atMostOne with
  | [], _ | [_], _ => rfl

/-- Where an item is read, the front of the input spells it. -/
theorem exists_spells_of_parse
    (read : parse isLast input = .ok (item, rest)) :
    ∃ own, own ++ rest = input ∧ Spells isLast own item := by
  unfold parse at read
  split at read
  · rename_i code typeByte high low behind
    split at read
    · cases read
    · rename_i variableType known
      dsimp only at read
      split at read
      · cases read
      · rename_i whole
        obtain ⟨data, after, rfl, length⟩ := exists_front (Nat.not_lt.1 whole)
        have counts := counts_iff.2 length.symm
        rw [← length, List.take_left, List.drop_left] at read
        -- What is taken behind the data is as long as the filling.
        split at read
        · rename_i noFill
          cases read
          refine ⟨code :: typeByte :: high :: low :: (data ++ []), ?_,
            .intro known counts ?_⟩
          · simp
          · rw [← fill_eq ⟨.ofByte code, variableType, data⟩, noFill]
            rfl
        · rename_i fills
          split at read
          · cases read
          · rename_i filling behind
            cases read
            refine ⟨code :: typeByte :: high :: low :: (data ++ [filling]), ?_,
              .intro known counts ?_⟩
            · simp
            · rw [← fill_eq ⟨.ofByte code, variableType, data⟩]
              exact (Nat.le_antisymm (fill_le_one _ _)
                (Nat.pos_of_ne_zero fills)).symm
  · cases read

theorem length_beq_zero (items : List DataItem) :
    (items.length == 0) = items.isEmpty := by
  cases items <;> rfl

theorem parseMany_append (spelled : SpellsMany own items) (rest : Bytes) :
    parseMany items.length (own ++ rest) = .ok (items, rest) := by
  induction spelled with
  | nil => rfl
  | @cons own others item items first _ inductionHypothesis =>
      rw [List.length_cons, parseMany, length_beq_zero, List.append_assoc,
        parse_append first]
      change (parseMany items.length (others ++ rest)).bind _ = _
      rw [inductionHypothesis]
      rfl

theorem exists_spells_of_parseMany {count : Nat}
    (read : parseMany count input = .ok (items, rest)) :
    ∃ own, own ++ rest = input ∧ count = items.length
      ∧ SpellsMany own items := by
  induction count generalizing input items with
  | zero =>
      cases read
      exact ⟨[], rfl, rfl, .nil⟩
  | succ count inductionHypothesis =>
      obtain ⟨⟨item, behind⟩, first, read⟩ := exists_of_bind_eq_ok read
      obtain ⟨⟨items, behind⟩, read, same⟩ := exists_of_bind_eq_ok read
      cases same
      obtain ⟨others, rfl, rfl, spelled⟩ := inductionHypothesis read
      rw [length_beq_zero] at first
      obtain ⟨own, rfl, spelledFirst⟩ := exists_spells_of_parse first
      exact ⟨own ++ others, List.append_assoc .., rfl,
        .cons spelledFirst spelled⟩

end DataItem

namespace Transition

/-- Bytes spell a transition: eight of a timestamp, the number of values and the
values. A timestamp that is no moment of the calendar is one too. -/
inductive Spells : Bytes -> Transition -> Prop
  | intro {stamp own : Bytes} {count : UInt8} {values : List DataItem}
      (stampLength : stamp.length = 8)
      (counts : count.toNat = values.length)
      (spelled : DataItem.SpellsMany own values) :
      Spells (stamp ++ count :: own)
        { moment? := DecimalTime.decode? stamp, values }

variable {own input rest : Bytes} {transition : Transition}

/-- A timestamp is in its first eight bytes. -/
theorem decode?_append {stamp : Bytes} (length : stamp.length = 8)
    (rest : Bytes) :
    DecimalTime.decode? (stamp ++ rest) = DecimalTime.decode? stamp := by
  match stamp, length with
  | [_, _, _, _, _, _, _, _], _ => rfl

theorem parse_append (spelled : Spells own transition) (rest : Bytes) :
    parse (own ++ rest) = .ok (transition, rest) := by
  obtain ⟨stampLength, counts, spelled⟩ := spelled
  rename_i stamp own count values
  rw [List.append_assoc, parse, ← stampLength, List.drop_left,
    decode?_append stampLength]
  change (DataItem.parseMany count.toNat (own ++ rest)).bind _ = _
  rw [counts, DataItem.parseMany_append spelled]
  rfl

theorem Spells.ne_nil (spelled : Spells own transition) : own ≠ [] := by
  cases spelled
  simp

theorem exists_spells_of_parse
    (read : parse input = .ok (transition, rest)) :
    ∃ own, own ++ rest = input ∧ Spells own transition := by
  unfold parse at read
  split at read
  · cases read
  · rename_i count behind isBehind
    obtain ⟨⟨values, behind⟩, read, same⟩ := exists_of_bind_eq_ok read
    cases same
    obtain ⟨own, rfl, counts, spelled⟩ :=
      DataItem.exists_spells_of_parseMany read
    have isLong : 8 ≤ input.length := by
      by_contra short
      rw [List.drop_eq_nil_of_le (Nat.le_of_not_le short)] at isBehind
      cases isBehind
    obtain ⟨stamp, behind, rfl, stampLength⟩ := exists_front isLong
    rw [← stampLength, List.drop_left] at isBehind
    subst isBehind
    refine ⟨stamp ++ count :: own, ?_, ?_⟩
    · simp
    · rw [decode?_append stampLength]
      exact .intro stampLength counts spelled

end Transition

namespace Alarm

/-- Bytes spell the transition that ended an alarm, or there are none. -/
inductive SpellsGoing : Bytes -> Option Transition -> Prop
  | pending : SpellsGoing [] none
  | gone {own : Bytes} {going : Transition}
      (spelled : Transition.Spells own going) :
      SpellsGoing own (some going)

/-- Bytes spell an alarm: eleven of a head, three of which say nothing, and one
or two transitions to the last byte. -/
inductive Spells : Bytes -> Alarm -> Prop
  | intro {unused₁ unused₂ type first second third fourth unused₃ state
        ackGoing ackComing : UInt8} {own others : Bytes}
      {coming : Transition} {going? : Option Transition}
      (comes : Transition.Spells own coming)
      (goes : SpellsGoing others going?) :
      Spells
        (unused₁ :: unused₂ :: type :: first :: second :: third :: fourth ::
          unused₃ :: state :: ackGoing :: ackComing :: (own ++ others))
        { type
          eventId := Word.ofBytes32 first second third fourth
          state
          ackGoing
          ackComing
          coming
          going? }

/-- An object behind the byte with its length. -/
def framed (object : Bytes) : Bytes :=
  UInt8.ofNat object.length :: object

/-- Bytes are these objects one behind the other, each behind the byte with its
length. -/
structure Comprises (bytes : Bytes) (objects : List Bytes) : Prop where
  fit : ∀ object ∈ objects, object.length < 256
  joined : objects.flatMap framed = bytes

variable {input own rest object : Bytes} {alarm : Alarm}
  {going? : Option Transition} {alarms : List Alarm} {objects : List Bytes}

/-- The length bytes leave one way only to tell objects apart. -/
theorem Comprises.unique {others : List Bytes}
    (comprised : Comprises input objects) (also : Comprises input others) :
    objects = others := by
  obtain ⟨fit, rfl⟩ := comprised
  obtain ⟨othersFit, same⟩ := also
  induction objects generalizing others with
  | nil =>
      cases others with
      | nil => rfl
      | cons other others => cases same
  | cons object objects inductionHypothesis =>
      cases others with
      | nil => cases same
      | cons other others =>
          obtain ⟨firstFits, fit⟩ := List.forall_mem_cons.1 fit
          obtain ⟨otherFits, othersFit⟩ := List.forall_mem_cons.1 othersFit
          -- The bytes in front are lengths, so the first objects are as long.
          obtain ⟨lengthByte, same⟩ := List.cons.inj same
          have length : other.length = object.length := by
            rw [← UInt8.toNat_ofNat_of_lt' firstFits, ← lengthByte,
              UInt8.toNat_ofNat_of_lt' otherFits]
          obtain ⟨sameObject, same⟩ := List.append_inj same length
          rw [sameObject, inductionHypothesis fit othersFit same]

theorem parseGoing_eq_ok_iff :
    parseGoing input = .ok going? ↔ SpellsGoing input going? := by
  constructor
  · intro read
    unfold parseGoing at read
    split at read
    · rename_i ends
      cases read
      exact ends ▸ .pending
    · obtain ⟨⟨going, rest⟩, goes, read⟩ := exists_of_bind_eq_ok read
      dsimp only at read
      split at read
      · rename_i ends
        cases read
        obtain ⟨own, rfl, spelled⟩ := Transition.exists_spells_of_parse goes
        rw [ends, List.append_nil]
        exact .gone spelled
      · cases read
  · rintro (_ | spelled)
    · rfl
    · have read := Transition.parse_append spelled []
      rw [List.append_nil] at read
      rw [parseGoing, if_neg spelled.ne_nil, read]
      rfl

theorem parseObject_eq_ok_iff :
    parseObject object = .ok alarm ↔ Spells object alarm := by
  constructor
  · intro read
    unfold parseObject at read
    split at read
    · obtain ⟨⟨coming, behind⟩, comes, read⟩ := exists_of_bind_eq_ok read
      obtain ⟨going?, goes, same⟩ := exists_of_bind_eq_ok read
      cases same
      obtain ⟨own, rfl, spelled⟩ := Transition.exists_spells_of_parse comes
      exact .intro spelled (parseGoing_eq_ok_iff.1 goes)
    · cases read
  · rintro ⟨comes, goes⟩
    rw [parseObject, Transition.parse_append comes]
    change (parseGoing _).bind _ = _
    rw [parseGoing_eq_ok_iff.2 goes]
    rfl

/-- One object adds its alarm in front of those behind it. -/
theorem parseAll_framed (fits : object.length < 256)
    (spelled : Spells object alarm) (rest : Bytes) :
    parseAll (framed object ++ rest)
      = (parseAll rest).map (alarm :: ·) := by
  have length : (UInt8.ofNat object.length).toNat = object.length :=
    UInt8.toNat_ofNat_of_lt' fits
  rw [framed, List.cons_append, parseAll, length, if_neg (by simp),
    List.take_left, List.drop_left, parseObject_eq_ok_iff.2 spelled]
  cases parseAll rest <;> rfl

/-- Objects add their alarms in front of those behind them. -/
theorem parseAll_append (comprised : Comprises input objects)
    (spelled : List.Forall₂ Spells objects alarms) (rest : Bytes) :
    parseAll (input ++ rest) = (parseAll rest).map (alarms ++ ·) := by
  obtain ⟨fit, rfl⟩ := comprised
  induction spelled with
  | nil => cases read : parseAll rest <;> simp [read, Except.map]
  | cons first _ inductionHypothesis =>
      obtain ⟨firstFits, fit⟩ := List.forall_mem_cons.1 fit
      rw [List.flatMap_cons, List.append_assoc,
        parseAll_framed firstFits first, inductionHypothesis fit]
      cases parseAll rest <;> rfl

/-- A list that is read comprises one object for each alarm. The induction is on
what is behind the first object. -/
theorem exists_comprises_of_parseAll (read : parseAll input = .ok alarms) :
    ∃ objects, Comprises input objects
      ∧ List.Forall₂ Spells objects alarms := by
  induction input using parseAll.induct generalizing alarms with
  | case1 =>
      rw [parseAll] at read
      cases read
      exact ⟨[], ⟨by simp, rfl⟩, .nil⟩
  | case2 length behind short =>
      rw [parseAll, if_pos short] at read
      cases read
  | case3 length behind whole inductionHypothesis =>
      rw [parseAll, if_neg whole] at read
      obtain ⟨alarm, first, read⟩ := exists_of_bind_eq_ok read
      obtain ⟨others, readOthers, same⟩ := exists_of_bind_eq_ok read
      cases same
      obtain ⟨objects, ⟨fit, joined⟩, spelled⟩ :=
        inductionHypothesis readOthers
      have isLong : (behind.take length.toNat).length = length.toNat :=
        List.length_take_of_le (Nat.not_lt.1 whole)
      refine ⟨behind.take length.toNat :: objects, ⟨?_, ?_⟩,
        .cons (parseObject_eq_ok_iff.1 first) spelled⟩
      · exact List.forall_mem_cons.2
          ⟨isLong.trans_lt length.toNat_lt, fit⟩
      · rw [List.flatMap_cons, joined, framed, isLong, UInt8.ofNat_toNat,
          List.cons_append, List.take_append_drop]

theorem parseAll_eq_ok_iff :
    parseAll input = .ok alarms ↔
      ∃ objects, Comprises input objects
        ∧ List.Forall₂ Spells objects alarms := by
  constructor
  · exact exists_comprises_of_parseAll
  · rintro ⟨objects, comprised, spelled⟩
    have read := parseAll_append comprised spelled []
    rw [List.append_nil, parseAll] at read
    rw [read, Except.map, List.append_nil]

/-- A list of alarms is read if and only if its bytes are objects that spell
alarms, each behind the byte with its length. There is only one way to divide
the bytes so, and the alarms are those of the objects in their order. So what is
behind a list that is read adds the alarms it has on its own, or fails as it
does on its own. -/
theorem parseAll_object_by_object :
    (∀ input alarms, parseAll input = .ok alarms ↔
      ∃! objects, Comprises input objects
        ∧ List.Forall₂ Spells objects alarms)
    ∧ (∀ input, (∃ alarms, parseAll input = .ok alarms) ↔
      ∃ objects, Comprises input objects
        ∧ ∀ object ∈ objects, ∃ alarm, Spells object alarm)
    ∧ ∀ front alarms, parseAll front = .ok alarms -> ∀ back,
      parseAll (front ++ back) = (parseAll back).map (alarms ++ ·)
      ∧ ((∃ error, parseAll (front ++ back) = .error error) ↔
        ∃ error, parseAll back = .error error) := by
  refine ⟨fun input alarms => ?_, fun input => ?_,
    fun front alarms read back => ?_⟩
  · rw [parseAll_eq_ok_iff]
    constructor
    · rintro ⟨objects, comprised, spelled⟩
      exact ⟨objects, ⟨comprised, spelled⟩,
        fun others ⟨also, _⟩ => also.unique comprised⟩
    · exact ExistsUnique.exists
  · constructor
    · rintro ⟨alarms, read⟩
      obtain ⟨objects, comprised, spelled⟩ := parseAll_eq_ok_iff.1 read
      exact ⟨objects, comprised, exists_forall₂_iff.1 ⟨alarms, spelled⟩⟩
    · rintro ⟨objects, comprised, each⟩
      obtain ⟨alarms, spelled⟩ := exists_forall₂_iff.2 each
      exact ⟨alarms, parseAll_eq_ok_iff.2 ⟨objects, comprised, spelled⟩⟩
  · obtain ⟨objects, comprised, spelled⟩ := parseAll_eq_ok_iff.1 read
    have added := parseAll_append comprised spelled back
    refine ⟨added, ?_⟩
    rw [added]
    cases parseAll back <;> simp [Except.map]

/-- An object with both transitions. The first one has two values of one byte
each, and only the first value is filled up. -/
def objectOfBoth : Bytes :=
  [0, 0, 0x34, 0, 1, 0, 2, 0, 1, 0, 1,
    0x24, 0x03, 0x15, 0x10, 0x20, 0x30, 0x00, 0x06, 2,
    0xFF, 0x09, 0, 1, 0xAB, 0x77,
    0xFF, 0x09, 0, 1, 0xCD,
    0x24, 0x03, 0x15, 0x11, 0x00, 0x00, 0x00, 0x06, 0]

/-- Behind itself the object gives the same alarm once more. A length byte that
nothing follows fails there as it does on its own. -/
theorem parseAll_object_by_object_twice :
    ∃ alarm, parseAll (framed objectOfBoth) = .ok [alarm]
      ∧ alarm.coming.values.map DataItem.data = [[0xAB], [0xCD]]
      ∧ alarm.going?.map Transition.values = some []
      ∧ parseAll (framed objectOfBoth ++ framed objectOfBoth)
        = .ok [alarm, alarm]
      ∧ ∃ error, parseAll (framed objectOfBoth ++ [1]) = .error error := by
  obtain ⟨-, -, adds⟩ := parseAll_object_by_object
  obtain ⟨alarm, isRead, values, going⟩ : ∃ alarm,
      parseObject objectOfBoth = .ok alarm
        ∧ alarm.coming.values.map DataItem.data = [[0xAB], [0xCD]]
        ∧ alarm.going?.map Transition.values = some [] :=
    ⟨_, rfl, rfl, rfl⟩
  have once : parseAll (framed objectOfBoth) = .ok [alarm] :=
    parseAll_eq_ok_iff.2 ⟨[objectOfBoth], ⟨by decide, rfl⟩,
      .cons (parseObject_eq_ok_iff.1 isRead) .nil⟩
  refine ⟨alarm, once, values, going, ?_, ?_⟩
  · rw [(adds _ _ once _).1, once]
    rfl
  · rw [(adds _ _ once _).2]
    exact ⟨_, by rw [parseAll]; rfl⟩

end Alarm
end PlcLink
