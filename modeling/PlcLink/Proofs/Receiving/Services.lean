import Mathlib
import PlcLink.UserData.Alarm
import PlcLink.UserData.BlockInfo
import PlcLink.UserData.Clock
import PlcLink.Proofs.Receiving.Pdus

/-!
# Guarded reading of service data

Timestamps, descriptions of blocks, lists of alarms and clock readings, read
with a guard at every step. Half bytes above nine make numbers no date has, but
none that its type cannot hold.
-/

namespace PlcLink
namespace Guarded

/-! ## Timestamps -/

/-- The number of two half bytes. -/
def readDigits (byte : UInt8) : Guarded Nat := do
  let tens <- mul (2 ^ 8) (byte.toNat / 16) 10
  add (2 ^ 8) tens (byte.toNat % 16)

/-- The full year of a two-digit one. -/
def readYear (short : Nat) : Guarded Nat :=
  if short < 90 then add (2 ^ 31) 2000 short else add (2 ^ 31) 1900 short

/-- Read a timestamp of decimal digits; further bytes are ignored. -/
def readDecimalTime (bytes : Bytes) : Guarded (Option DateTime) :=
  if bytes.length < 8 then
    return none
  else do
    let year <- readYear (<- readDigits (<- index bytes 0))
    let month <- readDigits (<- index bytes 1)
    let day <- readDigits (<- index bytes 2)
    let hour <- readDigits (<- index bytes 3)
    let minute <- readDigits (<- index bytes 4)
    let second <- readDigits (<- index bytes 5)
    let tens <- mul (2 ^ 32) (<- readDigits (<- index bytes 6)) 10
    let millisecond <- add (2 ^ 32) tens ((<- index bytes 7).toNat / 16)
    return DateTime.ofParts? year month day hour minute second millisecond

/-- Read the timestamp of a block; further bytes are ignored. A span of days
counts seconds, up to a thousandth of the largest number. -/
def readBlockStamp (bytes : Bytes) : Guarded (Option DateTime) :=
  if bytes.length < 6 then
    return none
  else do
    let milliseconds :=
      Word.ofBytes32 (<- index bytes 0) (<- index bytes 1) (<- index bytes 2)
        (<- index bytes 3)
    let days <- word bytes 4
    let _ <- mul (2 ^ 63 / 1000) days.toNat 86400
    return BlockStamp.moment? days.toNat milliseconds.toNat

theorem readDigits_eq (byte : UInt8) :
    readDigits byte = .ok (DecimalTime.ofDigits byte) := by
  have bound := byte.toNat_lt
  rw [readDigits, mul_eq (by omega), ok_bind, add_eq (by omega)]
  rfl

theorem ofDigits_le (byte : UInt8) : DecimalTime.ofDigits byte ≤ 165 := by
  have bound := byte.toNat_lt
  unfold DecimalTime.ofDigits
  omega

theorem readYear_eq {short : Nat} (fits : short ≤ 165) :
    ∃ year : Nat,
      readYear short = .ok year ∧ DecimalTime.fullYear short = year := by
  unfold readYear DecimalTime.fullYear
  split
  · exact ⟨_, add_eq (by omega), by push_cast; rfl⟩
  · exact ⟨_, add_eq (by omega), by push_cast; rfl⟩

theorem readDecimalTime_eq (bytes : Bytes) :
    readDecimalTime bytes = .ok (DecimalTime.decode? bytes) := by
  match bytes with
  | [] | [_] | [_, _] | [_, _, _] | [_, _, _, _] | [_, _, _, _, _]
  | [_, _, _, _, _, _] | [_, _, _, _, _, _, _] => rfl
  | short :: _ :: _ :: _ :: _ :: _ :: hundredths :: last :: rest =>
      have hundredthsBound := ofDigits_le hundredths
      have lastBound := last.toNat_lt
      obtain ⟨year, isYear, same⟩ := readYear_eq (ofDigits_le short)
      rw [readDecimalTime, if_neg (by simp)]
      simp only [index_cons_zero, index_cons_succ, readDigits_eq, ok_bind,
        isYear]
      rw [mul_eq (by omega), ok_bind, add_eq (by omega), DecimalTime.decode?,
        same]
      rfl

theorem readBlockStamp_eq (bytes : Bytes) :
    readBlockStamp bytes = .ok (BlockStamp.decode? bytes) := by
  match bytes with
  | [] | [_] | [_, _] | [_, _, _] | [_, _, _, _] | [_, _, _, _, _] => rfl
  | _ :: _ :: _ :: _ :: high :: low :: rest =>
      have daysBound := (Word.ofBytes16 high low).toNat_lt
      rw [readBlockStamp, if_neg (by simp)]
      -- Steps that hold by definition are checked by unfolding, which goes
      -- through the product one by one.
      simp -implicitDefEqProofs only [index_cons_zero, index_cons_succ,
        word_cons_succ, word_cons_zero, ok_bind]
      rw [mul_eq (by omega)]
      rfl

/-! ## Clock readings -/

/-- Read a clock reading; further bytes are ignored. -/
def readClock (data : Bytes) : Guarded DateTime :=
  if data.length < Clock.minLength then
    refuse (.insufficientData Clock.minLength data.length)
  else do
    match <- readDecimalTime (<- slice data 2 10) with
    | some moment => return moment
    | none => refuse (.decode .clockValue)

/-- A timestamp is in its first eight bytes. -/
theorem decode?_take_eight (bytes : Bytes) :
    DecimalTime.decode? (bytes.take 8) = DecimalTime.decode? bytes := by
  match bytes with
  | [] | [_] | [_, _] | [_, _, _] | [_, _, _, _] | [_, _, _, _, _]
  | [_, _, _, _, _, _] | [_, _, _, _, _, _, _] => rfl
  | _ :: _ :: _ :: _ :: _ :: _ :: _ :: _ :: rest => rfl

theorem readClock_eq (data : Bytes) :
    readClock data = ofResult (Clock.parse data) := by
  unfold readClock Clock.parse
  split
  · rfl
  · rename_i long
    simp only [Clock.minLength] at long
    rw [slice_eq (by omega) (by omega), ok_bind, readDecimalTime_eq, ok_bind,
      decode?_take_eight]
    cases DecimalTime.decode? (data.drop 2) <;> rfl

/-! ## Descriptions of blocks -/

/-- Read a description; bytes after the seventieth are ignored. -/
def readBlockInfo (data : Bytes) : Guarded BlockInfo :=
  if data.length < BlockInfo.minLength then
    refuse (.insufficientData BlockInfo.minLength data.length)
  else do
    return {
      flags := <- index data 9
      language := <- index data 10
      subBlockType := <- index data 11
      number := <- word data 12
      loadSize :=
        Word.ofBytes32 (<- index data 14) (<- index data 15) (<- index data 16)
          (<- index data 17)
      codeStamp? := <- readBlockStamp (<- slice data 22 28)
      interfaceStamp? := <- readBlockStamp (<- slice data 28 34)
      sbbLength := <- word data 34
      addLength := <- word data 36
      localData := <- word data 38
      mc7Size := <- word data 40
      author := <- slice data 42 50
      family := <- slice data 50 58
      header := <- slice data 58 66
      version := <- index data 66
      checksum := <- word data 68 }

/-- A block's timestamp is in its first six bytes. -/
theorem decode?_take_six (bytes : Bytes) :
    BlockStamp.decode? (bytes.take 6) = BlockStamp.decode? bytes := by
  match bytes with
  | [] | [_] | [_, _] | [_, _, _] | [_, _, _, _] | [_, _, _, _, _] => rfl
  | _ :: _ :: _ :: _ :: _ :: _ :: rest => rfl

theorem index_eq_byteAt {data : Bytes} {place : Nat}
    (within : place < data.length) :
    index data place = .ok (BlockInfo.byteAt data place) :=
  index_eq_getD within

theorem word_eq_wordAt {data : Bytes} {place : Nat}
    (within : place + 1 < data.length) :
    word data place = .ok (BlockInfo.wordAt data place) := by
  rw [word, index_eq_byteAt (by omega), ok_bind, index_eq_byteAt within]
  rfl

theorem readBlockInfo_eq (data : Bytes) :
    readBlockInfo data = ofResult (BlockInfo.parse data) := by
  unfold readBlockInfo BlockInfo.parse
  split
  · rfl
  · rename_i long
    simp only [BlockInfo.minLength] at long
    simp (disch := omega) only [index_eq_byteAt, word_eq_wordAt, slice_eq,
      Nat.reduceSub, readBlockStamp_eq, decode?_take_six, ok_bind]
    rfl

/-! ## Alarms -/

/-- Read a transition and hand out what follows it. -/
def readTransition (input : Bytes) : Guarded (Transition × Bytes) :=
  if input.length < Transition.headLength then
    refuse (.insufficientData Transition.headLength input.length)
  else do
    let moment? <- readDecimalTime (<- before input 8)
    let count <- index input 8
    let rest <- after input 9
    let (values, rest) <- itemsFrom count.toNat count.toNat 0 rest
    return ({ moment?, values }, rest)

/-- Read the transition that ended an alarm, which ends the object, or nothing
at its end. -/
def readGoing (input : Bytes) : Guarded (Option Transition) :=
  if input = [] then
    return none
  else do
    let (going, rest) <- readTransition input
    if rest = [] then
      return some going
    else
      refuse (.protocolViolation .trailingAlarm)

/-- Read one whole alarm object. -/
def readAlarm : Bytes -> Guarded Alarm
  | _ :: _ :: type :: first :: second :: third :: fourth :: _ :: state ::
      ackGoing :: ackComing :: rest => do
      let (coming, rest) <- readTransition rest
      let going? <- readGoing rest
      return {
        type
        eventId := Word.ofBytes32 first second third fourth
        state
        ackGoing
        ackComing
        coming
        going? }
  | _ => refuse (.decode .alarmObject)

/-- Read a list of alarms to its end, each behind its length. -/
def alarmsFrom : Nat -> Bytes -> Guarded (List Alarm)
  | 0, _ => crash .endless
  | rounds + 1, input =>
      if input = [] then
        return []
      else do
        let length <- index input 0
        let stop <- add (2 ^ 64) 1 length.toNat
        if input.length < stop then
          refuse (.insufficientData stop input.length)
        else do
          let alarm <- readAlarm (<- slice input 1 stop)
          let alarms <- alarmsFrom rounds (<- after input stop)
          return alarm :: alarms

/-- Read a whole list of alarms. -/
def readAlarms (data : Bytes) : Guarded (List Alarm) :=
  alarmsFrom (data.length + 1) data

theorem readTransition_eq (input : Bytes) :
    readTransition input = ofResult (Transition.parse input) := by
  unfold readTransition Transition.parse
  split
  · rename_i short
    have nothing : input.drop 8 = [] := by
      apply List.drop_eq_nil_iff.2
      simp only [Transition.headLength] at short
      omega
    rw [nothing]
    rfl
  · rename_i long
    simp only [Transition.headLength] at long
    have countThere : 8 < input.length := by omega
    have countBound := input[8].toNat_lt
    rw [before_eq (by omega), ok_bind, readDecimalTime_eq, ok_bind,
      index_eq countThere, ok_bind, after_eq (by omega), ok_bind,
      itemsFrom_eq (Nat.zero_add _) (by omega), decode?_take_eight,
      List.drop_eq_getElem_cons countThere]
    dsimp only
    rw [ofResult_bind]
    rfl

theorem readGoing_eq (input : Bytes) :
    readGoing input = ofResult (Alarm.parseGoing input) := by
  unfold readGoing Alarm.parseGoing
  split
  · rfl
  · rw [readTransition_eq, ofResult_bind]
    congr 1
    funext read
    obtain ⟨going, rest⟩ := read
    dsimp only
    split <;> rfl

theorem readAlarm_eq (input : Bytes) :
    readAlarm input = ofResult (Alarm.parseObject input) := by
  unfold readAlarm
  split
  · rw [readTransition_eq, Alarm.parseObject, ofResult_bind]
    congr 1
    funext read
    obtain ⟨coming, rest⟩ := read
    dsimp only
    rw [readGoing_eq, ofResult_bind]
    rfl
  · rename_i short
    rw [Alarm.parseObject]
    · rfl
    · exact short

/-- A list of alarms is read in as many rounds as it has bytes, and one. -/
theorem alarmsFrom_eq {rounds : Nat} {input : Bytes}
    (enough : input.length < rounds) :
    alarmsFrom rounds input = ofResult (Alarm.parseAll input) := by
  induction rounds generalizing input with
  | zero => omega
  | succ rounds inductionHypothesis =>
      rw [alarmsFrom]
      cases input with
      | nil =>
          rw [if_pos rfl, Alarm.parseAll]
          rfl
      | cons length rest =>
          have lengthBound := length.toNat_lt
          have total : (length :: rest).length = 1 + rest.length :=
            Nat.add_comm _ _
          rw [total] at enough
          rw [if_neg (List.cons_ne_nil _ _), index_cons_zero, ok_bind,
            add_eq (by omega), ok_bind, Alarm.parseAll, total]
          split
          · rename_i short
            rw [if_pos (by omega)]
            rfl
          · rename_i whole
            have object :
                slice (length :: rest) 1 (1 + length.toNat)
                  = .ok (rest.take length.toNat) := by
              rw [slice_eq (by omega) (by rw [total]; omega),
                Nat.add_sub_cancel_left]
              rfl
            have behind :
                after (length :: rest) (1 + length.toNat)
                  = .ok (rest.drop length.toNat) := by
              rw [Nat.add_comm, after_cons_succ, after_eq (by omega)]
            rw [if_neg (by omega), object, ok_bind, readAlarm_eq,
              ofResult_bind]
            congr 1
            funext alarm
            rw [behind, ok_bind, ofResult_bind]
            rw [inductionHypothesis (by rw [List.length_drop]; omega)]
            rfl

theorem readAlarms_eq (data : Bytes) :
    readAlarms data = ofResult (Alarm.parseAll data) :=
  alarmsFrom_eq (Nat.lt_succ_self _)

end Guarded
end PlcLink
