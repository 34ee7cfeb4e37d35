import Mathlib
import PlcLink.Calendar.Decimal

/-!
# Decimal timestamps there and back

The moments that read back from their timestamps are those of the hundred years
from 1990 on, leap seconds apart. The other way round, a timestamp is accepted
for what its half bytes add up to, whether or not they are digits. It is the one
its moment is written as just if they are.
-/

namespace PlcLink

/-! ## Calendar bounds -/

theorem le_of_mem_monthLengths {year : Int} {length : Nat}
    (member : length ∈ monthLengths year) : length ≤ 31 := by
  have february : (if isLeapYear year then 29 else 28) ≤ 31 := by
    split <;> decide
  simp only [monthLengths, List.mem_cons, List.not_mem_nil, or_false]
    at member
  omega

theorem monthLength_le (year : Int) (month : Nat) :
    monthLength year month ≤ 31 := by
  unfold monthLength
  split
  · exact Nat.zero_le _
  · by_cases within : month - 1 < (monthLengths year).length
    · rw [List.getD_eq_getElem _ _ within]
      exact le_of_mem_monthLengths (List.getElem_mem within)
    · rw [List.getD_eq_default _ _ (Nat.not_lt.1 within)]
      exact Nat.zero_le _

namespace IsDate

variable {year : Int} {month day : Nat}

theorem month_le (isDate : IsDate year month day) : month ≤ 12 := by
  obtain ⟨-, dayPositive, dayBound⟩ := isDate
  by_contra beyond
  have noLength : monthLength year month = 0 := by
    unfold monthLength
    rw [if_neg (by omega), List.getD_eq_default]
    simp only [monthLengths, List.length_cons, List.length_nil]
    omega
  omega

theorem day_le (isDate : IsDate year month day) : day ≤ 31 :=
  isDate.2.2.trans (monthLength_le year month)

end IsDate

namespace DateTime

variable {moment : DateTime} {year : Int}
  {month day hour minute second millisecond : Nat}

theorem ofParts?_eq_some_iff :
    ofParts? year month day hour minute second millisecond = some moment ↔
      moment.year = year ∧ moment.month = month ∧ moment.day = day
        ∧ moment.hour = hour ∧ moment.minute = minute
        ∧ moment.second = second ∧ moment.millisecond = millisecond := by
  unfold ofParts?
  constructor
  · intro isMoment
    split at isMoment
    · split at isMoment
      · cases isMoment
        exact ⟨rfl, rfl, rfl, rfl, rfl, rfl, rfl⟩
      · cases isMoment
    · cases isMoment
  · rintro ⟨rfl, rfl, rfl, rfl, rfl, rfl, rfl⟩
    rw [dif_pos moment.isDate, dif_pos moment.isTime]

theorem weekday_le (moment : DateTime) : moment.weekday ≤ 7 := by
  unfold weekday
  omega

end DateTime

namespace DecimalTime

/-! ## Bytes of two digits -/

/-- Both half bytes are decimal digits. -/
def IsDecimal (byte : UInt8) : Prop :=
  byte.toNat / 16 ≤ 9 ∧ byte.toNat % 16 ≤ 9

instance (byte : UInt8) : Decidable (IsDecimal byte) :=
  inferInstanceAs (Decidable (_ ∧ _))

theorem toNat_ofHalves {high low : Nat} (highBound : high < 16)
    (lowBound : low < 16) :
    (UInt8.ofNat (high * 16 ||| low)).toNat = high * 16 + low := by
  have joined : high * 16 ||| low = high * 16 + low := by
    rw [Nat.mul_comm]
    exact (Nat.two_pow_add_eq_or_of_lt (i := 4) lowBound high).symm
  rw [joined, UInt8.toNat_ofNat']
  omega

variable {number : Nat} {byte : UInt8}

theorem toNat_toDigits (small : number < 160) :
    (toDigits (UInt8.ofNat number)).toNat
      = number / 10 * 16 + number % 10 := by
  have same : (UInt8.ofNat number).toNat = number := by
    rw [UInt8.toNat_ofNat']
    omega
  rw [toDigits, toNat_ofHalves (by omega) (by omega), same]
  omega

/-- A number of up to fifteen tens reads back from its byte. -/
theorem ofDigits_toDigits (small : number < 160) :
    ofDigits (toDigits (UInt8.ofNat number)) = number := by
  rw [ofDigits, toNat_toDigits small]
  omega

theorem isDecimal_toDigits (small : number < 100) :
    IsDecimal (toDigits (UInt8.ofNat number)) := by
  rw [IsDecimal, toNat_toDigits (by omega)]
  omega

theorem ofDigits_lt_of_isDecimal (isDecimal : IsDecimal byte) :
    ofDigits byte < 100 := by
  obtain ⟨high, low⟩ := isDecimal
  unfold ofDigits
  omega

/-- A byte that stands for a number below a hundred is the one the number is
written as just if it consists of digits. -/
theorem toDigits_ofDigits_iff (small : ofDigits byte < 100) :
    toDigits (UInt8.ofNat (ofDigits byte)) = byte ↔ IsDecimal byte := by
  constructor
  · intro same
    rw [← same]
    exact isDecimal_toDigits small
  · rintro ⟨high, low⟩
    apply UInt8.toNat.inj
    rw [toNat_toDigits (by omega), ofDigits]
    omega

/-! ## Years -/

/-- The year that a written year is read as. -/
def rereadYear (year : Int) : Int :=
  fullYear (ofDigits (toDigits (UInt8.ofNat (year.tmod 100 % 256).toNat)))

theorem ofDigits_toDigits_lt (value : UInt8) :
    ofDigits (toDigits value) < 160 := by
  rw [toDigits, ofDigits, toNat_ofHalves (by omega) (by omega)]
  omega

/-- Years are written and read again as those of one century. -/
theorem rereadYear_eq_iff {year : Int} :
    rereadYear year = year ↔ 1990 ≤ year ∧ year ≤ 2089 := by
  constructor
  · intro same
    have bound := ofDigits_toDigits_lt
      (UInt8.ofNat (year.tmod 100 % 256).toNat)
    rw [rereadYear, fullYear] at same
    split at same <;> omega
  · rintro ⟨first, last⟩
    have remainder : (year.tmod 100 % 256).toNat = (year % 100).toNat := by
      rw [Int.tmod_eq_emod_of_nonneg (by omega)]
      omega
    rw [rereadYear, remainder, ofDigits_toDigits (by omega), fullYear]
    split <;> omega

/-- A year that was read is written again as the byte it was read from just if
the byte consists of digits. -/
theorem toDigits_fullYear_iff {byte : UInt8} :
    toDigits (UInt8.ofNat ((fullYear (ofDigits byte)).tmod 100 % 256).toNat)
        = byte
      ↔ IsDecimal byte := by
  have bound := byte.toNat_lt
  have remainder : ((fullYear (ofDigits byte)).tmod 100 % 256).toNat
      = ofDigits byte % 100 := by
    have highest : ofDigits byte < 200 := by
      unfold ofDigits
      omega
    rw [fullYear]
    split
    · rw [Int.tmod_eq_emod_of_nonneg (by omega)]
      omega
    · rw [Int.tmod_eq_emod_of_nonneg (by omega)]
      omega
  rw [remainder]
  by_cases small : ofDigits byte < 100
  · rw [Nat.mod_eq_of_lt small, toDigits_ofDigits_iff small]
  · -- The year was read past the century, and is written without it.
    apply iff_of_false
    · intro same
      have written := isDecimal_toDigits
        (Nat.mod_lt (ofDigits byte) (by decide : 0 < 100))
      rw [same] at written
      exact small (ofDigits_lt_of_isDecimal written)
    · exact fun isDecimal => small (ofDigits_lt_of_isDecimal isDecimal)

/-! ## Milliseconds -/

/-- The last byte of a timestamp holds the last digit of the milliseconds in
its high half byte. -/
theorem high_ofHalves {digit weekday : Nat} (isDigit : digit < 10)
    (isWeekday : weekday ≤ 7) :
    (UInt8.ofNat (digit * 16 ||| weekday)).toNat / 16 = digit := by
  rw [toNat_ofHalves (by omega) (by omega)]
  omega

/-- Milliseconds that were read are written again as the three half bytes they
were read from just if these are digits. -/
theorem millisecond_digits_iff {hundredths : UInt8} {last : Nat}
    (lastBound : last < 16) :
    (toDigits
          (UInt8.ofNat (min (ofDigits hundredths * 10 + last) 999 / 10))
        = hundredths
      ∧ min (ofDigits hundredths * 10 + last) 999 % 10 = last)
      ↔ IsDecimal hundredths ∧ last ≤ 9 := by
  constructor
  · rintro ⟨same, sameLast⟩
    constructor
    · rw [← same]
      exact isDecimal_toDigits (by omega)
    · omega
  · rintro ⟨isDecimal, isDigit⟩
    have small := ofDigits_lt_of_isDecimal isDecimal
    have whole : min (ofDigits hundredths * 10 + last) 999 / 10
        = ofDigits hundredths := by omega
    rw [whole, toDigits_ofDigits_iff small]
    exact ⟨isDecimal, by omega⟩

/-! ## Timestamps -/

variable {moment : DateTime} {bytes : Bytes}

/-- What the timestamp of a moment is read as. -/
theorem decode?_encode (moment : DateTime) :
    decode? (encode moment)
      = DateTime.ofParts? (rereadYear moment.year) moment.month moment.day
        moment.hour moment.minute moment.second
        (min moment.millisecond 999) := by
  obtain ⟨hour, minute, second, -⟩ := moment.isTime
  have month := moment.isDate.month_le
  have day := moment.isDate.day_le
  have milliseconds :
      ofDigits (toDigits (UInt8.ofNat (min moment.millisecond 999 / 10))) * 10
          + (UInt8.ofNat
              (min moment.millisecond 999 % 10 * 16 ||| moment.weekday)).toNat
            / 16
        = min moment.millisecond 999 := by
    rw [ofDigits_toDigits (by omega),
      high_ofHalves (by omega) moment.weekday_le]
    omega
  rw [encode, decode?, milliseconds, ← rereadYear,
    ofDigits_toDigits (by omega), ofDigits_toDigits (by omega),
    ofDigits_toDigits (by omega), ofDigits_toDigits (by omega),
    ofDigits_toDigits (by omega)]

/-- A moment reads back if its year does and it is no leap second. -/
theorem reads_back_iff :
    decode? (encode moment) = some moment ↔
      rereadYear moment.year = moment.year ∧ moment.millisecond < 1000 := by
  rw [decode?_encode, DateTime.ofParts?_eq_some_iff]
  have whole : moment.millisecond = min moment.millisecond 999 ↔
      moment.millisecond < 1000 := by omega
  rw [← whole]
  simp only [true_and, eq_comm]

/-- A moment reads back from its timestamp if and only if it lies in the hundred
years from 1990 on and is no leap second. -/
theorem decode?_encode_eq_some_iff (moment : DateTime) :
    decode? (encode moment) = some moment ↔
      (1990 ≤ moment.year ∧ moment.year ≤ 2089)
        ∧ moment.millisecond < 1000 := by
  rw [reads_back_iff, rereadYear_eq_iff]

/-- Every half byte of a timestamp that carries a digit is one: both of each of
the first seven bytes, and the high one of the eighth. -/
def AllDigits (bytes : Bytes) : Prop :=
  (∀ byte ∈ bytes.take 7, IsDecimal byte)
    ∧ ∀ byte ∈ bytes[7]?, byte.toNat / 16 ≤ 9

instance (bytes : Bytes) : Decidable (AllDigits bytes) :=
  inferInstanceAs (Decidable (_ ∧ _))

/-- Two timestamps are the same but for the day of the week, which is in the low
half of the eighth byte. -/
def SameDigits (first second : Bytes) : Prop :=
  first.take 7 = second.take 7
    ∧ first[7]?.map (fun byte => byte.toNat / 16)
      = second[7]?.map fun byte => byte.toNat / 16

instance (first second : Bytes) : Decidable (SameDigits first second) :=
  inferInstanceAs (Decidable (_ ∧ _))

theorem SameDigits.symm {first second : Bytes}
    (same : SameDigits first second) : SameDigits second first :=
  ⟨same.1.symm, same.2.symm⟩

theorem SameDigits.trans {first second third : Bytes}
    (same : SameDigits first second) (also : SameDigits second third) :
    SameDigits first third :=
  ⟨same.1.trans also.1, same.2.trans also.2⟩

/-- Two timestamps of eight bytes are the same byte for byte, up to the last. -/
theorem sameDigits_cons_iff
    {year month day hour minute second hundredths last : UInt8}
    {year' month' day' hour' minute' second' hundredths' last' : UInt8}
    {rest rest' : Bytes} :
    SameDigits
        (year :: month :: day :: hour :: minute :: second :: hundredths
          :: last :: rest)
        (year' :: month' :: day' :: hour' :: minute' :: second' :: hundredths'
          :: last' :: rest')
      ↔ year = year' ∧ month = month' ∧ day = day' ∧ hour = hour'
        ∧ minute = minute' ∧ second = second' ∧ hundredths = hundredths'
        ∧ last.toNat / 16 = last'.toNat / 16 := by
  simp [SameDigits, and_assoc]

theorem allDigits_cons_iff
    {year month day hour minute second hundredths last : UInt8}
    {rest : Bytes} :
    AllDigits
        (year :: month :: day :: hour :: minute :: second :: hundredths
          :: last :: rest)
      ↔ IsDecimal year ∧ IsDecimal month ∧ IsDecimal day ∧ IsDecimal hour
        ∧ IsDecimal minute ∧ IsDecimal second ∧ IsDecimal hundredths
        ∧ last.toNat / 16 ≤ 9 := by
  simp [AllDigits, and_assoc]

/-- A moment is written as the timestamp it was read from just if that consists
of digits. -/
theorem sameDigits_encode_iff (decoded : decode? bytes = some moment) :
    SameDigits (encode moment) bytes ↔ AllDigits bytes := by
  unfold decode? at decoded
  split at decoded
  · rename_i year month day hour minute second hundredths last rest
    obtain ⟨isYear, isMonth, isDay, isHour, isMinute, isSecond, isMillisecond⟩
      := DateTime.ofParts?_eq_some_iff.1 decoded
    obtain ⟨hourBound, minuteBound, secondBound, -⟩ := moment.isTime
    have monthBound := moment.isDate.month_le
    have dayBound := moment.isDate.day_le
    have lastBound : last.toNat / 16 < 16 := by
      have := last.toNat_lt
      omega
    rw [encode, sameDigits_cons_iff, allDigits_cons_iff,
      high_ofHalves (Nat.mod_lt _ (by decide)) moment.weekday_le, isYear,
      isMonth, isDay, isHour, isMinute, isSecond, isMillisecond,
      toDigits_fullYear_iff, toDigits_ofDigits_iff (by omega),
      toDigits_ofDigits_iff (by omega), toDigits_ofDigits_iff (by omega),
      toDigits_ofDigits_iff (by omega), toDigits_ofDigits_iff (by omega),
      millisecond_digits_iff lastBound]
  · cases decoded

/-- The timestamp of a moment after the beginning of the era consists of
digits. -/
theorem allDigits_encode (notNegative : 0 ≤ moment.year) :
    AllDigits (encode moment) := by
  obtain ⟨hour, minute, second, -⟩ := moment.isTime
  have month := moment.isDate.month_le
  have day := moment.isDate.day_le
  have year : (moment.year.tmod 100 % 256).toNat < 100 := by
    rw [Int.tmod_eq_emod_of_nonneg notNegative]
    omega
  rw [encode, allDigits_cons_iff,
    high_ofHalves (Nat.mod_lt _ (by decide)) moment.weekday_le]
  refine ⟨isDecimal_toDigits year, isDecimal_toDigits ?_,
    isDecimal_toDigits ?_, isDecimal_toDigits ?_, isDecimal_toDigits ?_,
    isDecimal_toDigits ?_, isDecimal_toDigits ?_, ?_⟩ <;> omega

/-- A moment that was read lies in the years that read back. -/
theorem year_of_decode? (decoded : decode? bytes = some moment) :
    1990 ≤ moment.year ∧ moment.year ≤ 2089 := by
  unfold decode? at decoded
  split at decoded
  · rename_i year _ _ _ _ _ _ _ _
    obtain ⟨isYear, -⟩ := DateTime.ofParts?_eq_some_iff.1 decoded
    have bound : ofDigits year ≤ 165 := by
      have := year.toNat_lt
      unfold ofDigits
      omega
    rw [isYear, fullYear]
    split <;> omega
  · cases decoded

/-- A timestamp compared with the one that its moment is written as: that one
consists of digits and stands for the moment, unless this is a leap second. The
two are the same just if the first consists of digits as well, and so there is
no other that does and has the same moment. -/
structure Rewritten (bytes : Bytes) (moment : DateTime) : Prop where
  digits : AllDigits (encode moment)
  readsBack_iff :
    decode? (encode moment) = some moment ↔ moment.millisecond < 1000
  same_iff : SameDigits (encode moment) bytes ↔ AllDigits bytes
  unique : AllDigits bytes -> ∀ other, decode? other = some moment ->
    (SameDigits bytes other ↔ AllDigits other)

/-- A timestamp that is accepted is the one its moment is written as, the day of
the week apart, if and only if every half byte that carries a digit is one; and
among those the moment has only this one. -/
theorem rewritten_of_decode? (decoded : decode? bytes = some moment) :
    Rewritten bytes moment := by
  have year := year_of_decode? decoded
  constructor
  · exact allDigits_encode (by omega)
  · rw [reads_back_iff, rereadYear_eq_iff, and_iff_right year]
  · exact sameDigits_encode_iff decoded
  · intro allDigits other otherDecoded
    have same := (sameDigits_encode_iff decoded).2 allDigits
    rw [← sameDigits_encode_iff otherDecoded]
    exact ⟨same.trans, same.symm.trans⟩

/-- Half past ten and some seconds, on the fifteenth of October 2024. -/
def october : Bytes := [0x24, 0x10, 0x15, 0x10, 0x30, 0x20, 0x45, 0x63]

/-- The same with a month of one half byte, ten. -/
def hexOctober : Bytes := [0x24, 0x0A, 0x15, 0x10, 0x30, 0x20, 0x45, 0x63]

theorem rewritten_of_decode?_october :
    ∃ moment,
      decode? october = some moment
        ∧ Rewritten october moment
        ∧ SameDigits (encode moment) october := by
  obtain ⟨moment, decoded⟩ :=
    Option.isSome_iff_exists.1 (by decide : (decode? october).isSome)
  have rewritten := rewritten_of_decode? decoded
  have allDigits : AllDigits october := by
    rw [october, allDigits_cons_iff]
    decide
  exact ⟨moment, decoded, rewritten, rewritten.same_iff.2 allDigits⟩

/-- A half byte of ten is accepted as a month. It is not what its moment is
written with, and the two timestamps, which differ in the month, stand for the
same moment. -/
theorem exists_decoded_not_digits :
    ∃ moment,
      decode? hexOctober = some moment
        ∧ ¬SameDigits (encode moment) hexOctober
        ∧ decode? october = some moment
        ∧ ¬SameDigits october hexOctober := by
  obtain ⟨moment, decoded⟩ :=
    Option.isSome_iff_exists.1 (by decide : (decode? hexOctober).isSome)
  have sameMoment : decode? october = decode? hexOctober := by decide
  have written : (decode? hexOctober).map encode = some october := by decide
  rw [decoded] at sameMoment written
  have isOctober : encode moment = october := Option.some.inj written
  have other : ¬SameDigits october hexOctober := by decide
  refine ⟨moment, decoded, ?_, sameMoment, other⟩
  rwa [isOctober]

end DecimalTime
end PlcLink
