import PlcLink.Bytes
import PlcLink.Calendar.DateTime

/-!
# Eight-byte decimal timestamps

A timestamp of eight bytes holds one decimal digit in each half byte: year,
month, day, hour, minute, second, two digits of milliseconds, then the last
digit of the milliseconds beside the day of the week. Two-digit years from 90
on belong to the twentieth century.
-/

namespace PlcLink
namespace DecimalTime

/-- The number of two half bytes. A half byte above nine counts with its
value. -/
def ofDigits (byte : UInt8) : Nat :=
  byte.toNat / 16 * 10 + byte.toNat % 16

/-- Tens in the high half byte and ones in the low one. Tens above fifteen lose
their excess. -/
def toDigits (value : UInt8) : UInt8 :=
  UInt8.ofNat (value.toNat / 10 % 16 * 16 ||| value.toNat % 10)

/-- The full year of a two-digit one. -/
def fullYear (short : Nat) : Int :=
  if short < 90 then 2000 + short else 1900 + short

/-- Read a timestamp; further bytes are ignored. -/
def decode? : Bytes -> Option DateTime
  | year :: month :: day :: hour :: minute :: second :: hundredths ::
      last :: _ =>
      DateTime.ofParts? (fullYear (ofDigits year)) (ofDigits month)
        (ofDigits day) (ofDigits hour) (ofDigits minute) (ofDigits second)
        (ofDigits hundredths * 10 + last.toNat / 16)
  | _ => none

/-- Write a timestamp. The year keeps its remainder by a hundred, narrowed to
a byte, and milliseconds of a leap second become 999. -/
def encode (moment : DateTime) : Bytes :=
  let millisecond := min moment.millisecond 999
  [toDigits (UInt8.ofNat ((moment.year.tmod 100) % 256).toNat),
    toDigits (UInt8.ofNat moment.month),
    toDigits (UInt8.ofNat moment.day),
    toDigits (UInt8.ofNat moment.hour),
    toDigits (UInt8.ofNat moment.minute),
    toDigits (UInt8.ofNat moment.second),
    toDigits (UInt8.ofNat (millisecond / 10)),
    UInt8.ofNat (millisecond % 10 * 16 ||| moment.weekday)]

end DecimalTime
end PlcLink
