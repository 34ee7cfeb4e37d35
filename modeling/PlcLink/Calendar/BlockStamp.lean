import PlcLink.Bytes
import PlcLink.Calendar.DateTime

/-!
# Six-byte block timestamps

A block's timestamp counts milliseconds since midnight, then days since the
first of January 1984.
-/

namespace PlcLink
namespace BlockStamp

/-- Milliseconds of a day. -/
def dayMilliseconds : Nat := 86400000

/-- The moment the given days and milliseconds after the beginning of 1984.
Milliseconds may exceed a day. -/
def moment? (days milliseconds : Nat) : Option DateTime :=
  let (year, month, day) :=
    DateTime.dateAfter 1984 (days + milliseconds / dayMilliseconds)
  let within := milliseconds % dayMilliseconds
  DateTime.ofParts? year month day (within / 3600000)
    (within / 60000 % 60) (within / 1000 % 60) (within % 1000)

/-- Read a timestamp; further bytes are ignored. -/
def decode? : Bytes -> Option DateTime
  | first :: second :: third :: fourth :: high :: low :: _ =>
      moment? (Word.ofBytes16 high low).toNat
        (Word.ofBytes32 first second third fourth).toNat
  | _ => none

end BlockStamp
end PlcLink
