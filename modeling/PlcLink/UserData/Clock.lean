import PlcLink.Calendar.Decimal
import PlcLink.Error

/-!
# The clock of a controller

A clock reading is two bytes to skip and a decimal timestamp.
-/

namespace PlcLink
namespace Clock

/-- Number of bytes a reading has at least. -/
def minLength : Nat := 10

/-- Read a clock reading; further bytes are ignored. -/
def parse (data : Bytes) : Except Error DateTime :=
  if data.length < minLength then
    .error (.insufficientData minLength data.length)
  else
    match DecimalTime.decode? (data.drop 2) with
    | some moment => .ok moment
    | none => .error (.decode .clockValue)

end Clock
end PlcLink
