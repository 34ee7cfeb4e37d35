import PlcLink.Bytes

/-!
# Bytes as hexadecimal text

Each byte is two digits, the high half first. Digits are written in lower case
and read in either.
-/

namespace PlcLink
namespace Hex

/-- The digit of a number below sixteen. -/
def digit (value : Nat) : Char :=
  if value < 10 then Char.ofNat (48 + value) else Char.ofNat (87 + value)

/-- The value of a digit. -/
def value? (char : Char) : Option Nat :=
  if '0' ≤ char ∧ char ≤ '9' then some (char.toNat - 48)
  else if 'a' ≤ char ∧ char ≤ 'f' then some (char.toNat - 87)
  else if 'A' ≤ char ∧ char ≤ 'F' then some (char.toNat - 55)
  else none

/-- Write bytes. -/
def encode (bytes : Bytes) : List Char :=
  bytes.flatMap fun byte => [digit (byte.toNat / 16), digit (byte.toNat % 16)]

/-- Read bytes. -/
def decode? : List Char -> Option Bytes
  | [] => some []
  | high :: low :: rest => do
      let byte := (<- value? high) * 16 + (<- value? low)
      return UInt8.ofNat byte :: (<- decode? rest)
  | [_] => none

end Hex
end PlcLink
