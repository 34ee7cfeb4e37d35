import PlcLink.Bytes

/-!
# Sizes of elements on the wire

An address counts elements of a transport size. A data item names its contents
by a variable type, which also decides how its length is counted.
-/

namespace PlcLink

/-- How the contents of a data item are to be understood. -/
inductive VariableType
  | null
  | bit
  | byteWordDoubleWord
  | integer
  | doubleInteger
  | real
  | octetString
  deriving DecidableEq, Repr

namespace VariableType

/-- The byte of a variable type. -/
def toByte : VariableType -> UInt8
  | null => 0x00
  | bit => 0x03
  | byteWordDoubleWord => 0x04
  | integer => 0x05
  | doubleInteger => 0x06
  | real => 0x07
  | octetString => 0x09

/-- The variable type of a byte. -/
def ofByte? (byte : UInt8) : Option VariableType :=
  match byte.toNat with
  | 0x00 => some null
  | 0x03 => some bit
  | 0x04 => some byteWordDoubleWord
  | 0x05 => some integer
  | 0x06 => some doubleInteger
  | 0x07 => some real
  | 0x09 => some octetString
  | _ => none

/-- The name of a variable type. -/
def name : VariableType -> String
  | null => "Null"
  | bit => "Bit"
  | byteWordDoubleWord => "ByteWordDWord"
  | integer => "Integer"
  | doubleInteger => "DInteger"
  | real => "Real"
  | octetString => "OctetString"

/-- Whether the length of an item counts bits instead of bytes. -/
def lengthInBits : VariableType -> Bool
  | byteWordDoubleWord | integer => true
  | _ => false

end VariableType

/-- The size of one element of a variable. -/
inductive TransportSize
  | bit
  | byte
  | char
  | word
  | int
  | doubleWord
  | doubleInt
  | real
  | date
  | timeOfDay
  | time
  | s5Time
  | dateTime
  | counter
  | timer
  deriving DecidableEq, Repr

namespace TransportSize

/-- The byte of a transport size. -/
def toByte : TransportSize -> UInt8
  | bit => 0x01
  | byte => 0x02
  | char => 0x03
  | word => 0x04
  | int => 0x05
  | doubleWord => 0x06
  | doubleInt => 0x07
  | real => 0x08
  | date => 0x09
  | timeOfDay => 0x0A
  | time => 0x0B
  | s5Time => 0x0C
  | dateTime => 0x0F
  | counter => 0x1C
  | timer => 0x1D

/-- The transport size of a byte. -/
def ofByte? (value : UInt8) : Option TransportSize :=
  match value.toNat with
  | 0x01 => some bit
  | 0x02 => some byte
  | 0x03 => some char
  | 0x04 => some word
  | 0x05 => some int
  | 0x06 => some doubleWord
  | 0x07 => some doubleInt
  | 0x08 => some real
  | 0x09 => some date
  | 0x0A => some timeOfDay
  | 0x0B => some time
  | 0x0C => some s5Time
  | 0x0F => some dateTime
  | 0x1C => some counter
  | 0x1D => some timer
  | _ => none

/-- The name of a transport size. -/
def name : TransportSize -> String
  | bit => "Bit"
  | byte => "Byte"
  | char => "Char"
  | word => "Word"
  | int => "Int"
  | doubleWord => "DWord"
  | doubleInt => "DInt"
  | real => "Real"
  | date => "Date"
  | timeOfDay => "TimeOfDay"
  | time => "Time"
  | s5Time => "S5Time"
  | dateTime => "DateTime"
  | counter => "Counter"
  | timer => "Timer"

/-- Bytes of one element. A bit travels as a byte. -/
def elementBytes : TransportSize -> Nat
  | bit | byte | char => 1
  | word | int | date | s5Time | counter | timer => 2
  | doubleWord | doubleInt | real | timeOfDay | time => 4
  | dateTime => 8

/-- The variable type under which elements of this size are written. -/
def variableType : TransportSize -> VariableType
  | bit => .bit
  | int | counter | timer => .integer
  | doubleInt => .doubleInteger
  | real => .real
  | char | dateTime => .octetString
  | byte | word | doubleWord | date | timeOfDay | time | s5Time =>
      .byteWordDoubleWord

theorem elementBytes_pos (size : TransportSize) : 0 < size.elementBytes := by
  cases size <;> decide

end TransportSize
end PlcLink
