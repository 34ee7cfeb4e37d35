import PlcLink.Bytes

/-!
# Memory areas of a controller
-/

namespace PlcLink

/-- The areas of a controller's memory that variables live in. -/
inductive Area
  /-- Peripherals, accessed directly. -/
  | peripheral
  | input
  | output
  | marker
  | dataBlock
  | instanceBlock
  | localData
  | previousLocal
  | counter
  | timer
  deriving DecidableEq, Repr

namespace Area

/-- The byte of an area. -/
def toByte : Area -> UInt8
  | peripheral => 0x80
  | input => 0x81
  | output => 0x82
  | marker => 0x83
  | dataBlock => 0x84
  | instanceBlock => 0x85
  | localData => 0x86
  | previousLocal => 0x87
  | counter => 0x1C
  | timer => 0x1D

/-- The area of a byte. -/
def ofByte? (byte : UInt8) : Option Area :=
  match byte.toNat with
  | 0x80 => some peripheral
  | 0x81 => some input
  | 0x82 => some output
  | 0x83 => some marker
  | 0x84 => some dataBlock
  | 0x85 => some instanceBlock
  | 0x86 => some localData
  | 0x87 => some previousLocal
  | 0x1C => some counter
  | 0x1D => some timer
  | _ => none

/-- The short name of an area. -/
def name : Area -> String
  | peripheral => "DP"
  | input => "I"
  | output => "O"
  | marker => "M"
  | dataBlock => "DB"
  | instanceBlock => "DI"
  | localData => "L"
  | previousLocal => "V"
  | counter => "C"
  | timer => "T"

/-- Whether an address in the area names a data block. -/
def usesBlockNumber : Area -> Bool
  | dataBlock | instanceBlock => true
  | _ => false

end Area
end PlcLink
