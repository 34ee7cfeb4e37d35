import PlcLink.Bytes

/-!
# Return codes of items

Every item of a read or write reply carries one return code.
-/

namespace PlcLink

/-- The return code of one item. -/
inductive ReturnCode
  | reserved
  | success
  | hardwareFault
  | accessDenied
  | addressOutOfRange
  | dataTypeNotSupported
  | dataTypeInconsistent
  | objectDoesNotExist
  | objectNotAvailable
  | unknown (value : UInt8)
  deriving DecidableEq, Repr

namespace ReturnCode

/-- Read a return code; every byte is one. -/
def ofByte (byte : UInt8) : ReturnCode :=
  match byte.toNat with
  | 0x00 => reserved
  | 0xFF => success
  | 0x01 => hardwareFault
  | 0x03 => accessDenied
  | 0x05 => addressOutOfRange
  | 0x06 => dataTypeNotSupported
  | 0x07 => dataTypeInconsistent
  | 0x0A => objectDoesNotExist
  | 0x0B => objectNotAvailable
  | _ => unknown byte

/-- The byte of a return code. -/
def toByte : ReturnCode -> UInt8
  | reserved => 0x00
  | success => 0xFF
  | hardwareFault => 0x01
  | accessDenied => 0x03
  | addressOutOfRange => 0x05
  | dataTypeNotSupported => 0x06
  | dataTypeInconsistent => 0x07
  | objectDoesNotExist => 0x0A
  | objectNotAvailable => 0x0B
  | unknown value => value

/-- Whether the item succeeded. -/
def isSuccess (code : ReturnCode) : Bool :=
  code == success

theorem isSuccess_iff {code : ReturnCode} :
    code.isSuccess = true ↔ code = success := by
  rw [isSuccess, beq_iff_eq]

/-- The name of a return code. -/
def name : ReturnCode -> String
  | reserved => "Reserved"
  | success => "Success"
  | hardwareFault => "HardwareFault"
  | accessDenied => "AccessDenied"
  | addressOutOfRange => "AddressOutOfRange"
  | dataTypeNotSupported => "DataTypeNotSupported"
  | dataTypeInconsistent => "DataTypeInconsistent"
  | objectDoesNotExist => "ObjectDoesNotExist"
  | objectNotAvailable => "ObjectNotAvailable"
  | unknown value => s!"Unknown({value.toNat})"

end ReturnCode
end PlcLink
