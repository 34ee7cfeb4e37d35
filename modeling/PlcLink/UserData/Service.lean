import PlcLink.Pdu.Body

/-!
# User-data services

The requests for block information, pending alarms and the clock, and for the
next unit of a reply that comes in several.
-/

namespace PlcLink

/-- The kinds of blocks a controller holds. -/
inductive BlockType
  | organization
  | data
  | systemData
  | function
  | systemFunction
  | functionBlock
  | systemFunctionBlock
  deriving DecidableEq, Repr

namespace BlockType

/-- The byte of a kind of blocks, a digit or letter. -/
def toByte : BlockType -> UInt8
  | organization => 0x38
  | data => 0x41
  | systemData => 0x42
  | function => 0x43
  | systemFunction => 0x44
  | functionBlock => 0x45
  | systemFunctionBlock => 0x46

/-- The kind of blocks of a byte. -/
def ofByte? (byte : UInt8) : Option BlockType :=
  match byte.toNat with
  | 0x38 => some organization
  | 0x41 => some data
  | 0x42 => some systemData
  | 0x43 => some function
  | 0x44 => some systemFunction
  | 0x45 => some functionBlock
  | 0x46 => some systemFunctionBlock
  | _ => none

/-- The short name of a kind of blocks. -/
def name : BlockType -> String
  | organization => "OB"
  | data => "DB"
  | systemData => "SDB"
  | function => "FC"
  | systemFunction => "SFC"
  | functionBlock => "FB"
  | systemFunctionBlock => "SFB"

end BlockType

namespace UserData

/-- The five decimal digits of a number, as characters. -/
def fiveDigits (number : UInt16) : Bytes :=
  [number.toNat / 10000, number.toNat / 1000 % 10, number.toNat / 100 % 10,
    number.toNat / 10 % 10, number.toNat % 10].map
      fun digit => UInt8.ofNat (48 + digit)

/-- Ask for the description of a block. -/
def blockInfoRequest (type : BlockType) (number : UInt16) : Body :=
  .userData (.request .blockFunctions 0x03 0)
    (some
      (.succeeded .octetString
        ([0x30, type.toByte] ++ fiveDigits number ++ [0x41])))

/-- Ask for all pending alarms. -/
def alarmRequest : Body :=
  .userData (.request .cpuFunctions 0x13 0)
    (some
      (.succeeded .octetString
        [0x00, 0x01, 0x12, 0x08, 0x1A, 0x00, 0x01, 0x34, 0x00, 0x00, 0x00,
          0x04]))

/-- Ask for the clock. -/
def clockRequest : Body :=
  .userData (.request .timeFunctions 0x01 0)
    (some (.failed .objectDoesNotExist))

/-- Ask for the unit after the one that came with the given parameter. -/
def continuationRequest (parameter : Parameter) : Body :=
  .userData
    (.continuation parameter.group parameter.subfunction parameter.sequence)
    (some (.failed .objectDoesNotExist))

end UserData
end PlcLink
