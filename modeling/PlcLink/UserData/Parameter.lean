import PlcLink.Emission

/-!
# Parameters of user-data services

A user-data parameter has a fixed head, a length, a method, a function type and
group, a subfunction and a sequence number. The long form, which replies and
continuations use, adds a data unit reference, whether more units follow, and
an error word.
-/

namespace PlcLink
namespace UserData

/-- Direction of a user-data message. -/
inductive FunctionType
  | indication
  | request
  | response
  deriving DecidableEq, Repr

namespace FunctionType

/-- The half byte of a direction. -/
def toByte : FunctionType -> UInt8
  | indication => 0
  | request => 4
  | response => 8

/-- The direction of a half byte. -/
def ofByte? (byte : UInt8) : Option FunctionType :=
  match byte.toNat with
  | 0 => some indication
  | 4 => some request
  | 8 => some response
  | _ => none

/-- The name of a direction. -/
def name : FunctionType -> String
  | indication => "IndicationPush"
  | request => "Request"
  | response => "Response"

end FunctionType

/-- Groups of user-data services. -/
inductive FunctionGroup
  | modeTransition
  | programmerCommands
  | cyclicServices
  | blockFunctions
  | cpuFunctions
  | securityFunctions
  | timeFunctions
  deriving DecidableEq, Repr

namespace FunctionGroup

/-- The half byte of a group. -/
def toByte : FunctionGroup -> UInt8
  | modeTransition => 0
  | programmerCommands => 1
  | cyclicServices => 2
  | blockFunctions => 3
  | cpuFunctions => 4
  | securityFunctions => 5
  | timeFunctions => 7

/-- The group of a half byte. -/
def ofByte? (byte : UInt8) : Option FunctionGroup :=
  match byte.toNat with
  | 0 => some modeTransition
  | 1 => some programmerCommands
  | 2 => some cyclicServices
  | 3 => some blockFunctions
  | 4 => some cpuFunctions
  | 5 => some securityFunctions
  | 7 => some timeFunctions
  | _ => none

/-- The name of a group. -/
def name : FunctionGroup -> String
  | modeTransition => "ModeTransition"
  | programmerCommands => "ProgrammerCommands"
  | cyclicServices => "CyclicServices"
  | blockFunctions => "BlockFunctions"
  | cpuFunctions => "CpuFunctions"
  | securityFunctions => "SecurityFunctions"
  | timeFunctions => "TimeFunctions"

end FunctionGroup

/-- The parameter section of a user-data message. -/
structure Parameter where
  method : UInt8
  functionType : FunctionType
  group : FunctionGroup
  subfunction : UInt8
  sequence : UInt8
  dataUnitRef : UInt8
  /-- Whether no further data unit follows. -/
  isLast : Bool
  error : UInt16
  deriving DecidableEq, Repr

namespace Parameter

/-- Method of the short form. -/
def shortMethod : UInt8 := 0x11

/-- Method of the long form. -/
def longMethod : UInt8 := 0x12

/-- A request in short form. -/
def request
    (group : FunctionGroup)
    (subfunction sequence : UInt8) : Parameter :=
  { method := shortMethod
    functionType := .request
    group
    subfunction
    sequence
    dataUnitRef := 0
    isLast := true
    error := 0 }

/-- A request for the next data unit, in long form. -/
def continuation
    (group : FunctionGroup)
    (subfunction sequence : UInt8) : Parameter :=
  { request group subfunction sequence with method := longMethod }

/-- A reply in long form. -/
def response
    (group : FunctionGroup)
    (subfunction sequence : UInt8)
    (isLast : Bool) : Parameter :=
  { request group subfunction sequence with
    method := longMethod
    functionType := .response
    isLast }

/-- Whether the parameter is written in long form. -/
def isLong (parameter : Parameter) : Bool :=
  parameter.method == longMethod

/-- Fail with the error word, unless it is zero. -/
def checkError (parameter : Parameter) : Except Error Unit :=
  if parameter.error = 0 then .ok ()
  else .error (.reported (.ofWord parameter.error))

/-- Number of bytes of the wire form. -/
def encodedLength (parameter : Parameter) : Nat :=
  if parameter.isLong then 12 else 8

/-- Write a parameter. -/
def emit (parameter : Parameter) : Emission :=
  .bytes
    ([0x00, 0x01, 0x12, if parameter.isLong then 8 else 4,
      parameter.method,
      UInt8.ofNat
        (parameter.functionType.toByte.toNat * 16
          + parameter.group.toByte.toNat),
      parameter.subfunction, parameter.sequence]
      ++ if parameter.isLong then
          [parameter.dataUnitRef, if parameter.isLast then 0 else 1]
            ++ Word.bytes16 parameter.error
        else
          [])

/-- Read what follows the length of a parameter section. -/
def parseBody
    (method types subfunction sequence : UInt8)
    (rest : Bytes) : Except Error Parameter :=
  match FunctionType.ofByte? (UInt8.ofNat (types.toNat / 16)) with
  | none => .error (.decode .functionType)
  | some functionType =>
      match FunctionGroup.ofByte? (UInt8.ofNat (types.toNat % 16)) with
      | none => .error (.decode .functionGroup)
      | some group =>
          let short : Parameter :=
            { method
              functionType
              group
              subfunction
              sequence
              dataUnitRef := 0
              isLast := true
              error := 0 }
          match rest with
          | [dataUnitRef, more, errorHigh, errorLow] =>
              .ok
                { short with
                  dataUnitRef
                  isLast := more == 0
                  error := Word.ofBytes16 errorHigh errorLow }
          | _ => .ok short

/-- Read a whole parameter section. Its length alone tells the forms apart. -/
def parse : Bytes -> Except Error Parameter
  | 0x00 :: 0x01 :: 0x12 :: length :: method :: types :: subfunction ::
      sequence :: rest =>
      if length.toNat ≠ 4 + rest.length ∨ length ≠ 4 ∧ length ≠ 8 then
        .error (.protocolViolation .userDataLength)
      else
        parseBody method types subfunction sequence rest
  | _ => .error (.protocolViolation .userDataHead)

end Parameter
end UserData
end PlcLink
