import PlcLink.Pdu.Basic
import PlcLink.UserData.Parameter
import PlcLink.Variable.DataItem

/-!
# Bodies of PDUs

A body is what a PDU says: a setup, a read, a write, a user-data message or a
bare acknowledgement. `Body.toPdu` puts a body into the sections of a PDU and
`Pdu.decode` reads it back from them.
-/

namespace PlcLink

/-- The functions of jobs and of their acknowledgements. -/
inductive Function
  | readVar
  | writeVar
  | setupCommunication
  deriving DecidableEq, Repr

namespace Function

/-- The byte of a function. -/
def toByte : Function -> UInt8
  | readVar => 0x04
  | writeVar => 0x05
  | setupCommunication => 0xF0

/-- The function of a byte. -/
def ofByte? (byte : UInt8) : Option Function :=
  match byte.toNat with
  | 0x04 => some readVar
  | 0x05 => some writeVar
  | 0xF0 => some setupCommunication
  | _ => none

/-- The name of a function. -/
def name : Function -> String
  | readVar => "ReadVar"
  | writeVar => "WriteVar"
  | setupCommunication => "SetupCommunication"

end Function

/-- What two sides agree on when they set communication up. -/
structure Setup where
  /-- Outstanding jobs the calling side may have. -/
  calling : UInt16
  /-- Outstanding jobs the called side accepts. -/
  called : UInt16
  pduSize : UInt16
  deriving DecidableEq, Repr

namespace Setup

/-- The parameter section of a setup. -/
def encode (setup : Setup) : Bytes :=
  [Function.setupCommunication.toByte, 0]
    ++ Word.bytes16 setup.calling
    ++ Word.bytes16 setup.called
    ++ Word.bytes16 setup.pduSize

/-- Read the parameter section of a setup, which has exactly eight bytes. -/
def parse : Bytes -> Except Error Setup
  | [_, _, callingHigh, callingLow, calledHigh, calledLow, sizeHigh,
      sizeLow] =>
      .ok
        { calling := Word.ofBytes16 callingHigh callingLow
          called := Word.ofBytes16 calledHigh calledLow
          pduSize := Word.ofBytes16 sizeHigh sizeLow }
  | _ => .error (.protocolViolation .setupLength)

end Setup

/-- What a PDU says. -/
inductive Body
  | setupRequest (setup : Setup)
  | setupResponse (setup : Setup)
  | readRequest (specs : List VarSpec)
  | readResponse (items : List DataItem)
  | writeRequest (items : List WriteItem)
  | writeResponse (codes : List ReturnCode)
  | userData (parameter : UserData.Parameter) (item? : Option DataItem)
  | ack
  deriving DecidableEq, Repr

namespace Body

/-- The type of the PDU that carries a body. -/
def pduType : Body -> PduType
  | setupRequest _ | readRequest _ | writeRequest _ => .job
  | setupResponse _ | readResponse _ | writeResponse _ => .ackData
  | userData _ _ => .userData
  | ack => .ack

/-- Write a function and a number of items, which must fit a byte. -/
def emitFunctionAndCount (function : Function) (count : Nat) : Emission :=
  if count < 256 then .bytes [function.toByte, UInt8.ofNat count]
  else .fail (.encode .tooManyItems)

/-- Write the parameter section of a body. -/
def emitParameter : Body -> Emission
  | setupRequest setup => .bytes setup.encode
  | setupResponse setup => .bytes setup.encode
  | readRequest specs =>
      emitFunctionAndCount .readVar specs.length ++ VarSpec.emitMany specs
  | readResponse items => emitFunctionAndCount .readVar items.length
  | writeRequest items =>
      emitFunctionAndCount .writeVar items.length
        ++ VarSpec.emitMany (items.map WriteItem.spec)
  | writeResponse codes => emitFunctionAndCount .writeVar codes.length
  | userData parameter _ => parameter.emit
  | ack => .bytes []

/-- Write the data section of a body. -/
def emitData : Body -> Emission
  | readResponse items => DataItem.emitMany items
  | writeRequest items =>
      DataItem.emitMany (items.map WriteItem.toDataItem)
  | writeResponse codes => .bytes (codes.map ReturnCode.toByte)
  | userData _ (some item) => item.emit true
  | _ => .bytes []

/-- The PDU of a body under a job reference. The parameter section is written
before the data section. -/
def toPdu (body : Body) (reference : UInt16) : Except Error Pdu := do
  let parameter <- body.emitParameter.result
  let data <- body.emitData.result
  Pdu.ofSections body.pduType reference parameter data

end Body

namespace Pdu

/-- Read the addresses of a request, which end with the parameter section. -/
def decodeSpecs (count : UInt8) (rest : Bytes) :
    Except Error (List VarSpec) := do
  let (specs, rest) <- VarSpec.parseMany count.toNat rest
  if rest = [] then
    return specs
  else
    .error (.protocolViolation .trailingVarSpecs)

/-- Join addresses and the data items to write there. -/
def joinWrites (specs : List VarSpec) (items : List DataItem) :
    List WriteItem :=
  List.zipWith (fun spec item => { spec, data := item.data }) specs items

/-- Read the item count of a read or a write, and what follows it. -/
def countAndRest : Bytes -> Except Error (UInt8 × Bytes)
  | _ :: count :: rest => .ok (count, rest)
  | parameter => .error (.insufficientData 2 parameter.length)

/-- Read a job. -/
def decodeJob (pdu : Pdu) : Function -> Except Error Body
  | .setupCommunication => return .setupRequest (<- Setup.parse pdu.parameter)
  | .readVar => do
      let (count, rest) <- countAndRest pdu.parameter
      return .readRequest (<- decodeSpecs count rest)
  | .writeVar => do
      let (count, rest) <- countAndRest pdu.parameter
      let specs <- decodeSpecs count rest
      let items <- DataItem.parseAll count.toNat pdu.data
      return .writeRequest (joinWrites specs items)

/-- Read an acknowledgement with data. -/
def decodeReply (pdu : Pdu) : Function -> Except Error Body
  | .setupCommunication =>
      return .setupResponse (<- Setup.parse pdu.parameter)
  | .readVar => do
      let (count, _) <- countAndRest pdu.parameter
      return .readResponse (<- DataItem.parseAll count.toNat pdu.data)
  | .writeVar => do
      let (count, _) <- countAndRest pdu.parameter
      if pdu.data.length ≠ count.toNat then
        .error (.protocolViolation .writeCodeCount)
      else
        return .writeResponse (pdu.data.map ReturnCode.ofByte)

/-- Read a user-data message, which carries at most one item. -/
def decodeUserData (pdu : Pdu) : Except Error Body := do
  let parameter <- UserData.Parameter.parse pdu.parameter
  if pdu.data = [] then
    return .userData parameter none
  else
    let items <- DataItem.parseAll 1 pdu.data
    return .userData parameter items.head?

/-- The function a job or an acknowledgement with data names. -/
def functionOf (pdu : Pdu) : Except Error Function :=
  match pdu.function? with
  | none => .error (.protocolViolation .emptyParameter)
  | some byte =>
      match Function.ofByte? byte with
      | none => .error .unsupportedFunction
      | some function => .ok function

/-- What a PDU says. The header's error word is not looked at. -/
def decode (pdu : Pdu) : Except Error Body :=
  match pdu.header.type with
  | .userData => pdu.decodeUserData
  | .ack => .ok .ack
  | .job => do pdu.decodeJob (<- pdu.functionOf)
  | .ackData => do pdu.decodeReply (<- pdu.functionOf)

end Pdu
end PlcLink
