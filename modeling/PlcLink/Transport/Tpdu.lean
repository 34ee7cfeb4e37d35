import PlcLink.Emission

/-!
# Transport protocol data units

A TPDU is a length indicator, a type and a header of that length. Connection
requests and confirms end in a list of parameters, each a code, a length and
that many bytes. A data TPDU is followed by a payload, which is not part of its
header.
-/

namespace PlcLink

/-- What connection requests and confirms carry. -/
structure ConnectParameters where
  destinationRef : UInt16
  sourceRef : UInt16
  classOption : UInt8
  /-- Exponent of the largest TPDU size. -/
  sizeCode? : Option UInt8
  sourceTsap? : Option UInt16
  destinationTsap? : Option UInt16
  deriving DecidableEq, Repr

/-- What a disconnect request carries. -/
structure DisconnectParameters where
  destinationRef : UInt16
  sourceRef : UInt16
  reason : UInt8
  deriving DecidableEq, Repr

/-- What the header of a data TPDU carries. -/
structure DataParameters where
  /-- Whether this TPDU ends the PDU it carries a part of. -/
  endOfPdu : Bool
  number : UInt8
  deriving DecidableEq, Repr

/-- The TPDUs a connection needs. -/
inductive Tpdu
  | connectRequest (parameters : ConnectParameters)
  | connectConfirm (parameters : ConnectParameters)
  | disconnectRequest (parameters : DisconnectParameters)
  | data (parameters : DataParameters)
  deriving DecidableEq, Repr

/-- The types of TPDUs. -/
inductive TpduType
  | connectRequest
  | connectConfirm
  | disconnectRequest
  | data
  deriving DecidableEq, Repr

namespace TpduType

/-- The byte of a type. -/
def toByte : TpduType -> UInt8
  | connectRequest => 0xE0
  | connectConfirm => 0xD0
  | disconnectRequest => 0x80
  | data => 0xF0

/-- The type of a byte. -/
def ofByte? (byte : UInt8) : Option TpduType :=
  match byte.toNat with
  | 0xE0 => some connectRequest
  | 0xD0 => some connectConfirm
  | 0x80 => some disconnectRequest
  | 0xF0 => some data
  | _ => none

/-- The name of a type. -/
def name : TpduType -> String
  | connectRequest => "Cr"
  | connectConfirm => "Cc"
  | disconnectRequest => "Dr"
  | data => "Dt"

end TpduType

namespace TpduSize

/-- The TPDU size of a code: a power of two from 128 to 8192. -/
def ofCode? (code : UInt8) : Option Nat :=
  if 7 ≤ code ∧ code ≤ 13 then some (Nat.pow 2 code.toNat) else none

/-- The code of a TPDU size. -/
def code? (size : Nat) : Option UInt8 :=
  ([7, 8, 9, 10, 11, 12, 13] : List UInt8).find?
    fun code => Nat.pow 2 code.toNat == size

end TpduSize

/-- One parameter of a connection request: its code and its value. -/
abbrev TpduParameter := UInt8 × Bytes

namespace TpduParameter

/-- Code of the TPDU size. -/
def sizeCode : UInt8 := 0xC0

/-- Code of the calling access point. -/
def sourceCode : UInt8 := 0xC1

/-- Code of the called access point. -/
def destinationCode : UInt8 := 0xC2

/-- Write a parameter: its code, its length and its value. -/
def encode (parameter : TpduParameter) : Bytes :=
  parameter.1 :: UInt8.ofNat parameter.2.length :: parameter.2

/-- Read parameters to the end. A value that is cut short is refused; a code
without a length byte at the very end is left over and ignored. -/
def parseAll : Bytes -> Except Error (List TpduParameter)
  | code :: length :: rest =>
      if length.toNat ≤ rest.length then do
        let others <- parseAll (rest.drop length.toNat)
        return (code, rest.take length.toNat) :: others
      else
        .error .invalidFrame
  | _ => .ok []
termination_by bytes => bytes.length
decreasing_by
  simp only [List.length_drop, List.length_cons]
  omega

end TpduParameter

namespace ConnectParameters

/-- The parameters of a client's connection request. -/
def request
    (sourceRef : UInt16)
    (sizeCode : UInt8)
    (sourceTsap destinationTsap : UInt16) : ConnectParameters :=
  { destinationRef := 0
    sourceRef
    classOption := 0
    sizeCode? := some sizeCode
    sourceTsap? := some sourceTsap
    destinationTsap? := some destinationTsap }

/-- The TPDU size in bytes, if one with a valid code is given. -/
def size? (parameters : ConnectParameters) : Option Nat :=
  parameters.sizeCode?.bind TpduSize.ofCode?

/-- Take over one parameter. A code with another length than its own is
unknown, and unknown parameters are skipped. -/
def absorb
    (parameters : ConnectParameters) :
    TpduParameter -> ConnectParameters
  | (code, [value]) =>
      if code = TpduParameter.sizeCode then
        { parameters with sizeCode? := some value }
      else
        parameters
  | (code, [high, low]) =>
      if code = TpduParameter.sourceCode then
        { parameters with sourceTsap? := some (Word.ofBytes16 high low) }
      else if code = TpduParameter.destinationCode then
        { parameters with destinationTsap? := some (Word.ofBytes16 high low) }
      else
        parameters
  | _ => parameters

/-- Read the part of the header after the type. -/
def parse : Bytes -> Except Error ConnectParameters
  | destinationHigh :: destinationLow :: sourceHigh :: sourceLow ::
      classOption :: rest => do
      let found <- TpduParameter.parseAll rest
      return found.foldl absorb
        { destinationRef := Word.ofBytes16 destinationHigh destinationLow
          sourceRef := Word.ofBytes16 sourceHigh sourceLow
          classOption
          sizeCode? := none
          sourceTsap? := none
          destinationTsap? := none }
  | _ => .error .invalidFrame

/-- Number of bytes of the wire form. -/
def encodedLength (parameters : ConnectParameters) : Nat :=
  5 + (if parameters.sizeCode?.isSome then 3 else 0)
    + (if parameters.sourceTsap?.isSome then 4 else 0)
    + (if parameters.destinationTsap?.isSome then 4 else 0)

/-- The parameters that are present, in the order they are written. -/
def present (parameters : ConnectParameters) : List TpduParameter :=
  (parameters.sizeCode?.map
      fun size => (TpduParameter.sizeCode, [size])).toList
    ++ (parameters.sourceTsap?.map
      fun tsap => (TpduParameter.sourceCode, Word.bytes16 tsap)).toList
    ++ (parameters.destinationTsap?.map
      fun tsap => (TpduParameter.destinationCode, Word.bytes16 tsap)).toList

/-- Write the part of the header after the type. -/
def emit (parameters : ConnectParameters) : Emission :=
  .bytes
    (Word.bytes16 parameters.destinationRef
      ++ Word.bytes16 parameters.sourceRef
      ++ parameters.classOption
        :: parameters.present.flatMap TpduParameter.encode)

end ConnectParameters

namespace DisconnectParameters

/-- An ordinary disconnect request of a client. -/
def ordinary : DisconnectParameters :=
  { destinationRef := 0, sourceRef := 1, reason := 0x80 }

/-- Read the part of the header after the type. Parameters must be whole, and
are then ignored. -/
def parse : Bytes -> Except Error DisconnectParameters
  | destinationHigh :: destinationLow :: sourceHigh :: sourceLow ::
      reason :: rest => do
      let _ <- TpduParameter.parseAll rest
      return {
        destinationRef := Word.ofBytes16 destinationHigh destinationLow
        sourceRef := Word.ofBytes16 sourceHigh sourceLow
        reason }
  | _ => .error .invalidFrame

/-- Number of bytes of the wire form. -/
def encodedLength (_ : DisconnectParameters) : Nat := 5

/-- Write the part of the header after the type. -/
def emit (parameters : DisconnectParameters) : Emission :=
  .bytes
    (Word.bytes16 parameters.destinationRef
      ++ Word.bytes16 parameters.sourceRef ++ [parameters.reason])

end DisconnectParameters

namespace DataParameters

/-- Read the part of the header after the type; further bytes are ignored. -/
def parse : Bytes -> Except Error DataParameters
  | byte :: _ =>
      .ok
        { endOfPdu := 128 ≤ byte.toNat
          number := UInt8.ofNat (byte.toNat % 128) }
  | [] => .error .invalidFrame

/-- Number of bytes of the wire form. -/
def encodedLength (_ : DataParameters) : Nat := 1

/-- Write the part of the header after the type. The number keeps its low
seven bits. -/
def emit (parameters : DataParameters) : Emission :=
  .bytes
    [UInt8.ofNat
      (parameters.number.toNat % 128
        + if parameters.endOfPdu then 128 else 0)]

end DataParameters

namespace Tpdu

/-- Number of bytes of the header of a data TPDU. -/
def dataHeaderLength : Nat := 3

/-- The type of a TPDU. -/
def type : Tpdu -> TpduType
  | connectRequest _ => .connectRequest
  | connectConfirm _ => .connectConfirm
  | disconnectRequest _ => .disconnectRequest
  | data _ => .data

/-- Number of bytes after the type. -/
def bodyLength : Tpdu -> Nat
  | connectRequest parameters => parameters.encodedLength
  | connectConfirm parameters => parameters.encodedLength
  | disconnectRequest parameters => parameters.encodedLength
  | data parameters => parameters.encodedLength

/-- Number of bytes of the wire form, a payload not counted. -/
def encodedLength (tpdu : Tpdu) : Nat :=
  2 + tpdu.bodyLength

/-- Write the part of the header after the type. -/
def emitBody : Tpdu -> Emission
  | connectRequest parameters => parameters.emit
  | connectConfirm parameters => parameters.emit
  | disconnectRequest parameters => parameters.emit
  | data parameters => parameters.emit

/-- Write a TPDU. -/
def emit (tpdu : Tpdu) : Emission :=
  if 1 + tpdu.bodyLength < 256 then
    .bytes [UInt8.ofNat (1 + tpdu.bodyLength), tpdu.type.toByte]
      ++ tpdu.emitBody
  else
    .fail (.encode .tpduHeaderTooLong)

/-- Read the part of the header after the type. -/
def parseBody : TpduType -> Bytes -> Except Error Tpdu
  | .connectRequest, body =>
      return .connectRequest (<- ConnectParameters.parse body)
  | .connectConfirm, body =>
      return .connectConfirm (<- ConnectParameters.parse body)
  | .disconnectRequest, body =>
      return .disconnectRequest (<- DisconnectParameters.parse body)
  | .data, body => return .data (<- DataParameters.parse body)

/-- Read one TPDU and hand out what follows its header. The length indicator
is checked before the type. -/
def parse : Bytes -> Except Error (Tpdu × Bytes)
  | indicator :: typeByte :: rest =>
      if indicator.toNat < 1 ∨ 1 + rest.length < indicator.toNat then
        .error (.protocolViolation .tpduLengthIndicator)
      else
        match TpduType.ofByte? typeByte with
        | none => .error (.protocolViolation .tpduType)
        | some type => do
            let tpdu <- parseBody type (rest.take (indicator.toNat - 1))
            return (tpdu, rest.drop (indicator.toNat - 1))
  | input => .error (.insufficientData 2 input.length)

end Tpdu
end PlcLink
