import PlcLink.Emission

/-!
# PDU headers

A PDU begins with ten bytes: an identifier, the type, a reserved word, the job
reference and the lengths of the two sections that follow. Acknowledgements
carry an error word as well, which makes twelve bytes.
-/

namespace PlcLink

/-- The types of PDUs. -/
inductive PduType
  | job
  /-- An acknowledgement without data. -/
  | ack
  /-- An acknowledgement with data. -/
  | ackData
  | userData
  deriving DecidableEq, Repr

namespace PduType

/-- The byte of a type. -/
def toByte : PduType -> UInt8
  | job => 0x01
  | ack => 0x02
  | ackData => 0x03
  | userData => 0x07

/-- The type of a byte. -/
def ofByte? (byte : UInt8) : Option PduType :=
  match byte.toNat with
  | 0x01 => some job
  | 0x02 => some ack
  | 0x03 => some ackData
  | 0x07 => some userData
  | _ => none

/-- The name of a type. -/
def name : PduType -> String
  | job => "Job"
  | ack => "Ack"
  | ackData => "AckData"
  | userData => "UserData"

/-- Whether headers of the type carry an error word. -/
def hasErrorWord : PduType -> Bool
  | ack | ackData => true
  | job | userData => false

end PduType

/-- The header of a PDU. -/
structure Header where
  type : PduType
  reserved : UInt16
  /-- Joins a request and its reply. -/
  reference : UInt16
  parameterLength : UInt16
  dataLength : UInt16
  /-- The error word, for the types that carry one. -/
  error? : Option ErrorCode
  deriving DecidableEq, Repr

namespace Header

/-- The byte every PDU begins with. -/
def identifier : UInt8 := 0x32

/-- Number of bytes without an error word. -/
def plainLength : Nat := 10

/-- Number of bytes with an error word. -/
def ackLength : Nat := 12

/-- A header that reports no error. -/
def ofLengths
    (type : PduType)
    (reference parameterLength dataLength : UInt16) : Header :=
  { type
    reserved := 0
    reference
    parameterLength
    dataLength
    error? := if type.hasErrorWord then some .none else none }

/-- Number of bytes of the wire form. -/
def encodedLength (header : Header) : Nat :=
  if header.type.hasErrorWord then ackLength else plainLength

/-- The error the header reports, if it is one. -/
def reportedError? (header : Header) : Option ErrorCode :=
  header.error?.filter fun code => !code.isSuccess

/-- Write a header. The error word is written for the types that carry one and
for no others. -/
def emit (header : Header) : Emission :=
  .bytes
    ([identifier, header.type.toByte]
      ++ Word.bytes16 header.reserved
      ++ Word.bytes16 header.reference
      ++ Word.bytes16 header.parameterLength
      ++ Word.bytes16 header.dataLength
      ++ if header.type.hasErrorWord then
          Word.bytes16 (header.error?.getD .none).word
        else
          [])

/-- Read a header and hand out what follows it. -/
def parse : Bytes -> Except Error (Header × Bytes)
  | first :: typeByte :: reservedHigh :: reservedLow :: refHigh :: refLow ::
      parameterHigh :: parameterLow :: dataHigh :: dataLow :: rest =>
      if first ≠ identifier then
        .error .invalidFrame
      else
        match PduType.ofByte? typeByte with
        | none => .error (.protocolViolation .pduType)
        | some type =>
            let header : Header :=
              { type
                reserved := Word.ofBytes16 reservedHigh reservedLow
                reference := Word.ofBytes16 refHigh refLow
                parameterLength := Word.ofBytes16 parameterHigh parameterLow
                dataLength := Word.ofBytes16 dataHigh dataLow
                error? := none }
            if type.hasErrorWord then
              match rest with
              | errorClass :: code :: rest =>
                  .ok
                    ({ header with
                       error? := some (.ofBytes errorClass code) }, rest)
              | _ =>
                  .error
                    (.insufficientData ackLength (plainLength + rest.length))
            else
              .ok (header, rest)
  | input => .error (.insufficientData plainLength input.length)

end Header
end PlcLink
