import PlcLink.Pdu.Header

/-!
# PDUs

A PDU is a header and two sections whose lengths the header announces. Reading
and writing a PDU never looks into the sections.
-/

namespace PlcLink

/-- A header with the sections it announces. -/
structure Pdu where
  header : Header
  parameter : Bytes
  data : Bytes
  deriving DecidableEq, Repr

namespace Pdu

/-- The PDU of two sections, each shorter than 65536 bytes. -/
def ofSections
    (type : PduType)
    (reference : UInt16)
    (parameter data : Bytes) : Except Error Pdu :=
  if 65536 ≤ parameter.length then
    .error (.encode .parameterTooLong)
  else if 65536 ≤ data.length then
    .error (.encode .dataTooLong)
  else
    .ok
      { header :=
          .ofLengths type reference (UInt16.ofNat parameter.length)
            (UInt16.ofNat data.length)
        parameter
        data }

/-- The job reference. -/
def reference (pdu : Pdu) : UInt16 :=
  pdu.header.reference

/-- The same PDU under another job reference. -/
def withReference (pdu : Pdu) (reference : UInt16) : Pdu :=
  { pdu with header := { pdu.header with reference } }

/-- The first byte of the parameter section, which names the function. -/
def function? (pdu : Pdu) : Option UInt8 :=
  pdu.parameter.head?

/-- Fail with the error the header reports, if any. -/
def checkHeader (pdu : Pdu) : Except Error Unit :=
  match pdu.header.reportedError? with
  | some code => .error (.reported code)
  | none => .ok ()

/-- Number of bytes of the wire form. -/
def encodedLength (pdu : Pdu) : Nat :=
  pdu.header.encodedLength + pdu.parameter.length + pdu.data.length

/-- Write a PDU whose header announces its sections as they are. -/
def emit (pdu : Pdu) : Emission :=
  if pdu.header.parameterLength.toNat ≠ pdu.parameter.length
      ∨ pdu.header.dataLength.toNat ≠ pdu.data.length then
    .fail (.encode .sectionLengthsDisagree)
  else
    pdu.header.emit ++ .bytes pdu.parameter ++ .bytes pdu.data

/-- The wire form of a PDU. -/
def encode (pdu : Pdu) : Except Error Bytes :=
  pdu.emit.result

/-- Read one whole PDU. The announced sections must fill the input. -/
def parse (input : Bytes) : Except Error Pdu := do
  let (header, rest) <- Header.parse input
  let parameterLength := header.parameterLength.toNat
  if rest.length ≠ parameterLength + header.dataLength.toNat then
    .error (.protocolViolation .sectionLengths)
  else
    return {
      header
      parameter := rest.take parameterLength
      data := rest.drop parameterLength }

end Pdu
end PlcLink
