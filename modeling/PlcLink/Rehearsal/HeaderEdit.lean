import PlcLink.Pdu.Basic

/-!
# Edited headers

A rehearsal can send PDUs whose headers say something else than their sections:
any field of the header can be overwritten.
-/

namespace PlcLink
namespace Rehearsal

/-- The fields of a header to overwrite. -/
structure HeaderEdit where
  error? : Option ErrorCode
  /-- Whether the error field is to be absent. -/
  clearsError : Bool
  reserved? : Option UInt16
  parameterLength? : Option UInt16
  dataLength? : Option UInt16
  reference? : Option UInt16
  deriving DecidableEq, Repr

/-- Overwrite the fields of a header. -/
def HeaderEdit.apply (edit : HeaderEdit) (header : Header) : Header :=
  { type := header.type
    reserved := edit.reserved?.getD header.reserved
    reference := edit.reference?.getD header.reference
    parameterLength := edit.parameterLength?.getD header.parameterLength
    dataLength := edit.dataLength?.getD header.dataLength
    error? := if edit.clearsError then none else edit.error? <|> header.error? }

/-- Overwrite the fields of a PDU's header. -/
def HeaderEdit.applyToPdu (edit : HeaderEdit) (pdu : Pdu) : Pdu :=
  { pdu with header := edit.apply pdu.header }

end Rehearsal
end PlcLink
