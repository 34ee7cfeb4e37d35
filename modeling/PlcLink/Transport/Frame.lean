import PlcLink.Transport.Tpkt
import PlcLink.Transport.Tpdu

/-!
# Frames

A frame is one datagram: a header, a TPDU and, behind a data TPDU, a payload.
A PDU that is longer than a TPDU may be travels in several data frames, of which only
the last ends it.
-/

namespace PlcLink

/-- One datagram in parts. -/
structure Frame where
  header : Tpkt
  tpdu : Tpdu
  payload : Bytes
  deriving DecidableEq, Repr

namespace Frame

/-- The frame of a TPDU and its payload. -/
def ofTpdu (tpdu : Tpdu) (payload : Bytes) : Except Error Frame := do
  let header <- Tpkt.ofPayloadLength (tpdu.encodedLength + payload.length)
  return { header, tpdu, payload }

/-- The data frame of a payload. -/
def ofData (payload : Bytes) (endOfPdu : Bool) : Except Error Frame :=
  ofTpdu (.data { endOfPdu, number := 0 }) payload

/-- Number of bytes of the wire form. -/
def encodedLength (frame : Frame) : Nat :=
  frame.header.encodedLength + frame.tpdu.encodedLength
    + frame.payload.length

/-- Write a frame. The length in its header is written as it is. -/
def emit (frame : Frame) : Emission :=
  frame.header.emit ++ frame.tpdu.emit ++ .bytes frame.payload

/-- The wire form of a frame. -/
def encode (frame : Frame) : Except Error Bytes :=
  frame.emit.result

/-- Read one whole datagram. Only a data TPDU may be followed by a payload. -/
def parse (input : Bytes) : Except Error Frame := do
  let (header, body) <- Tpkt.parse input
  let (tpdu, payload) <- Tpdu.parse body
  if tpdu.type ≠ .data ∧ payload ≠ [] then
    .error (.protocolViolation .payloadWithoutData)
  else
    return { header, tpdu, payload }

end Frame

/-- Cut bytes into pieces of the given size, the last of which may be shorter.
There is always at least one piece, and a size of zero cuts nothing. -/
def pieces (size : Nat) (bytes : Bytes) : List Bytes :=
  let tail := bytes.drop size
  if size = 0 ∨ tail = [] then
    [bytes]
  else
    bytes.take size :: pieces size tail
termination_by bytes.length
decreasing_by
  rename_i cut
  have sizePositive : size ≠ 0 := fun zero => cut (.inl zero)
  have tailPositive : 0 < (bytes.drop size).length :=
    List.length_pos_iff.2 fun empty => cut (.inr empty)
  simp only [List.length_drop] at tailPositive ⊢
  omega

/-- Put every piece of a PDU into a data frame; the last one ends the PDU. -/
def framePieces : List Bytes -> Except Error (List Frame)
  | [] => .ok []
  | [last] => return [<- Frame.ofData last true]
  | piece :: others => do
      let frame <- Frame.ofData piece false
      let frames <- framePieces others
      return frame :: frames

/-- Cut a PDU into data frames whose TPDUs, headers included, are at most
`frameSize` bytes long. -/
def segment (pdu : Bytes) (frameSize : Nat) : Except Error (List Frame) :=
  let chunk := frameSize - Tpdu.dataHeaderLength
  if chunk = 0 then
    .error (.invalidConfiguration .frameSize)
  else
    framePieces (pieces chunk pdu)

end PlcLink
