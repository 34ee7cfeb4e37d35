import PlcLink.Emission

/-!
# Datagram headers

A datagram begins with four bytes: version 3, a reserved zero and the length of
the whole datagram, these four bytes included.
-/

namespace PlcLink

/-- The four bytes at the front of a datagram. -/
structure Tpkt where
  version : UInt8
  reserved : UInt8
  /-- Length of the datagram, header included. -/
  length : UInt16
  deriving DecidableEq, Repr

namespace Tpkt

/-- Number of bytes of a header. -/
def headerLength : Nat := 4

/-- The header in front of the given number of bytes. -/
def ofPayloadLength (payloadLength : Nat) : Except Error Tpkt :=
  if headerLength + payloadLength < 65536 then
    .ok
      { version := 3
        reserved := 0
        length := UInt16.ofNat (headerLength + payloadLength) }
  else
    .error (.encode .datagramTooLong)

/-- Number of bytes of the wire form. -/
def encodedLength (_ : Tpkt) : Nat := headerLength

/-- Write a header. -/
def emit (header : Tpkt) : Emission :=
  .bytes (header.version :: header.reserved :: Word.bytes16 header.length)

/-- Read the header of one whole datagram and hand out what follows it. The
announced length must be the length of the input. -/
def parse : Bytes -> Except Error (Tpkt × Bytes)
  | version :: reserved :: high :: low :: body =>
      let length := Word.ofBytes16 high low
      if version ≠ 3 ∨ reserved ≠ 0 then
        .error .invalidFrame
      else if length.toNat ≠ headerLength + body.length then
        .error .invalidFrame
      else
        .ok ({ version, reserved, length }, body)
  | input => .error (.insufficientData headerLength input.length)

end Tpkt
end PlcLink
