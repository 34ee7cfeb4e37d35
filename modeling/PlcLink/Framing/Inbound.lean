import PlcLink.Framing.Extraction
import PlcLink.Transport.Frame

/-!
# The receiving side of a stream

Received bytes gather in a buffer. Asking for a datagram hands out one that is
already there, or else makes a pass over the buffer.
-/

namespace PlcLink

namespace Datagram

/-- The fields of a datagram. -/
def attributes (datagram : Datagram) : List (Attribute × Nat) :=
  datagram.policy.attributes datagram.content

/-- The frame a datagram holds. -/
def frame (datagram : Datagram) : Except Error Frame :=
  Frame.parse datagram.content

end Datagram

/-- What was received and not yet handed out. -/
structure Inbound where
  /-- Datagrams taken from the buffer, the oldest first. -/
  ready : List Datagram
  buffer : Bytes

namespace Inbound

/-- Nothing received. -/
def empty : Inbound :=
  { ready := [], buffer := [] }

/-- Receive bytes. -/
def feed (inbound : Inbound) (bytes : Bytes) : Inbound :=
  { inbound with buffer := inbound.buffer ++ bytes }

/-- Hand out the next datagram, if there is one. -/
def next (inbound : Inbound) (registry : Registry) :
    Except ExclusionFault (Option Datagram × Inbound) :=
  match inbound.ready with
  | datagram :: ready => .ok (some datagram, { inbound with ready })
  | [] => do
      let extraction <- registry.extract inbound.buffer
      match extraction.datagrams with
      | datagram :: ready =>
          return (some datagram, { ready, buffer := extraction.rest })
      | [] => return (none, { ready := [], buffer := extraction.rest })

end Inbound
end PlcLink
