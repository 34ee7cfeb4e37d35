import PlcLink.Framing.Pass

/-!
# Receivers

A receiver gathers what a stream brings. Asked for a datagram, it hands out one
that is already there, or else makes a pass over its buffer and sees to it that
there is room for the bytes that are missing.
-/

namespace PlcLink
namespace Guarded

/-- The number of bytes that no buffer can hold. -/
def capacity : Nat := UInt64.size / 2

/-- Make room for so many bytes behind those of a buffer. -/
def reserve (buffer : Bytes) (needed : Nat) : Guarded Unit := do
  if 0 < needed then
    let _ <- add capacity buffer.length needed

/-- What was received and not yet handed out, and what the last pass left. -/
structure Receiver where
  /-- Datagrams taken from the buffer, the oldest first. -/
  ready : List Datagram
  pass : Pass

namespace Receiver

/-- Nothing received. -/
def fresh : Receiver :=
  { ready := [], pass := .fresh }

/-- Receive bytes. -/
def feed (receiver : Receiver) (bytes : Bytes) : Receiver :=
  { receiver with
    pass := {
      receiver.pass with buffer := receiver.pass.buffer ++ bytes } }

/-- Hand out the next datagram, if there is one. -/
def next (receiver : Receiver) (registry : Registry) :
    Guarded (Option Datagram × Receiver) :=
  match receiver.ready with
  | datagram :: ready => .ok (some datagram, { receiver with ready })
  | [] => do
      let (pass, needed) <- run registry (receiver.pass.next [])
      reserve pass.buffer needed
      return (pass.datagrams.head?, { ready := pass.datagrams.tail, pass })

/-- Hand out the next datagram at the end of the stream. When there is none,
what is left in the buffer is dropped. -/
def nextAtEnd (receiver : Receiver) (registry : Registry) :
    Guarded (Option Datagram × Receiver) := do
  match <- receiver.next registry with
  | (none, receiver) =>
      return (none,
        { receiver with pass := { receiver.pass with buffer := [] } })
  | handedOut => return handedOut

/-- Hand out up to so many datagrams, at the end of the stream or before. -/
def takeUpTo (registry : Registry) (atEnd : Bool) :
    Nat -> Receiver -> Guarded (List Datagram × Receiver)
  | 0, receiver => .ok ([], receiver)
  | count + 1, receiver => do
      let handOut := if atEnd then nextAtEnd else next
      match <- handOut receiver registry with
      | (none, receiver) => return ([], receiver)
      | (some datagram, receiver) =>
          let (datagrams, receiver) <- takeUpTo registry atEnd count receiver
          return (datagram :: datagrams, receiver)

/-- Hand out all datagrams that are there. Each takes at least one byte of the
buffer, so that no more can come than there are ready ones and bytes. -/
def takeAll (receiver : Receiver) (registry : Registry) (atEnd : Bool) :
    Guarded (List Datagram × Receiver) :=
  takeUpTo registry atEnd
    (receiver.ready.length + receiver.pass.buffer.length + 1) receiver

end Receiver
end Guarded
end PlcLink
