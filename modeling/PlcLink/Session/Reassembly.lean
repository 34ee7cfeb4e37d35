import PlcLink.Bytes

/-!
# Joining the payloads of data TPDUs

A PDU arrives in one or more payloads, the last of which is marked. A PDU in
several payloads may not grow beyond a ceiling; the rest of one that does is
dropped up to its marked end.
-/

namespace PlcLink

/-- What came of one payload. -/
inductive Reassembled
  | complete (pdu : Bytes)
  | pending
  /-- The PDU grew beyond the ceiling, to the given length. -/
  | overflow (length : Nat)
  deriving DecidableEq, Repr

/-- Where in a PDU the payloads stand. -/
inductive ReassemblyState
  /-- Between two PDUs. -/
  | between
  | gathering (begun : Bytes)
  /-- In a PDU that is dropped. -/
  | dropping
  deriving DecidableEq, Repr

/-- Joins payloads to PDUs. -/
structure Reassembler where
  /-- Bytes a PDU in several payloads may have. -/
  ceiling : Nat
  state : ReassemblyState
  deriving DecidableEq, Repr

namespace Reassembler

/-- Nothing received. -/
def empty (ceiling : Nat) : Reassembler :=
  { ceiling, state := .between }

/-- Put a payload behind those of a PDU that was begun. -/
def extend
    (reassembler : Reassembler)
    (begun payload : Bytes)
    (isLast : Bool) : Reassembler × Reassembled :=
  let length := begun.length + payload.length
  if reassembler.ceiling < length then
    ({ reassembler with state := if isLast then .between else .dropping },
      .overflow length)
  else if isLast then
    ({ reassembler with state := .between }, .complete (begun ++ payload))
  else
    ({ reassembler with state := .gathering (begun ++ payload) }, .pending)

/-- Take in one payload. A PDU in a single payload is taken as it is. -/
def push
    (reassembler : Reassembler)
    (payload : Bytes)
    (isLast : Bool) : Reassembler × Reassembled :=
  match reassembler.state with
  | .dropping =>
      ({ reassembler with state := if isLast then .between else .dropping },
        .pending)
  | .between =>
      if isLast then (reassembler, .complete payload)
      else reassembler.extend [] payload isLast
  | .gathering begun => reassembler.extend begun payload isLast

end Reassembler
end PlcLink
