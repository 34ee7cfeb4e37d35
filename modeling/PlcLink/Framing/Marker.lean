import PlcLink.Bytes

/-!
# Markers

A marker is a byte pattern at a known place of a datagram. Begin markers are
compared at their offset; an end marker is searched from its offset on. All
functions look at a buffer whose first byte is the first of the datagram, and
their sums have no bound: they tell what a marker means. `Guarded.compareAt` and
`Guarded.findFrom?` go by places in the buffer, which are numbers of 64 bits, and
stop with a fault for a marker whose place is none.
-/

namespace PlcLink

/-- Outcome of comparing a pattern with the bytes at hand. -/
inductive MatchState
  | full
  /-- What is there agrees, but the pattern goes on. -/
  | partialMatch
  | mismatch
  deriving DecidableEq, Repr

/-- The name of an outcome. -/
def MatchState.name : MatchState -> String
  | .full => "Full"
  | .partialMatch => "Partial"
  | .mismatch => "Mismatch"

/-- Where the pattern first occurs. The empty pattern occurs everywhere. -/
def firstOccurrence? (pattern : Bytes) : Bytes -> Option Nat
  | [] => if pattern = [] then some 0 else none
  | first :: rest =>
      if pattern.isPrefixOf (first :: rest) then
        some 0
      else
        (firstOccurrence? pattern rest).map (· + 1)

/-- A byte pattern at a known place. -/
structure Marker where
  bytes : Bytes
  offset : Nat
  /-- Whether the pattern is cut out of the datagrams it marks. -/
  exclusive : Bool
  deriving DecidableEq, Repr

namespace Marker

/-- Bytes from the beginning of the datagram to the end of the pattern, however
many. -/
def extent (marker : Marker) : Nat :=
  marker.offset + marker.bytes.length

/-- Compare the pattern with the bytes at its offset, wherever that is. -/
def compare (marker : Marker) (buffer : Bytes) : MatchState :=
  let available := (buffer.drop marker.offset).take marker.bytes.length
  if !available.isPrefixOf marker.bytes then .mismatch
  else if available.length = marker.bytes.length then .full
  else .partialMatch

/-- Where the pattern first occurs at its offset or behind it. The empty
pattern is never found. -/
def find? (marker : Marker) (buffer : Bytes) : Option Nat :=
  if marker.bytes = [] then none
  else
    (firstOccurrence? marker.bytes (buffer.drop marker.offset)).map
      (· + marker.offset)

end Marker
end PlcLink
