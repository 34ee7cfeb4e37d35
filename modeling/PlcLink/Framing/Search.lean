import PlcLink.Framing.Registry
import PlcLink.Guarded

/-!
# Searching for datagrams

Whoever owns the bytes of a buffer is found by places in the buffer, which are
numbers of 64 bits, as are the offsets of markers. A marker may lie so far
behind the beginning of its datagram that its place is no number; looking for it
is a fault. Short of that the search finds what `Registry.select` tells, which
looks at what lies behind each place.
-/

namespace PlcLink
namespace Guarded

/-! ## Markers -/

/-- Bytes from the beginning of the datagram to the end of the pattern. -/
def extent (marker : Marker) : Guarded Nat :=
  add UInt64.size marker.offset marker.bytes.length

/-- Whether so many bytes at a place are not those the pattern begins with. -/
def differs (marker : Marker) (buffer : Bytes) (place available : Nat) :
    Guarded Bool :=
  if available = 0 then
    return false
  else do
    let there <- slice buffer place (<- add UInt64.size place available)
    let expected <- before marker.bytes available
    return there != expected

/-- Compare the pattern with the bytes of a datagram that begins at a place. -/
def compareAt (marker : Marker) (buffer : Bytes) (start : Nat) :
    Guarded MatchState := do
  let place <- add UInt64.size start marker.offset
  let available := min (buffer.length - place) marker.bytes.length
  if <- differs marker buffer place available then
    return .mismatch
  else if available = marker.bytes.length then
    return .full
  else
    return .partialMatch

/-- Compare begin markers one after the other. One that differs settles the
matter. -/
def compareEach (buffer : Bytes) (start : Nat) :
    MatchState -> List Marker -> Guarded MatchState
  | state, [] => return state
  | state, marker :: markers => do
      match <- compareAt marker buffer start with
      | .mismatch => return .mismatch
      | .partialMatch => compareEach buffer start .partialMatch markers
      | .full => compareEach buffer start state markers

/-- Where the pattern first occurs in a datagram that begins at a place, at its
offset or behind it. The empty pattern is never found. -/
def findFrom? (marker : Marker) (buffer : Bytes) (start : Nat) :
    Guarded (Option Nat) := do
  let first <- add UInt64.size start marker.offset
  if marker.bytes = [] then
    return none
  else if buffer.length < (<- add UInt64.size first marker.bytes.length) then
    return none
  else
    match firstOccurrence? marker.bytes (<- after buffer first) with
    | none => return none
    | some place => return some (<- add UInt64.size place marker.offset)

/-! ## Policies -/

/-- Bytes that all begin markers together reach over. -/
def beginExtent (policy : Policy) : Guarded Nat := do
  let extents <- policy.begins.mapM extent
  return extents.foldl max 0

/-- Bytes that must be there before a datagram's length can be found. -/
def minimumSize (policy : Policy) : Guarded Nat := do
  let header <-
    match policy.rule, policy.terminator? with
    | .announced, _ => .ok Policy.minAnnounced
    | .endMarker, none => .ok 0
    | .endMarker, some marker => extent marker
  return max header (<- beginExtent policy)

/-- The length a datagram's header announces. -/
def announcedLength (buffer : Bytes) : Guarded DatagramLength :=
  if buffer.length < Tpkt.headerLength then do
    return .needMore (<- sub Tpkt.headerLength buffer.length)
  else do
    let length := (<- word buffer 2).toNat
    return if length < Policy.minAnnounced then .invalid else .known length

/-- The length of the datagram at the front of the buffer. -/
def datagramLength (policy : Policy) (buffer : Bytes) :
    Guarded DatagramLength :=
  match policy.rule, policy.terminator? with
  | .announced, _ => announcedLength buffer
  | .endMarker, none => return .invalid
  | .endMarker, some marker => do
      match <- findFrom? marker buffer 0 with
      | none => return .needMore 1
      | some place =>
          return .known (<- add UInt64.size place marker.bytes.length)

/-! ## Choices -/

/-- The best policies seen so far. -/
structure Candidates where
  best? : Option Policy
  /-- How far the furthest policy reaches that may still match, and the bytes
  that are missing to confirm it. -/
  pending? : Option (Nat × Nat)

/-- Look at one more policy. -/
def consider (buffer : Bytes) (start : Nat) (seen : Candidates)
    (policy : Policy) : Guarded Candidates := do
  let reach <- beginExtent policy
  match <- compareEach buffer start .full policy.begins with
  | .mismatch => return seen
  | .full =>
      match seen.best? with
      | none => return { seen with best? := some policy }
      | some best =>
          if (<- beginExtent best) < reach then
            return { seen with best? := some policy }
          else
            return seen
  | .partialMatch =>
      let stop <- add UInt64.size start reach
      let pending := (reach, max (stop - buffer.length) 1)
      match seen.pending? with
      | none => return { seen with pending? := some pending }
      | some (other, _) =>
          if other < reach then
            return { seen with pending? := some pending }
          else
            return seen

/-- Who owns the bytes at a place. -/
def chooseAt (registry : Registry) (buffer : Bytes) (start : Nat) :
    Guarded Choice := do
  let seen <- registry.policies.foldlM (consider buffer start)
    { best? := none, pending? := none }
  match seen.best?, seen.pending? with
  | none, none => return .nobody
  | some best, none => return .found best
  | none, some (_, needed) => return .pending needed
  | some best, some (reach, needed) =>
      if (<- beginExtent best) < reach then
        return .pending needed
      else
        return .found best

/-- Who owns the bytes of the buffer, from the first of some places on that
anybody claims. -/
def selectFrom (registry : Registry) (buffer : Bytes) :
    List Nat -> Guarded Selection
  | [] => return .nobody
  | start :: starts => do
      match <- chooseAt registry buffer start with
      | .found policy => return .found start policy
      | .pending needed => return .pending start needed
      | .nobody => selectFrom registry buffer starts

/-- Who owns the bytes of the buffer. -/
def select (registry : Registry) (buffer : Bytes) : Guarded Selection :=
  selectFrom registry buffer (List.range buffer.length)

end Guarded
end PlcLink
