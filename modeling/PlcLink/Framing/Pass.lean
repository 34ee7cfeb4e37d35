import PlcLink.Framing.Extraction
import PlcLink.Framing.Search

/-!
# Passes over a buffer

Datagrams are taken from a stream in a loop that keeps its buffer and its counts
up to date. All counts are numbers of 64 bits; one that outgrows them is a
fault, and so is an exclusive marker that does not lie within its datagram. As
long as neither happens, the loop comes to the same as `Registry.extract`.
-/

namespace PlcLink
namespace Guarded

/-! ## What is cut out -/

/-- The stretches of a datagram that exclusive markers take up, in order of
their beginnings. -/
def excluded (policy : Policy) (length : Nat) :
    Guarded (List (Nat × Nat)) := do
  let begins <- (policy.begins.filter Marker.exclusive).mapM fun marker => do
    return (marker.offset, <- extent marker)
  let ends <-
    (policy.terminator?.filter Marker.exclusive).toList.mapM fun marker => do
      return (<- sub length marker.bytes.length, length)
  return (begins ++ ends).mergeSort fun first second => first.1 ≤ second.1

/-- The bytes from a place on that lie in none of the stretches. -/
def cutOut (datagram : Bytes) :
    Nat -> List (Nat × Nat) -> Guarded Bytes
  | place, [] =>
      if place < datagram.length then after datagram place else return []
  | place, (start, stop) :: stretches => do
      let kept <-
        if place < start then slice datagram place start else .ok []
      return kept ++ (<- cutOut datagram (max place stop) stretches)

/-- A datagram without the bytes of exclusive markers. -/
def strip (policy : Policy) (datagram : Bytes) : Guarded Bytes := do
  let stretches <- excluded policy datagram.length
  if stretches = [] then
    return datagram
  else
    cutOut datagram 0 stretches

/-! ## The loop -/

/-- What a pass over a buffer keeps up to date. -/
structure Pass where
  buffer : Bytes
  /-- Bytes that left the buffer. -/
  consumed : Nat
  /-- Datagrams taken, the oldest first. -/
  datagrams : List Datagram
  /-- Impossible lengths since the last datagram. -/
  streak : Nat
  /-- The tally of the stream. -/
  total : Tally

/-- Nothing received. -/
def Pass.fresh : Pass :=
  { buffer := []
    consumed := 0
    datagrams := []
    streak := 0
    total := .zero }

/-- The next pass, over what is left and the bytes that followed. -/
def Pass.next (pass : Pass) (bytes : Bytes) : Pass :=
  { pass with
    buffer := pass.buffer ++ bytes
    consumed := 0
    datagrams := [] }

/-- Discard so many bytes as noise. -/
def discard (pass : Pass) (count : Nat) : Guarded Pass :=
  if count = 0 then
    return pass
  else do
    return {
      pass with
      buffer := <- after pass.buffer count
      consumed := <- add UInt64.size pass.consumed count
      total := {
        pass.total with
        noiseBytes := <- add UInt64.size pass.total.noiseBytes count } }

/-- Deal with the front of a buffer at which a policy was found. With the pass
comes the number of bytes that are missing, if it ends. -/
def collect (policy : Policy) (pass : Pass) : Guarded (Pass × Option Nat) := do
  let minimum <- minimumSize policy
  if pass.buffer.length < minimum then
    return (pass, some (<- sub minimum pass.buffer.length))
  else do
    match <- datagramLength policy pass.buffer with
    | .needMore count => return (pass, some count)
    | .known length =>
        if length ≤ pass.buffer.length then do
          let raw <- before pass.buffer length
          let next : Pass :=
            { buffer := <- after pass.buffer length
              consumed := <- add UInt64.size pass.consumed length
              streak := 0
              total := {
                pass.total with
                datagrams := <- add UInt64.size pass.total.datagrams 1 }
              datagrams :=
                pass.datagrams ++ [{ policy, content := <- strip policy raw }] }
          return (next, none)
        else
          return (pass, some (<- sub length pass.buffer.length))
    | .invalid =>
        let pass : Pass :=
          { pass with
            streak := <- add UInt64.size pass.streak 1
            total := {
              pass.total with
              resyncs := <- add UInt64.size pass.total.resyncs 1 } }
        return (<- discard pass (min minimum pass.buffer.length), none)

/-- One round of the loop. -/
def round (registry : Registry) (pass : Pass) :
    Guarded (Pass × Option Nat) :=
  if pass.buffer = [] then
    return (pass, some 0)
  else do
    match <- select registry pass.buffer with
    | .nobody => return (<- discard pass pass.buffer.length, some 0)
    | .pending start needed => return (<- discard pass start, some needed)
    | .found start policy => collect policy (<- discard pass start)

/-- Go round until the pass ends. -/
def rounds (registry : Registry) : Nat -> Pass -> Guarded (Pass × Nat)
  | 0, _ => crash .endless
  | more + 1, pass => do
      match <- round registry pass with
      | (pass, some needed) => return (pass, needed)
      | (pass, none) => rounds registry more pass

/-- Make a pass. Each round but the last takes a byte from the buffer. -/
def run (registry : Registry) (pass : Pass) : Guarded (Pass × Nat) :=
  rounds registry (pass.buffer.length + 1) pass

/-- What a pass over a buffer tells. -/
structure Report where
  datagrams : List Datagram
  needed : Nat
  consumed : Nat
  rest : Bytes
  total : Tally

/-- Receive the chunks of a stream and make a pass after each. -/
def extractEach (registry : Registry) (pass : Pass) :
    List Bytes -> Guarded (List Report)
  | [] => return []
  | chunk :: chunks => do
      let (pass, needed) <- run registry (pass.next chunk)
      let later <- extractEach registry pass chunks
      return {
        datagrams := pass.datagrams
        needed
        consumed := pass.consumed
        rest := pass.buffer
        total := pass.total } :: later

end Guarded
end PlcLink
