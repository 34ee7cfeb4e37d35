import PlcLink.Framing.Registry

/-!
# Taking datagrams from a stream

`Registry.extract` takes every complete datagram from the front of a buffer.
Bytes that nobody claims are noise; a header that announces an impossible
length makes its reader skip on. What may become a datagram stays in the buffer.
-/

namespace PlcLink

/-- A datagram taken from the stream. -/
structure Datagram where
  policy : Policy
  /-- Its bytes without those of exclusive markers. -/
  content : Bytes

/-- Counts of what happened to a stream. -/
structure Tally where
  datagrams : Nat
  noiseBytes : Nat
  /-- Headers that announced an impossible length. -/
  resyncs : Nat
  deriving DecidableEq, Repr

namespace Tally

/-- Nothing happened yet. -/
def zero : Tally :=
  { datagrams := 0, noiseBytes := 0, resyncs := 0 }

/-- What happened in two passes. -/
def add (first second : Tally) : Tally :=
  { datagrams := first.datagrams + second.datagrams
    noiseBytes := first.noiseBytes + second.noiseBytes
    resyncs := first.resyncs + second.resyncs }

instance : Add Tally where
  add := add

end Tally

/-- What came of one pass over a buffer. -/
structure Extraction where
  datagrams : List Datagram
  /-- Bytes that must follow before another pass can succeed. -/
  needed : Nat
  /-- What is left of the buffer. -/
  rest : Bytes
  tally : Tally

/-- What to do with the front of a buffer, behind so many bytes of noise. -/
inductive FramingStep
  | wait (noise needed : Nat)
  | take (noise : Nat) (policy : Policy) (length : Nat)
  /-- Skip a datagram that cannot be. -/
  | skip (noise length : Nat)

namespace Registry

/-- What to do with a buffer at whose front a policy was found. -/
def stepOf (policy : Policy) (noise : Nat) (buffer : Bytes) : FramingStep :=
  if buffer.length < policy.minimumSize then
    .wait noise (policy.minimumSize - buffer.length)
  else
    match policy.datagramLength buffer with
    | .known length =>
        if length ≤ buffer.length then .take noise policy length
        else .wait noise (length - buffer.length)
    | .needMore count => .wait noise count
    | .invalid => .skip noise policy.minimumSize

/-- What to do with a buffer. -/
def step (registry : Registry) (buffer : Bytes) : FramingStep :=
  match registry.select buffer with
  | .nobody => .wait buffer.length 0
  | .pending start needed => .wait start needed
  | .found start policy => stepOf policy start (buffer.drop start)

/-- A step never takes nothing. -/
theorem take_pos {registry : Registry} {buffer : Bytes} {noise length : Nat}
    {policy : Policy}
    (taken : registry.step buffer = .take noise policy length) :
    0 < length := by
  unfold step at taken
  split at taken
  · simp at taken
  · simp at taken
  · unfold stepOf at taken
    split at taken
    · simp at taken
    · split at taken
      · rename_i known
        split at taken
        · simp only [FramingStep.take.injEq] at taken
          have := Policy.datagramLength_pos known
          omega
        · simp at taken
      · simp at taken
      · simp at taken

/-- A step never skips nothing. -/
theorem skip_pos {registry : Registry} {buffer : Bytes} {noise length : Nat}
    (skipped : registry.step buffer = .skip noise length) : 0 < length := by
  unfold step at skipped
  split at skipped
  · simp at skipped
  · simp at skipped
  · unfold stepOf at skipped
    split at skipped
    · simp at skipped
    · split at skipped
      · split at skipped <;> simp at skipped
      · simp at skipped
      · rename_i invalid
        simp only [FramingStep.skip.injEq] at skipped
        have := Policy.minimumSize_pos_of_invalid invalid
        omega

/-- Take every complete datagram from the front of a buffer. -/
def extract (registry : Registry) :
    Bytes -> Except ExclusionFault Extraction
  | [] => .ok { datagrams := [], needed := 0, rest := [], tally := .zero }
  | first :: rest =>
      let buffer := first :: rest
      match _found : registry.step buffer with
      | .wait noise needed =>
          .ok
            { datagrams := []
              needed
              rest := buffer.drop noise
              tally := { Tally.zero with noiseBytes := noise } }
      | .take noise policy length => do
          let content <- policy.strip ((buffer.drop noise).take length)
          let later <- registry.extract (buffer.drop (noise + length))
          return {
            later with
            datagrams := { policy, content } :: later.datagrams
            tally :=
              { datagrams := 1, noiseBytes := noise, resyncs := 0 }
                + later.tally }
      | .skip noise length => do
          let later <- registry.extract (buffer.drop (noise + length))
          return {
            later with
            tally :=
              { datagrams := 0, noiseBytes := noise + length, resyncs := 1 }
                + later.tally }
termination_by buffer => buffer.length
decreasing_by
  · have := take_pos _found
    simp only [List.length_drop, List.length_cons]
    omega
  · have := skip_pos _found
    simp only [List.length_drop, List.length_cons]
    omega

/-- What came of one chunk of a stream. -/
structure ChunkExtraction where
  extraction : Extraction
  /-- Bytes that left the buffer. -/
  consumed : Nat
  /-- The tally of the stream up to this chunk. -/
  total : Tally

/-- Append the chunks of a stream to a buffer and extract after each. -/
def extractEach (registry : Registry) (left : Bytes) (tally : Tally) :
    List Bytes -> Except ExclusionFault (List ChunkExtraction)
  | [] => .ok []
  | chunk :: chunks => do
      let buffer := left ++ chunk
      let extraction <- registry.extract buffer
      let total := tally + extraction.tally
      let later <- registry.extractEach extraction.rest total chunks
      return {
        extraction
        consumed := buffer.length - extraction.rest.length
        total } :: later

end Registry
end PlcLink
