import Mathlib
import PlcLink.Proofs.Framing.Datagrams
import PlcLink.Proofs.Transport.Frames

/-!
# Streams with noise

The policies of the transport find every frame of a stream again, whatever lies
between the frames, as long as that does not look like the beginning of one.
-/

namespace PlcLink

/-- Bytes in which no datagram seems to begin. -/
def Quiet (bytes : Bytes) : Prop :=
  ¬[0x03, 0x00] <:+: bytes

instance (bytes : Bytes) : Decidable (Quiet bytes) :=
  inferInstanceAs (Decidable ¬_)

namespace Quiet

variable {first : UInt8} {bytes : Bytes}

theorem tail (quiet : Quiet (first :: bytes)) : Quiet bytes :=
  fun begins => quiet (begins.trans (List.suffix_cons first bytes).isInfix)

/-- Quiet bytes do not begin like a datagram, unless they end before that shows
and what follows them goes on so. -/
theorem not_begins {rest : Bytes} (quiet : Quiet (first :: bytes))
    (settled : (first :: bytes).getLast? = some 0x03 ->
      ∃ byte, rest.head? = some byte ∧ byte ≠ 0x00) :
    ¬(first :: (bytes ++ rest)).take 2 <+: [0x03, 0x00] := by
  intro begins
  cases bytes with
  | nil =>
      obtain ⟨rfl, -⟩ := List.cons_prefix_cons.1 begins
      obtain ⟨byte, follows, nonzero⟩ := settled rfl
      obtain ⟨others, rfl⟩ := List.head?_eq_some_iff.1 follows
      obtain ⟨-, isZero⟩ := List.cons_prefix_cons.1 begins
      exact nonzero (List.cons_prefix_cons.1 isZero).1
  | cons second others =>
      obtain ⟨rfl, zeroBegins⟩ := List.cons_prefix_cons.1 begins
      obtain ⟨rfl, -⟩ := List.cons_prefix_cons.1 zeroBegins
      exact quiet ⟨[], others, rfl⟩

end Quiet

/-- What stays in the buffer of noise at its end: a byte with which a datagram
may begin. -/
def unsettled (noise : Bytes) : Bytes :=
  if noise.getLast? = some 0x03 then [0x03] else []

/-- A frame in normal form on its way, behind noise. -/
structure Passage where
  noise : Bytes
  frame : Frame
  /-- The wire form of the frame. -/
  datagram : Bytes
  quiet : Quiet noise
  normal : frame.Normal
  encoded : frame.encode = .ok datagram

namespace Registry

/-- The policy of a type of TPDU. -/
def policyOf : TpduType -> Policy
  | .data => typed "cotp-dt" .data .data
  | .connectRequest => typed "cotp-cr" .connectRequest .connectRequest
  | .connectConfirm => typed "cotp-cc" .connectConfirm .connectConfirm
  | .disconnectRequest =>
      typed "cotp-dr" .disconnectRequest .disconnectRequest

theorem policyOf_mem_transport (type : TpduType) :
    policyOf type ∈ transport.policies := by
  cases type <;> simp [policyOf, transport]

/-- The type at the sixth byte decides between the policies. -/
theorem choose_typed (type : TpduType) (high low indicator : UInt8)
    (tail : Bytes) :
    transport.choose
        (0x03 :: 0x00 :: high :: low :: indicator :: type.toByte :: tail)
      = .found (policyOf type) := by
  cases type <;> rfl

/-- Bytes that do not begin like a datagram are claimed by nobody. -/
theorem choose_eq_nobody {buffer : Bytes}
    (differs : ¬buffer.take 2 <+: [0x03, 0x00]) :
    transport.choose buffer = .nobody := by
  have synchronizes :
      ∀ policy ∈ transport.policies, marker [0x03, 0x00] 0 ∈ policy.begins := by
    decide
  have mismatch (policy : Policy) (member : policy ∈ transport.policies) :
      policy.compareBegin buffer = .mismatch :=
    Policy.compareBegin_eq_mismatch_iff.2
      ⟨_, synchronizes policy member, Marker.compare_eq_mismatch_iff.2 differs⟩
  have noneComparing (state : MatchState) (settled : state ≠ .mismatch) :
      transport.comparing state buffer = [] := by
    rw [List.eq_nil_iff_forall_not_mem]
    intro policy isComparing
    obtain ⟨member, compares⟩ := mem_comparing.1 isComparing
    exact settled (compares.symm.trans (mismatch policy member))
  rw [choose, noneComparing .full (by decide),
    noneComparing .partialMatch (by decide)]
  rfl

/-- Noise is dropped. If it ends with a byte with which a datagram may begin,
what follows has to show that none does. -/
theorem extract_noise {noise rest : Bytes} (quiet : Quiet noise)
    (settled : noise.getLast? = some 0x03 ->
      ∃ byte, rest.head? = some byte ∧ byte ≠ 0x00) :
    transport.extract (noise ++ rest)
      = (transport.extract rest).map
        (Extraction.after { Tally.zero with noiseBytes := noise.length } [])
      := by
  induction noise with
  | nil =>
      have unchanged : Extraction.after Tally.zero [] = id := by
        funext extraction
        rw [Extraction.after, Tally.zero_add]
        rfl
      change _ = (transport.extract rest).map (Extraction.after Tally.zero [])
      rw [unchanged, Except.map_id]
      rfl
  | cons first others inductionHypothesis =>
      have unclaimed := choose_eq_nobody (quiet.not_begins settled)
      have othersSettled : others.getLast? = some 0x03 ->
          ∃ byte, rest.head? = some byte ∧ byte ≠ 0x00 := by
        intro ends
        rw [List.getLast?_cons, ends] at settled
        exact settled rfl
      have counted : Registry.noise
          + { Tally.zero with noiseBytes := others.length }
          = { Tally.zero with noiseBytes := (first :: others).length } := by
        rw [Registry.noise, Tally.mk_add_mk, List.length_cons, Nat.add_comm 1]
        rfl
      rw [List.cons_append, extract_cons_of_nobody unclaimed,
        inductionHypothesis quiet.tail othersSettled, ← counted]
      cases transport.extract rest with
      | error fault => rfl
      | ok extraction =>
          change Except.ok _ = Except.ok _
          rw [Extraction.after_after]
          rfl

/-- Noise at the end of a stream is dropped, up to a byte with which a datagram
may begin. -/
theorem extract_quiet {last : Bytes} (quiet : Quiet last) :
    ∃ needed,
      transport.extract last
        = .ok
          { datagrams := []
            needed
            rest := unsettled last
            tally :=
              { Tally.zero with
                noiseBytes := last.length - (unsettled last).length } } := by
  by_cases ends : last.getLast? = some 0x03
  · obtain ⟨before, rfl⟩ := List.getLast?_eq_some_iff.1 ends
    have beforeQuiet : Quiet before :=
      fun begins => quiet (begins.trans (List.prefix_append _ _).isInfix)
    obtain ⟨needed, waits⟩ : ∃ needed,
        transport.step [0x03] = .wait 0 needed := ⟨_, rfl⟩
    have kept : unsettled (before ++ [0x03]) = [0x03] := if_pos ends
    have dropped : (before ++ [0x03]).length - [(0x03 : UInt8)].length
        = before.length := by
      rw [List.length_append, Nat.add_sub_cancel_right]
    refine ⟨needed, ?_⟩
    rw [kept, dropped,
      extract_noise beforeQuiet fun _ => ⟨0x03, rfl, by decide⟩,
      extract_of_wait waits, Except.map, Extraction.after, Tally.add_zero]
    rfl
  · have nothingKept : unsettled last = [] := if_neg ends
    have quietEnd : transport.extract [] = .ok
        { datagrams := [], needed := 0, rest := [], tally := .zero } := by
      rw [extract]
    have dropped : transport.extract (last ++ []) = _ :=
      extract_noise quiet fun alsoEnds => absurd alsoEnds ends
    refine ⟨0, ?_⟩
    rw [List.append_nil, quietEnd, Except.map, Extraction.after,
      Tally.add_zero] at dropped
    rw [dropped, nothingKept]
    rfl

end Registry

/-! ## Frames -/

namespace Frame.Normal

variable {frame : Frame}

/-- The wire form of a frame is a well-formed datagram. -/
theorem framed (normal : frame.Normal) : Framed frame.wire := by
  have length := frame.length_wire
  have body := frame.tpdu.bodyLength_pos
  obtain ⟨high, low, indicator, tail, shape, announced⟩ := normal.wire_shape
  constructor
  · rw [shape]
    exact ⟨_, rfl⟩
  · rw [shape, Policy.announcedLength, ← shape, announced, if_neg]
    rw [length, Policy.minAnnounced, Tpkt.headerLength, Tpdu.encodedLength]
    omega

/-- A frame at the front is taken under the policy of its TPDU. -/
theorem step_append (normal : frame.Normal) (rest : Bytes) :
    Registry.transport.step (frame.wire ++ rest)
      = .take 0 (Registry.policyOf frame.tpdu.type) frame.wire.length := by
  have longEnough := normal.framed.minAnnounced_le
  have headerThere : Tpkt.headerLength ≤ frame.wire.length :=
    le_trans (by decide) longEnough
  have announced : Policy.announcedLength (frame.wire ++ rest)
      = .known frame.wire.length := by
    rw [Policy.announcedLength_append rest headerThere,
      normal.framed.announced]
  obtain ⟨-, taken⟩ | ⟨short, -⟩ :=
    Registry.stepOf_transport
      (Registry.policyOf_mem_transport frame.tpdu.type)
      (fun _ => announced) longEnough
  · obtain ⟨high, low, indicator, tail, shape, -⟩ := normal.wire_shape
    rw [← taken, shape]
    exact Registry.step_cons_of_found (Registry.choose_typed _ _ _ _ _)
  · rw [List.length_append] at short
    omega

end Frame.Normal

/-! ## Streams -/

namespace Passage

/-- What is received of a passage. -/
def bytes (passage : Passage) : Bytes :=
  passage.noise ++ passage.datagram

/-- What is taken from a passage. -/
def received (passage : Passage) : Datagram :=
  { policy := Registry.policyOf passage.frame.tpdu.type
    content := passage.datagram }

theorem datagram_eq (passage : Passage) :
    passage.datagram = passage.frame.wire :=
  Except.ok.inj (passage.encoded.symm.trans passage.frame.encode_eq)

theorem frame_received (passage : Passage) :
    passage.received.frame = .ok passage.frame := by
  rw [Datagram.frame, received, datagram_eq]
  exact passage.normal.parse_wire

theorem mapM_frame_received (passages : List Passage) :
    (passages.map received).mapM Datagram.frame
      = .ok (passages.map frame) := by
  apply mapM_eq_ok_of_forall₂
  rw [List.forall₂_map_left_iff, List.forall₂_map_right_iff,
    List.forall₂_same]
  intro passage _
  exact passage.frame_received

/-- Bytes of noise in passages. -/
def noiseLength (passages : List Passage) : Nat :=
  (passages.map fun passage => passage.noise.length).sum

/-- The datagram of a passage is taken, and its noise is dropped. -/
theorem extract_append (passage : Passage) (rest : Bytes) :
    Registry.transport.extract (passage.bytes ++ rest)
      = (Registry.transport.extract rest).map
        (Extraction.after
          { datagrams := 1
            noiseBytes := passage.noise.length
            resyncs := 0 }
          [passage.received]) := by
  have takes := passage.normal.step_append rest
  have member := Registry.policyOf_mem_transport passage.frame.tpdu.type
  -- Even noise that ends like the beginning of a datagram is settled by the
  -- first byte of the datagram behind it.
  have settled : passage.noise.getLast? = some 0x03 ->
      ∃ byte, (passage.datagram ++ rest).head? = some byte ∧ byte ≠ 0x00 := by
    intro _
    obtain ⟨high, low, indicator, tail, shape, -⟩ :=
      passage.normal.wire_shape
    rw [datagram_eq, shape]
    exact ⟨0x03, rfl, by decide⟩
  rw [← datagram_eq] at takes
  rw [bytes, List.append_assoc,
    Registry.extract_noise passage.quiet settled,
    Registry.extract_of_take takes, List.take_left, List.drop_left,
    Registry.strip_transport member]
  cases Registry.transport.extract rest with
  | error fault => rfl
  | ok later =>
      change Except.ok _ = Except.ok _
      rw [Extraction.after_after, Tally.mk_add_mk]
      rfl

/-- What comes of a stream of passages with noise at its end. -/
theorem extract_stream (passages : List Passage) {last : Bytes}
    (quiet : Quiet last) :
    ∃ needed,
      Registry.transport.extract (passages.flatMap bytes ++ last)
        = .ok
          { datagrams := passages.map received
            needed
            rest := unsettled last
            tally :=
              { datagrams := passages.length
                noiseBytes :=
                  noiseLength passages
                    + (last.length - (unsettled last).length)
                resyncs := 0 } } := by
  induction passages with
  | nil =>
      obtain ⟨needed, extracted⟩ := Registry.extract_quiet quiet
      refine ⟨needed, extracted.trans ?_⟩
      simp [noiseLength, Tally.zero]
  | cons passage others inductionHypothesis =>
      obtain ⟨needed, extracted⟩ := inductionHypothesis
      refine ⟨needed, ?_⟩
      rw [List.flatMap_cons, List.append_assoc, extract_append, extracted,
        Except.map, Extraction.after, Tally.mk_add_mk, Nat.zero_add,
        ← Nat.add_assoc, Nat.add_comm 1]
      rfl

end Passage

namespace Registry

variable {registry : Registry}

/-- What is extracted from a whole stream is extracted from its chunks. -/
theorem exists_extractEach {chunks : List Bytes} {extraction : Extraction}
    (extracted : registry.extract chunks.flatten = .ok extraction) :
    ∃ passes,
      registry.extractEach [] .zero chunks = .ok passes
        ∧ StreamRecord.ofChunks [] .zero passes
          = .ofExtraction .zero extraction := by
  have chunking := registry.extract_chunking.1 chunks
  rw [extracted] at chunking
  exact exists_of_map_eq_ok chunking

/-- Headers that announce an impossible length stay counted. -/
theorem resyncs_le_ofChunks {left : Bytes} {tally : Tally}
    {chunks : List Bytes} {passes : List ChunkExtraction}
    (extracted : registry.extractEach left tally chunks = .ok passes) :
    tally.resyncs ≤ (StreamRecord.ofChunks left tally passes).tally.resyncs
      ∧ ∀ pass ∈ passes,
        pass.total.resyncs
          ≤ (StreamRecord.ofChunks left tally passes).tally.resyncs := by
  induction chunks generalizing left tally passes with
  | nil =>
      cases Except.ok.inj extracted
      exact ⟨le_rfl, by simp⟩
  | cons chunk chunks inductionHypothesis =>
      obtain ⟨extraction, -, extracted⟩ := exists_of_bind_eq_ok extracted
      obtain ⟨later, laterExtracted, isList⟩ :=
        exists_of_bind_eq_ok extracted
      cases Except.ok.inj isList
      obtain ⟨below, laterBelow⟩ := inductionHypothesis laterExtracted
      have grows :
          tally.resyncs ≤ (tally + extraction.tally).resyncs :=
        Nat.le_add_right _ _
      exact ⟨grows.trans below, List.forall_mem_cons.2 ⟨below, laterBelow⟩⟩

end Registry

namespace Passage

/-- Half a begin marker before a data frame that carries a whole one. -/
def dataBehindHalf : Passage :=
  { noise := [0x00, 0x03]
    frame :=
      { header := { version := 3, reserved := 0, length := 9 }
        tpdu := .data { endOfPdu := true, number := 5 }
        payload := [0x03, 0x00] }
    datagram := [0x03, 0x00, 0x00, 0x09, 0x02, 0xF0, 0x85, 0x03, 0x00]
    quiet := by decide
    normal := ⟨rfl, (by decide : (5 : UInt8) < 128), by decide⟩
    encoded := rfl }

/-- A zero before a confirmed connection. -/
def confirmBehindZero : Passage :=
  { noise := [0x00]
    frame :=
      { header := { version := 3, reserved := 0, length := 14 }
        tpdu :=
          .connectConfirm
            { destinationRef := 1
              sourceRef := 2
              classOption := 0
              sizeCode? := some 10
              sourceTsap? := none
              destinationTsap? := none }
        payload := [] }
    datagram :=
      [0x03, 0x00, 0x00, 0x0E, 0x09, 0xD0, 0x00, 0x01, 0x00, 0x02, 0x00,
        0xC0, 0x01, 0x0A]
    quiet := by decide
    normal := ⟨rfl, trivial, by decide⟩
    encoded := rfl }

/-- A stream of both, with half a begin marker at its end. -/
def noisyStream : Bytes :=
  [dataBehindHalf, confirmBehindZero].flatMap bytes ++ [0x2A, 0x03]

end Passage

end PlcLink
