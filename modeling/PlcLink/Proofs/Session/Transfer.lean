import Mathlib
import PlcLink.Proofs.Framing.Noise
import PlcLink.Proofs.Transport.Segments

/-!
# PDUs across the transport

PDUs that are cut into data frames and sent one after the other come out of the
reassembler as they were, wherever the stream is cut on its way.
-/

namespace PlcLink

/-! ## Streams of frames -/

/-- A frame with nothing before it. -/
def Passage.plain (frame : Frame) (normal : frame.Normal) : Passage :=
  { noise := []
    frame
    datagram := frame.wire
    quiet := by decide
    normal
    encoded := frame.encode_eq }

theorem Passage.map_pmap_plain {value : Type} {frames : List Frame}
    (normal : ∀ frame ∈ frames, frame.Normal)
    {f : Passage -> value} {g : Frame -> value}
    (same : ∀ frame normal, f (.plain frame normal) = g frame) :
    (frames.pmap Passage.plain normal).map f = frames.map g := by
  rw [List.map_pmap]
  simp only [same, List.pmap_eq_map]

/-- A stream of frames is cut into just these frames. -/
theorem Registry.extractEach_frames {frames : List Frame}
    {chunks : List Bytes} (normal : ∀ frame ∈ frames, frame.Normal)
    (cut : chunks.flatten = (frames.map Frame.wire).flatten) :
    ∃ passes,
      transport.extractEach [] .zero chunks = .ok passes
        ∧ (StreamRecord.ofChunks [] .zero passes).datagrams.map
            Datagram.content
          = frames.map Frame.wire
        ∧ (StreamRecord.ofChunks [] .zero passes).datagrams.mapM
            Datagram.frame
          = .ok frames := by
  let passages := frames.pmap Passage.plain normal
  have bytes : passages.map Passage.bytes = frames.map Frame.wire :=
    Passage.map_pmap_plain normal fun _ _ => rfl
  have contents : (passages.map Passage.received).map Datagram.content
      = frames.map Frame.wire := by
    rw [List.map_map]
    exact Passage.map_pmap_plain normal fun _ _ => rfl
  have isFrames : passages.map Passage.frame = frames := by
    rw [← List.map_id frames]
    exact Passage.map_pmap_plain normal fun _ _ => rfl
  obtain ⟨needed, extracted⟩ :=
    Passage.extract_stream passages (by decide : Quiet [])
  rw [List.append_nil, List.flatMap_def, bytes, ← cut] at extracted
  obtain ⟨passes, succeeded, isRecord⟩ := exists_extractEach extracted
  refine ⟨passes, succeeded, ?_, ?_⟩
  · rw [isRecord]
    exact contents
  · rw [isRecord, ← isFrames]
    exact Passage.mapM_frame_received passages

namespace Reassembled

/-- The PDU that was completed. -/
def pdu? : Reassembled -> Option Bytes
  | complete pdu => some pdu
  | _ => none

end Reassembled

namespace Reassembler

/-- Take in payloads one after the other. -/
def pushAll (reassembler : Reassembler) :
    List (Bytes × Bool) -> Reassembler × List Reassembled
  | [] => (reassembler, [])
  | (payload, isLast) :: parts =>
      let (next, outcome) := reassembler.push payload isLast
      let (final, outcomes) := next.pushAll parts
      (final, outcome :: outcomes)

theorem pushAll_append (reassembler : Reassembler)
    (first second : List (Bytes × Bool)) :
    reassembler.pushAll (first ++ second)
      = let (between, outcomes) := reassembler.pushAll first
        let (final, further) := between.pushAll second
        (final, outcomes ++ further) := by
  induction first generalizing reassembler with
  | nil => rfl
  | cons part parts inductionHypothesis =>
      obtain ⟨payload, isLast⟩ := part
      simp only [List.cons_append, pushAll, inductionHypothesis]

theorem push_gathering (ceiling : Nat) (begun payload : Bytes)
    (isLast : Bool) :
    push { ceiling, state := .gathering begun } payload isLast
      = extend { ceiling, state := .gathering begun } begun payload isLast :=
  rfl

/-- What comes of the pieces of a PDU: one waits for the next, and the last
completes the PDU. -/
def joining (pieces : List Bytes) (pdu : Bytes) : List Reassembled :=
  pieces.tail.map (fun _ => .pending) ++ [.complete pdu]

theorem joining_cons (piece : Bytes) {others : List Bytes} (pdu : Bytes)
    (several : others ≠ []) :
    joining (piece :: others) pdu = .pending :: joining others pdu := by
  obtain ⟨second, rest, rfl⟩ := List.exists_cons_of_ne_nil several
  rfl

/-- The rest of a PDU that was begun. -/
theorem pushAll_gathering {ceiling : Nat} {begun : Bytes}
    {pieces : List Bytes} (nonempty : pieces ≠ [])
    (fits : begun.length + pieces.flatten.length ≤ ceiling) :
    pushAll { ceiling, state := .gathering begun } (marked pieces)
      = (.empty ceiling, joining pieces (begun ++ pieces.flatten)) := by
  induction pieces using marked.induct generalizing begun with
  | case1 => exact absurd rfl nonempty
  | case2 last =>
      rw [List.flatten_singleton] at fits ⊢
      rw [marked, pushAll, push_gathering, extend_of_le fits]
      rfl
  | case3 piece others several inductionHypothesis =>
      rw [List.flatten_cons, List.length_append] at fits
      have pieceFits : begun.length + piece.length ≤ ceiling := by omega
      have restFits :
          (begun ++ piece).length + others.flatten.length ≤ ceiling := by
        rw [List.length_append]
        omega
      rw [marked_cons piece several, pushAll, push_gathering,
        extend_of_le pieceFits, joining_cons _ _ several, List.flatten_cons,
        ← List.append_assoc]
      simp only [Bool.false_eq_true, if_false,
        inductionHypothesis several restFits]

/-- A PDU that is below the ceiling, or that comes in one piece, is completed. -/
theorem pushAll_marked {ceiling : Nat} {pieces : List Bytes}
    (nonempty : pieces ≠ [])
    (fits : pieces.flatten.length ≤ ceiling ∨ pieces.length = 1) :
    (empty ceiling).pushAll (marked pieces)
      = (.empty ceiling, joining pieces pieces.flatten) := by
  cases pieces with
  | nil => exact absurd rfl nonempty
  | cons piece others =>
      by_cases single : others = []
      · subst single
        rw [List.flatten_singleton]
        rfl
      · have several : (piece :: others).length ≠ 1 := by
          have positive := List.length_pos_iff.2 single
          rw [List.length_cons]
          omega
        have restFits := fits.resolve_right several
        rw [List.flatten_cons, List.length_append] at restFits
        have pieceFits :
            ([] : Bytes).length + piece.length ≤ (empty ceiling).ceiling := by
          change 0 + piece.length ≤ ceiling
          omega
        have pushed : (empty ceiling).push piece false
            = ({ ceiling, state := .gathering piece }, .pending) :=
          extend_of_le pieceFits false
        rw [marked_cons piece single, pushAll, pushed,
          joining_cons _ _ single, List.flatten_cons]
        simp only [pushAll_gathering single restFits]

end Reassembler

/-- What comes of the parts of one PDU that was cut. -/
theorem Reassembler.pushAll_parts {ceiling frameSize : Nat} {pdu : Bytes}
    {frames : List Frame}
    (segmented : segment pdu frameSize = .ok frames)
    (fits : pdu.length ≤ ceiling ∨ frames.length = 1) :
    ∃ outcomes,
      (empty ceiling).pushAll (parts frameSize pdu)
          = (.empty ceiling, outcomes)
        ∧ (∀ length, .overflow length ∉ outcomes)
        ∧ outcomes.filterMap Reassembled.pdu? = [pdu] := by
  obtain ⟨positive, made⟩ := segment_eq_ok segmented
  have whole := flatten_pieces positive pdu
  have count := made.length_eq
  rw [parts, ← List.length_map Prod.fst, map_fst_marked] at count
  rw [← whole, ← count] at fits
  refine ⟨_, pushAll_marked (pieces_ne_nil _ _) fits, ?_, ?_⟩
  · simp [joining]
  · rw [joining, List.filterMap_append, whole]
    simp [Reassembled.pdu?]

/-- Nothing of one PDU is left when the next one begins. -/
theorem Reassembler.pushAll_flatten {ceiling frameSize : Nat}
    {pdus : List Bytes} {segments : List (List Frame)}
    (segmented : List.Forall₂
      (fun pdu frames => segment pdu frameSize = .ok frames) pdus segments)
    (fits : List.Forall₂
      (fun pdu frames => pdu.length ≤ ceiling ∨ frames.length = 1)
      pdus segments) :
    ∃ outcomes,
      (empty ceiling).pushAll (pdus.map (parts frameSize)).flatten
          = (.empty ceiling, outcomes)
        ∧ (∀ length, .overflow length ∉ outcomes)
        ∧ outcomes.filterMap Reassembled.pdu? = pdus := by
  induction segmented with
  | nil => exact ⟨[], rfl, by simp, rfl⟩
  | cons first _ inductionHypothesis =>
      obtain _ | ⟨firstFits, fits⟩ := fits
      obtain ⟨outcomes, pushed, noOverflow, completed⟩ :=
        pushAll_parts first firstFits
      obtain ⟨others, othersPushed, noneOverflows, othersCompleted⟩ :=
        inductionHypothesis fits
      refine ⟨outcomes ++ others, ?_, ?_, ?_⟩
      · rw [List.map_cons, List.flatten_cons, pushAll_append, pushed]
        simp only [othersPushed]
      · intro length member
        obtain inFirst | inOthers := List.mem_append.1 member
        · exact noOverflow length inFirst
        · exact noneOverflows length inOthers
      · rw [List.filterMap_append, completed, othersCompleted]
        rfl

/-- Whatever PDUs can be cut into data frames, and however their stream is cut
again, the frames read back and the PDUs come out of the reassembler one by one,
as long as each is below the ceiling or in a single frame. -/
theorem segment_transfer {ceiling frameSize : Nat} {pdus : List Bytes}
    {segments : List (List Frame)}
    (segmented : pdus.mapM (segment · frameSize) = .ok segments)
    (fits : List.Forall₂
      (fun pdu frames => pdu.length ≤ ceiling ∨ frames.length = 1)
      pdus segments) :
    ∃ datagrams,
      segments.flatten.mapM Frame.encode = .ok datagrams
        ∧ ∀ chunks : List Bytes, chunks.flatten = datagrams.flatten ->
          ∃ passes received fragments outcomes,
            Registry.transport.extractEach [] .zero chunks = .ok passes
              ∧ (StreamRecord.ofChunks [] .zero passes).datagrams = received
              ∧ received.mapM Datagram.frame = .ok segments.flatten
              ∧ (received.mapM fun datagram => fragment? datagram.content)
                = some fragments
              ∧ (Reassembler.empty ceiling).pushAll fragments
                = (.empty ceiling, outcomes)
              ∧ (∀ length, .overflow length ∉ outcomes)
              ∧ outcomes.filterMap Reassembled.pdu? = pdus := by
  have cutOne := forall₂_of_mapM_eq_ok segmented
  have made : List.Forall₂
      (fun part frame => Frame.ofData part.1 part.2 = .ok frame)
      (pdus.map (parts frameSize)).flatten segments.flatten := by
    apply List.rel_flatten
    rw [List.forall₂_map_left_iff]
    apply cutOne.imp
    intro pdu frames segmented
    exact (segment_eq_ok segmented).2
  refine ⟨_, Frame.mapM_encode _, ?_⟩
  intro chunks cut
  obtain ⟨passes, succeeded, contents, frames⟩ :=
    Registry.extractEach_frames (Frame.normal_of_mem made) cut
  obtain ⟨outcomes, pushed, noneOverflows, completed⟩ :=
    Reassembler.pushAll_flatten cutOne fits
  have carried := fragments_of_made made
  rw [← contents, List.forall₂_map_right_iff] at carried
  exact ⟨passes, _, _, outcomes, succeeded, rfl, frames,
    mapM_eq_some_of_forall₂ carried.flip, pushed, noneOverflows, completed⟩

/-- An empty PDU, one that fills its frames and one that does not, received
byte by byte. -/
theorem segment_transfer_bytewise :
    ∃ segments,
      [[], [1, 2, 3, 4], [5, 6, 7]].mapM (segment · 5) = .ok segments
        ∧ List.Forall₂
          (fun (pdu : Bytes) frames => pdu.length ≤ 4 ∨ frames.length = 1)
          [[], [1, 2, 3, 4], [5, 6, 7]] segments
        ∧ ∃ datagrams,
          segments.flatten.mapM Frame.encode = .ok datagrams
            ∧ ∃ passes received fragments outcomes,
              Registry.transport.extractEach [] .zero
                  (datagrams.flatten.map fun byte => [byte])
                = .ok passes
                ∧ (StreamRecord.ofChunks [] .zero passes).datagrams = received
                ∧ (received.mapM fun datagram => fragment? datagram.content)
                  = some fragments
                ∧ (Reassembler.empty 4).pushAll fragments
                  = (.empty 4, outcomes)
                ∧ outcomes.filterMap Reassembled.pdu?
                  = [[], [1, 2, 3, 4], [5, 6, 7]] := by
  have cutEmpty : segment [] 5
      = .ok [⟨⟨3, 0, 7⟩, .data ⟨true, 0⟩, []⟩] := by
    rw [segment, pieces_of_drop_eq_nil rfl]
    rfl
  have cutFull : segment [1, 2, 3, 4] 5
      = .ok
        [⟨⟨3, 0, 9⟩, .data ⟨false, 0⟩, [1, 2]⟩,
          ⟨⟨3, 0, 9⟩, .data ⟨true, 0⟩, [3, 4]⟩] := by
    rw [segment, pieces_of_drop_ne_nil (by decide) (by decide),
      pieces_of_drop_eq_nil rfl]
    rfl
  have cutPart : segment [5, 6, 7] 5
      = .ok
        [⟨⟨3, 0, 9⟩, .data ⟨false, 0⟩, [5, 6]⟩,
          ⟨⟨3, 0, 8⟩, .data ⟨true, 0⟩, [7]⟩] := by
    rw [segment, pieces_of_drop_ne_nil (by decide) (by decide),
      pieces_of_drop_eq_nil rfl]
    rfl
  obtain ⟨segments, segmented, fits⟩ : ∃ segments,
      [[], [1, 2, 3, 4], [5, 6, 7]].mapM (segment · 5) = .ok segments
        ∧ List.Forall₂
          (fun (pdu : Bytes) frames => pdu.length ≤ 4 ∨ frames.length = 1)
          [[], [1, 2, 3, 4], [5, 6, 7]] segments :=
    ⟨_,
      mapM_eq_ok_of_forall₂
        (.cons cutEmpty (.cons cutFull (.cons cutPart .nil))),
      .cons (.inl (by decide)) (.cons (.inl (by decide))
        (.cons (.inl (by decide)) .nil))⟩
  refine ⟨segments, segmented, fits, ?_⟩
  obtain ⟨datagrams, encoded, transfers⟩ := segment_transfer segmented fits
  have cut : (datagrams.flatten.map fun byte => [byte]).flatten
      = datagrams.flatten := by
    rw [← List.flatMap_def]
    exact List.flatMap_singleton' _
  obtain ⟨passes, received, fragments, outcomes, succeeded, isReceived, -,
    carried, pushed, -, completed⟩ := transfers _ cut
  exact ⟨datagrams, encoded, passes, received, fragments, outcomes, succeeded,
    isReceived, carried, pushed, completed⟩

end PlcLink
