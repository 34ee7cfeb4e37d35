import Mathlib
import PlcLink.Proofs.Session.Fragments
import PlcLink.Proofs.Transport.Frames

/-!
# PDUs in segments

A PDU that is cut into data frames is there as a whole in their datagrams, piece
by piece, and only the last datagram ends it.
-/

namespace PlcLink

/-! ## Pieces -/

section Pieces

variable {size : Nat}

theorem pieces_of_drop_eq_nil {bytes : Bytes}
    (whole : bytes.drop size = []) : pieces size bytes = [bytes] := by
  rw [pieces, if_pos (.inr whole)]

theorem pieces_of_drop_ne_nil {bytes : Bytes} (positive : size ≠ 0)
    (longer : bytes.drop size ≠ []) :
    pieces size bytes
      = bytes.take size :: pieces size (bytes.drop size) := by
  rw [pieces, if_neg (not_or.2 ⟨positive, longer⟩)]

theorem pieces_ne_nil (size : Nat) (bytes : Bytes) :
    pieces size bytes ≠ [] := by
  unfold pieces
  dsimp only
  split <;> exact List.cons_ne_nil _ _

theorem flatten_pieces (positive : size ≠ 0) (bytes : Bytes) :
    (pieces size bytes).flatten = bytes := by
  induction bytes using pieces.induct size with
  | case1 bytes _ uncut =>
      have whole := uncut.resolve_left positive
      rw [pieces_of_drop_eq_nil whole, List.flatten_singleton]
  | case2 bytes tail cut inductionHypothesis =>
      rw [pieces_of_drop_ne_nil positive (not_or.1 cut).2,
        List.flatten_cons, inductionHypothesis, List.take_append_drop]

theorem length_le_of_mem_pieces (positive : size ≠ 0) (bytes : Bytes) :
    ∀ piece ∈ pieces size bytes, piece.length ≤ size := by
  induction bytes using pieces.induct size with
  | case1 bytes _ uncut =>
      have whole := uncut.resolve_left positive
      rw [pieces_of_drop_eq_nil whole, List.forall_mem_singleton]
      exact List.drop_eq_nil_iff.1 whole
  | case2 bytes tail cut inductionHypothesis =>
      rw [pieces_of_drop_ne_nil positive (not_or.1 cut).2,
        List.forall_mem_cons]
      exact ⟨List.length_take_le _ _, inductionHypothesis⟩

end Pieces

/-- The pieces of a PDU, each with a mark that tells whether it is the last. -/
def marked : List Bytes -> List (Bytes × Bool)
  | [] => []
  | [last] => [(last, true)]
  | piece :: others => (piece, false) :: marked others

theorem marked_cons (piece : Bytes) {others : List Bytes}
    (several : others ≠ []) :
    marked (piece :: others) = (piece, false) :: marked others := by
  rw [marked]
  exact several

theorem map_fst_marked (pieces : List Bytes) :
    (marked pieces).map Prod.fst = pieces := by
  induction pieces using marked.induct with
  | case1 => rfl
  | case2 last => rfl
  | case3 piece others several inductionHypothesis =>
      rw [marked_cons piece several, List.map_cons, inductionHypothesis]

/-- The parts in which a PDU travels when a TPDU may be so long. -/
def parts (frameSize : Nat) (pdu : Bytes) : List (Bytes × Bool) :=
  marked (pieces (frameSize - Tpdu.dataHeaderLength) pdu)

theorem length_le_of_mem_parts {frameSize : Nat} {pdu : Bytes}
    {part : Bytes × Bool}
    (positive : frameSize - Tpdu.dataHeaderLength ≠ 0)
    (member : part ∈ parts frameSize pdu) :
    part.1.length ≤ frameSize - Tpdu.dataHeaderLength := by
  have inPieces : part.1 ∈ (parts frameSize pdu).map Prod.fst :=
    List.mem_map_of_mem member
  rw [parts, map_fst_marked] at inPieces
  exact length_le_of_mem_pieces positive pdu _ inPieces

/-! ## Frames -/

theorem framePieces_cons (piece : Bytes) {others : List Bytes}
    (several : others ≠ []) :
    framePieces (piece :: others)
      = do
        let frame <- Frame.ofData piece false
        let frames <- framePieces others
        return frame :: frames := by
  rw [framePieces]
  exact several

theorem framePieces_eq_mapM (pieces : List Bytes) :
    framePieces pieces
      = (marked pieces).mapM fun part => Frame.ofData part.1 part.2 := by
  induction pieces using marked.induct with
  | case1 => rfl
  | case2 last =>
      rw [framePieces, marked, List.mapM_cons, List.mapM_nil]
      rfl
  | case3 piece others several inductionHypothesis =>
      rw [framePieces_cons piece several, marked_cons piece several,
        List.mapM_cons, inductionHypothesis]

variable {frameSize : Nat} {pdu : Bytes} {frames : List Frame}

/-- Each part of a PDU is put into one frame. -/
theorem segment_eq_ok (segmented : segment pdu frameSize = .ok frames) :
    frameSize - Tpdu.dataHeaderLength ≠ 0
      ∧ List.Forall₂
        (fun part frame => Frame.ofData part.1 part.2 = .ok frame)
        (parts frameSize pdu) frames := by
  unfold segment at segmented
  dsimp only at segmented
  split at segmented
  · cases segmented
  · rename_i positive
    rw [framePieces_eq_mapM] at segmented
    exact ⟨positive, forall₂_of_mapM_eq_ok segmented⟩

namespace Frame

variable {payload : Bytes} {isLast : Bool} {frame : Frame}

theorem normal_of_ofData (made : ofData payload isLast = .ok frame) :
    frame.Normal :=
  .of_ofTpdu made (by decide : (0 : UInt8) < 128) fun notData =>
    absurd rfl notData

theorem normal_of_mem {parts : List (Bytes × Bool)} {frames : List Frame}
    (made : List.Forall₂ (fun part frame => ofData part.1 part.2 = .ok frame)
      parts frames) :
    ∀ frame ∈ frames, frame.Normal :=
  forall_mem_of_forall₂ made fun _ _ _ madeOne => normal_of_ofData madeOne

/-- A payload has a frame that its header can announce. -/
theorem exists_ofData (isLast : Bool)
    (fits : Tpkt.headerLength + (Tpdu.dataHeaderLength + payload.length)
      < 65536) :
    ∃ frame, ofData payload isLast = .ok frame := by
  have header : Tpkt.ofPayloadLength
      ((Tpdu.data { endOfPdu := isLast, number := 0 }).encodedLength
        + payload.length)
      = .ok _ := if_pos fits
  rw [ofData, ofTpdu, header]
  exact ⟨_, rfl⟩

/-- The wire form of a data frame carries what the frame was made of. -/
theorem fragment?_wire (made : ofData payload isLast = .ok frame) :
    fragment? frame.wire = some (payload, isLast) := by
  have parsed := (normal_of_ofData made).parse_wire
  obtain ⟨isData, isPayload⟩ := ofTpdu_eq_ok made
  obtain ⟨header, tpdu, content⟩ := frame
  subst isData isPayload
  rw [fragment?, parsed]

end Frame

/-! ## Datagrams -/

/-- The datagrams of the pieces of a PDU join to the PDU. -/
theorem joined?_of_fragments {pieces datagrams : List Bytes}
    (nonempty : pieces ≠ [])
    (carry : List.Forall₂
      (fun part datagram => fragment? datagram = some part)
      (marked pieces) datagrams) :
    joined? datagrams = some pieces.flatten := by
  induction pieces using marked.induct generalizing datagrams with
  | case1 => exact absurd rfl nonempty
  | case2 last =>
      obtain _ | ⟨carries, carry⟩ := carry
      cases carry
      rw [joined?, carries, List.flatten_singleton]
      rfl
  | case3 piece others several inductionHypothesis =>
      rw [marked_cons piece several] at carry
      obtain _ | ⟨carries, carry⟩ := carry
      rw [joined?, carries, inductionHypothesis several carry]
      rfl

/-- The datagrams of frames carry the parts the frames were made of. -/
theorem fragments_of_made {parts : List (Bytes × Bool)} {frames : List Frame}
    (made : List.Forall₂
      (fun part frame => Frame.ofData part.1 part.2 = .ok frame)
      parts frames) :
    List.Forall₂ (fun part datagram => fragment? datagram = some part)
      parts (frames.map Frame.wire) := by
  rw [List.forall₂_map_right_iff]
  apply made.imp
  intro part frame made
  exact frame.fragment?_wire made

/-- The datagrams of a PDU carry just the PDU. -/
theorem joined?_of_segment (segmented : segment pdu frameSize = .ok frames) :
    joined? (frames.map Frame.wire) = some pdu := by
  obtain ⟨positive, made⟩ := segment_eq_ok segmented
  have joined := joined?_of_fragments (pieces_ne_nil _ _)
    (fragments_of_made made)
  rw [flatten_pieces positive] at joined
  exact joined

/-- A PDU can be cut for every size of TPDU that leaves room for a payload and
that a header can announce. -/
theorem exists_segment (pdu : Bytes)
    (room : Tpdu.dataHeaderLength < frameSize)
    (fits : Tpkt.headerLength + frameSize < 65536) :
    ∃ frames, segment pdu frameSize = .ok frames := by
  have positive : frameSize - Tpdu.dataHeaderLength ≠ 0 := by omega
  rw [segment, if_neg positive, framePieces_eq_mapM]
  apply exists_mapM_eq_ok
  intro part member
  apply Frame.exists_ofData
  have short := length_le_of_mem_parts positive member
  omega

/-- The TPDUs of a PDU, their headers included, are no longer than they may be. -/
theorem length_le_of_segment (segmented : segment pdu frameSize = .ok frames) :
    ∀ frame ∈ frames,
      frame.tpdu.type = .data
        ∧ frame.tpdu.encodedLength + frame.payload.length ≤ frameSize := by
  obtain ⟨positive, made⟩ := segment_eq_ok segmented
  refine forall_mem_of_forall₂ made ?_
  intro part member frame madeOne
  obtain ⟨isData, isPayload⟩ := Frame.ofTpdu_eq_ok madeOne
  have short := length_le_of_mem_parts positive member
  rw [isData, isPayload]
  refine ⟨rfl, ?_⟩
  change Tpdu.dataHeaderLength + _ ≤ _
  omega

end PlcLink
