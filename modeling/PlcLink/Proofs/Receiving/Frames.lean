import Mathlib
import PlcLink.Guarded
import PlcLink.Framing.Policy
import PlcLink.Transport.Frame
import PlcLink.Proofs.Session.Fragments
import PlcLink.Proofs.Session.Transfer

/-!
# Guarded reading of datagrams

The fields of a datagram, its frame and the PDU its payload is a part of, read
with a guard at every step. The lengths a datagram announces are bytes or words,
and each is compared with what is there before anything is read by it.
-/

namespace PlcLink
namespace Guarded

/-! ## Fields -/

/-- The fields of a PDU header, as far as they are there. -/
def headerAttributes (payload : Bytes) : Guarded (List (Attribute × Nat)) :=
  if payload.length < Header.plainLength then
    return []
  else do
    if (<- index payload 0) = Header.identifier then
      return [(.pduType, (<- index payload 1).toNat),
        (.reference, (<- word payload 4).toNat),
        (.parameterLength, (<- word payload 6).toNat),
        (.dataLength, (<- word payload 8).toNat)]
    else
      return []

/-- The fields of a datagram. -/
def attributes (policy : Policy) (datagram : Bytes) :
    Guarded (List (Attribute × Nat)) :=
  let length := (Attribute.length, datagram.length)
  if policy.rule ≠ .announced ∨ datagram.length < Policy.minAnnounced then
    return [length]
  else do
    let announced <- word datagram 2
    let type <- index datagram 5
    let fields :=
      [length, (.announcedLength, announced.toNat), (.tpduType, type.toNat)]
    if policy.kind = .data then
      let last <- index datagram 6
      let payload <- after datagram Policy.minAnnounced
      let more <- headerAttributes payload
      return fields ++ (.endOfPdu, last.toNat / 128) :: more
    else
      return fields

theorem headerAttributes_eq (payload : Bytes) :
    headerAttributes payload = .ok (Policy.headerAttributes payload) := by
  match payload with
  | [] | [_] | [_, _] | [_, _, _] | [_, _, _, _] | [_, _, _, _, _]
  | [_, _, _, _, _, _] | [_, _, _, _, _, _, _] | [_, _, _, _, _, _, _, _]
  | [_, _, _, _, _, _, _, _, _] => rfl
  | first :: _ :: _ :: _ :: _ :: _ :: _ :: _ :: _ :: _ :: rest =>
      rw [headerAttributes, if_neg (by simp [Header.plainLength])]
      simp only [index_cons_zero, index_cons_succ, word_cons_zero,
        word_cons_succ, ok_bind, Policy.headerAttributes]
      split <;> rfl

theorem attributes_eq (policy : Policy) (datagram : Bytes) :
    attributes policy datagram = .ok (policy.attributes datagram) := by
  cases rule : policy.rule with
  | endMarker => simp [attributes, Policy.attributes, rule]
  | announced =>
      match datagram with
      | [] | [_] | [_, _] | [_, _, _] | [_, _, _, _] | [_, _, _, _, _]
      | [_, _, _, _, _, _] =>
          simp [attributes, Policy.attributes, rule, Policy.minAnnounced]
      | _ :: _ :: _ :: _ :: _ :: _ :: last :: payload =>
          rw [attributes, if_neg (by simp [rule, Policy.minAnnounced])]
          simp only [index_cons_succ, index_cons_zero, word_cons_succ,
            word_cons_zero, Policy.minAnnounced, after_cons_succ, after_zero,
            headerAttributes_eq, ok_bind, Policy.attributes, rule]
          split <;> rfl

/-! ## Headers -/

/-- Read the header of one whole datagram and hand out what follows it. -/
def readTpkt (input : Bytes) : Guarded (Tpkt × Bytes) :=
  if input.length < Tpkt.headerLength then
    refuse (.insufficientData Tpkt.headerLength input.length)
  else do
    let version <- index input 0
    let reserved <- index input 1
    if version ≠ 3 ∨ reserved ≠ 0 then
      refuse .invalidFrame
    else do
      let length <- word input 2
      if length.toNat < Tpkt.headerLength ∨ length.toNat ≠ input.length then
        refuse .invalidFrame
      else do
        let body <- after input Tpkt.headerLength
        return ({ version, reserved, length }, body)

theorem readTpkt_eq (input : Bytes) :
    readTpkt input = ofResult (Tpkt.parse input) := by
  match input with
  | [] | [_] | [_, _] | [_, _, _] => rfl
  | version :: reserved :: high :: low :: body =>
      have rest :
          after (version :: reserved :: high :: low :: body)
              Tpkt.headerLength
            = .ok body := by
        simp [Tpkt.headerLength]
      have length :
          (version :: reserved :: high :: low :: body).length
            = Tpkt.headerLength + body.length := by
        simp only [List.length_cons, Tpkt.headerLength]
        omega
      rw [readTpkt, if_neg (by rw [length]; omega), length]
      simp only [index_cons_zero, index_cons_succ, word_cons_zero,
        word_cons_succ, rest, ok_bind, Tpkt.parse]
      split
      · rfl
      · split
        · rename_i wrong
          rw [if_pos (by omega)]
          rfl
        · rename_i right
          rw [if_neg (by omega)]
          rfl

/-! ## Parameters -/

variable {state : Type}

/-- Deal with the parameters of a TPDU from a place on, one after the other. A
value that is cut short is refused. -/
def eachParameter
    (data : Bytes)
    (take : state -> UInt8 -> Bytes -> Guarded state) :
    Nat -> Nat -> state -> Guarded state
  | 0, _, _ => crash .endless
  | rounds + 1, place, before => do
      let start <- add (2 ^ 64) place 2
      if data.length < start then
        return before
      else do
        let code <- index data place
        let length <- index data (<- add (2 ^ 64) place 1)
        let stop <- add (2 ^ 64) start length.toNat
        if data.length < stop then
          refuse .invalidFrame
        else do
          let value <- slice data start stop
          eachParameter data take rounds stop (<- take before code value)

/-- Take over one parameter of a connection request. -/
def absorb
    (parameters : ConnectParameters)
    (code : UInt8)
    (value : Bytes) : Guarded ConnectParameters :=
  if code = TpduParameter.sizeCode ∧ value.length = 1 then do
    let size <- index value 0
    return { parameters with sizeCode? := some size }
  else if code = TpduParameter.sourceCode ∧ value.length = 2 then do
    let tsap <- word value 0
    return { parameters with sourceTsap? := some tsap }
  else if code = TpduParameter.destinationCode ∧ value.length = 2 then do
    let tsap <- word value 0
    return { parameters with destinationTsap? := some tsap }
  else
    return parameters

theorem absorb_eq (parameters : ConnectParameters) (code : UInt8)
    (value : Bytes) :
    absorb parameters code value = .ok (parameters.absorb (code, value)) := by
  match value with
  | [] => simp [absorb, ConnectParameters.absorb]
  | [size] =>
      simp [absorb, ConnectParameters.absorb]
      split <;> rfl
  | [high, low] =>
      simp [absorb, ConnectParameters.absorb]
      split
      · rfl
      · split <;> rfl
  | _ :: _ :: _ :: _ => simp [absorb, ConnectParameters.absorb]

/-- Parameters are found where a reader of the rest finds them, as far as their
places are numbers. -/
theorem eachParameter_eq {data : Bytes}
    {take : state -> UInt8 -> Bytes -> Guarded state}
    {step : state -> TpduParameter -> state}
    (takes : ∀ before code value,
      take before code value = .ok (step before (code, value)))
    (fits : data.length + 257 < 2 ^ 64) {rounds place : Nat}
    (within : place ≤ data.length) (enough : data.length < place + rounds)
    (before : state) :
    eachParameter data take rounds place before
      = ofResult ((TpduParameter.parseAll (data.drop place)).map
          fun found => found.foldl step before) := by
  induction rounds generalizing place before with
  | zero => omega
  | succ rounds inductionHypothesis =>
      rw [eachParameter, add_eq (by omega), ok_bind]
      split
      · rename_i short
        rw [TpduParameter.parseAll_of_short (by rw [List.length_drop]; omega)]
        rfl
      · rename_i there
        have codeThere : place < data.length := by omega
        have lengthThere : place + 1 < data.length := by omega
        have lengthBound := data[place + 1].toNat_lt
        rw [index_eq codeThere, ok_bind, add_eq (by omega), ok_bind,
          index_eq lengthThere, ok_bind, add_eq (by omega), ok_bind,
          List.drop_eq_getElem_cons codeThere,
          List.drop_eq_getElem_cons lengthThere, TpduParameter.parseAll,
          List.length_drop]
        split
        · rename_i cut
          rw [if_neg (by omega)]
          rfl
        · rename_i whole
          rw [if_pos (by omega), slice_eq (by omega) (by omega), ok_bind,
            takes, ok_bind, inductionHypothesis (by omega) (by omega),
            List.drop_drop, Nat.add_sub_cancel_left]
          cases TpduParameter.parseAll (data.drop _) with
          | error error => rfl
          | ok others => rfl

/-! ## TPDUs -/

/-- Read what follows the type of a connection request or confirm. -/
def readConnect (body : Bytes) : Guarded ConnectParameters :=
  if body.length < 5 then
    refuse .invalidFrame
  else do
    let destinationRef <- word body 0
    let sourceRef <- word body 2
    let classOption <- index body 4
    let parameters <- after body 5
    eachParameter parameters absorb (parameters.length + 1) 0
      { destinationRef
        sourceRef
        classOption
        sizeCode? := none
        sourceTsap? := none
        destinationTsap? := none }

/-- Read what follows the type of a disconnect request. -/
def readDisconnect (body : Bytes) : Guarded DisconnectParameters :=
  if body.length < 5 then
    refuse .invalidFrame
  else do
    let parameters <- after body 5
    eachParameter parameters (fun _ _ _ => .ok ()) (parameters.length + 1) 0 ()
    return {
      destinationRef := <- word body 0
      sourceRef := <- word body 2
      reason := <- index body 4 }

/-- Read what follows the type of a TPDU. -/
def readBody : TpduType -> Bytes -> Guarded Tpdu
  | .connectRequest, body => return .connectRequest (<- readConnect body)
  | .connectConfirm, body => return .connectConfirm (<- readConnect body)
  | .disconnectRequest, body =>
      return .disconnectRequest (<- readDisconnect body)
  | .data, body => return .data (<- ofResult (DataParameters.parse body))

/-- Read one TPDU and hand out what follows its header. -/
def readTpdu (input : Bytes) : Guarded (Tpdu × Bytes) :=
  if input.length < 2 then
    refuse (.insufficientData 2 input.length)
  else do
    let indicator <- index input 0
    let total <- add (2 ^ 64) 1 indicator.toNat
    if indicator.toNat < 1 ∨ input.length < total then
      refuse (.protocolViolation .tpduLengthIndicator)
    else do
      let body <- slice input 2 total
      let rest <- after input total
      match TpduType.ofByte? (<- index input 1) with
      | none => refuse (.protocolViolation .tpduType)
      | some type => return (<- readBody type body, rest)

variable {body : Bytes}

theorem readConnect_eq (fits : body.length + 257 < 2 ^ 64) :
    readConnect body = ofResult (ConnectParameters.parse body) := by
  match body with
  | [] | [_] | [_, _] | [_, _, _] | [_, _, _, _] => rfl
  | destinationHigh :: destinationLow :: sourceHigh :: sourceLow ::
      classOption :: rest =>
      simp only [List.length_cons] at fits
      rw [readConnect, if_neg (by simp)]
      simp only [word_cons_zero, word_cons_succ, index_cons_zero,
        index_cons_succ, after_cons_succ, after_zero, ok_bind]
      rw [eachParameter_eq absorb_eq (by omega) (Nat.zero_le _) (by omega)]
      rfl

theorem readDisconnect_eq (fits : body.length + 257 < 2 ^ 64) :
    readDisconnect body = ofResult (DisconnectParameters.parse body) := by
  match body with
  | [] | [_] | [_, _] | [_, _, _] | [_, _, _, _] => rfl
  | destinationHigh :: destinationLow :: sourceHigh :: sourceLow ::
      reason :: rest =>
      simp only [List.length_cons] at fits
      rw [readDisconnect, if_neg (by simp)]
      simp only [word_cons_zero, word_cons_succ, index_cons_zero,
        index_cons_succ, after_cons_succ, after_zero, ok_bind]
      let ignore : Unit -> TpduParameter -> Unit := fun _ _ => ()
      have ignored : ∀ before code value,
          (.ok () : Guarded Unit) = .ok (ignore before (code, value)) :=
        fun _ _ _ => rfl
      rw [eachParameter_eq ignored (by omega) (Nat.zero_le _) (by omega),
        List.drop_zero, DisconnectParameters.parse]
      cases TpduParameter.parseAll rest with
      | error error => rfl
      | ok found => rfl

theorem readBody_eq (fits : body.length + 257 < 2 ^ 64) (type : TpduType) :
    readBody type body = ofResult (Tpdu.parseBody type body) := by
  cases type with
  | connectRequest =>
      simp only [readBody, Tpdu.parseBody, readConnect_eq fits, ofResult_bind,
        ofResult_pure]
  | connectConfirm =>
      simp only [readBody, Tpdu.parseBody, readConnect_eq fits, ofResult_bind,
        ofResult_pure]
  | disconnectRequest =>
      simp only [readBody, Tpdu.parseBody, readDisconnect_eq fits,
        ofResult_bind, ofResult_pure]
  | data => simp only [readBody, Tpdu.parseBody, ofResult_bind, ofResult_pure]

/-- The length indicator is a byte, so that the header it measures is short. -/
theorem readTpdu_eq (input : Bytes) :
    readTpdu input = ofResult (Tpdu.parse input) := by
  match input with
  | [] | [_] => rfl
  | indicator :: typeByte :: rest =>
      have indicatorBound := indicator.toNat_lt
      have length : (indicator :: typeByte :: rest).length = rest.length + 2 :=
        rfl
      rw [readTpdu, if_neg (by rw [length]; omega), length, index_cons_zero,
        ok_bind, add_eq (by omega), ok_bind, Tpdu.parse]
      split
      · rename_i wrong
        rw [if_pos (by omega)]
        rfl
      · rename_i right
        have header :
            slice (indicator :: typeByte :: rest) 2 (1 + indicator.toNat)
              = .ok (rest.take (indicator.toNat - 1)) := by
          rw [slice_eq (by omega) (by rw [length]; omega)]
          congr 2
          omega
        have behind :
            after (indicator :: typeByte :: rest) (1 + indicator.toNat)
              = .ok (rest.drop (indicator.toNat - 1)) := by
          rw [show 1 + indicator.toNat = indicator.toNat - 1 + 1 + 1 by omega,
            after_cons_succ, after_cons_succ, after_eq (by omega)]
        rw [if_neg (by omega), header, ok_bind, behind, ok_bind,
          index_cons_succ, index_cons_zero, ok_bind]
        cases TpduType.ofByte? typeByte with
        | none => rfl
        | some type =>
            have short : (rest.take (indicator.toNat - 1)).length + 257
                < 2 ^ 64 := by
              rw [List.length_take]
              omega
            simp only [readBody_eq short, ofResult_bind, ofResult_pure]

/-! ## Frames -/

/-- Read one whole datagram. Nothing is left behind its payload. -/
def readFrame (input : Bytes) : Guarded Frame := do
  let (header, body) <- readTpkt input
  let (tpdu, payload) <- readTpdu body
  if tpdu.type ≠ .data ∧ payload ≠ [] then
    refuse (.protocolViolation .payloadWithoutData)
  else do
    let _ <- after payload payload.length
    return { header, tpdu, payload }

theorem readFrame_eq (input : Bytes) :
    readFrame input = ofResult (Frame.parse input) := by
  rw [readFrame, Frame.parse, readTpkt_eq, ofResult_bind]
  congr 1
  funext read
  obtain ⟨header, body⟩ := read
  dsimp only
  rw [readTpdu_eq, ofResult_bind]
  congr 1
  funext read
  obtain ⟨tpdu, payload⟩ := read
  dsimp only
  rw [after_eq le_rfl]
  split <;> rfl

/-! ## Payloads -/

/-- Put a payload behind those of a PDU that was begun, in a buffer that can
grow to half of all addresses. -/
def extend
    (reassembler : Reassembler)
    (begun payload : Bytes)
    (isLast : Bool) : Guarded (Reassembler × Reassembled) := do
  let length <- add (2 ^ 64) begun.length payload.length
  if reassembler.ceiling < length then
    let state := if isLast then .between else .dropping
    return ({ reassembler with state }, .overflow length)
  else do
    let _ <- add (2 ^ 63) begun.length payload.length
    if isLast then
      return ({ reassembler with state := .between },
        .complete (begun ++ payload))
    else
      return ({ reassembler with state := .gathering (begun ++ payload) },
        .pending)

/-- Take in one payload. The buffer of a new PDU has room for two like its first
one. -/
def push
    (reassembler : Reassembler)
    (payload : Bytes)
    (isLast : Bool) : Guarded (Reassembler × Reassembled) :=
  match reassembler.state with
  | .dropping =>
      return ({ reassembler with
          state := if isLast then .between else .dropping }, .pending)
  | .between =>
      if isLast then
        return (reassembler, .complete payload)
      else do
        let _ <- mul (2 ^ 63) payload.length 2
        extend reassembler [] payload isLast
  | .gathering begun => extend reassembler begun payload isLast

/-- Take in payloads one after the other. -/
def pushAll (reassembler : Reassembler) :
    List (Bytes × Bool) -> Guarded (Reassembler × List Reassembled)
  | [] => return (reassembler, [])
  | (payload, isLast) :: parts => do
      let (next, outcome) <- push reassembler payload isLast
      let (final, outcomes) <- pushAll next parts
      return (final, outcome :: outcomes)

end Guarded

namespace Reassembler

/-- Number of bytes gathered of a PDU that was begun. -/
def gathered (reassembler : Reassembler) : Nat :=
  match reassembler.state with
  | .gathering begun => begun.length
  | .between | .dropping => 0

theorem gathered_extend (reassembler : Reassembler) (begun payload : Bytes)
    (isLast : Bool) :
    (reassembler.extend begun payload isLast).1.gathered
      ≤ begun.length + payload.length := by
  unfold extend
  dsimp only
  split
  · cases isLast <;> exact Nat.zero_le _
  · split
    · exact Nat.zero_le _
    · simp only [gathered, List.length_append, le_refl]

theorem gathered_extend_le_ceiling (reassembler : Reassembler)
    (begun payload : Bytes) (isLast : Bool) :
    (reassembler.extend begun payload isLast).1.gathered
      ≤ reassembler.ceiling := by
  unfold extend
  dsimp only
  split
  · cases isLast <;> exact Nat.zero_le _
  · rename_i below
    split
    · exact Nat.zero_le _
    · simp only [gathered, List.length_append]
      omega

/-- A payload adds no more than its own bytes to what is gathered. -/
theorem gathered_push (reassembler : Reassembler) (payload : Bytes)
    (isLast : Bool) :
    (reassembler.push payload isLast).1.gathered
      ≤ reassembler.gathered + payload.length := by
  unfold push
  cases state : reassembler.state with
  | dropping => cases isLast <;> exact Nat.zero_le _
  | between =>
      dsimp only
      split
      · exact Nat.le_add_right _ _
      · apply (gathered_extend reassembler [] payload isLast).trans
        simp
  | gathering begun =>
      simp only [gathered, state]
      exact gathered_extend reassembler begun payload isLast

/-- What is gathered stays below the ceiling. -/
theorem gathered_push_le_ceiling {reassembler : Reassembler}
    (below : reassembler.gathered ≤ reassembler.ceiling) (payload : Bytes)
    (isLast : Bool) :
    (reassembler.push payload isLast).1.gathered ≤ reassembler.ceiling := by
  unfold push
  cases reassembler.state with
  | dropping => cases isLast <;> exact Nat.zero_le _
  | between =>
      dsimp only
      split
      · exact below
      · exact gathered_extend_le_ceiling reassembler [] payload isLast
  | gathering begun =>
      exact gathered_extend_le_ceiling reassembler begun payload isLast

end Reassembler

namespace Guarded

theorem extend_eq {reassembler : Reassembler} {begun payload : Bytes}
    (narrow : begun.length + payload.length < 2 ^ 64)
    (fits : begun.length + payload.length ≤ reassembler.ceiling →
      begun.length + payload.length < 2 ^ 63) (isLast : Bool) :
    extend reassembler begun payload isLast
      = .ok (reassembler.extend begun payload isLast) := by
  rw [extend, add_eq narrow, ok_bind, Reassembler.extend]
  split
  · rfl
  · rename_i below
    rw [add_eq (fits (Nat.le_of_not_lt below)), ok_bind]
    split <;> rfl

theorem push_eq {reassembler : Reassembler} {payload : Bytes}
    (short : payload.length < 2 ^ 62)
    (narrow : reassembler.gathered < 2 ^ 63)
    (fits : reassembler.gathered + payload.length ≤ reassembler.ceiling →
      reassembler.gathered + payload.length < 2 ^ 63) (isLast : Bool) :
    push reassembler payload isLast
      = .ok (reassembler.push payload isLast) := by
  unfold push Reassembler.push
  cases state : reassembler.state with
  | dropping => rfl
  | between =>
      dsimp only
      split
      · rfl
      · rw [mul_eq (by omega), ok_bind]
        apply extend_eq
        · simp only [List.length_nil]
          omega
        · simp only [List.length_nil]
          omega
  | gathering begun =>
      simp only [Reassembler.gathered, state] at narrow fits
      apply extend_eq _ fits
      omega

/-- Payloads are joined as far as they, or the ceiling, fit into a buffer. -/
theorem pushAll_eq {parts : List (Bytes × Bool)} {reassembler : Reassembler}
    (short : ∀ part ∈ parts, part.1.length < 2 ^ 62)
    (below : reassembler.gathered ≤ reassembler.ceiling)
    (fits : min reassembler.ceiling
        (reassembler.gathered + (parts.map (·.1.length)).sum)
      < 2 ^ 63) :
    pushAll reassembler parts = .ok (reassembler.pushAll parts) := by
  induction parts generalizing reassembler with
  | nil => rfl
  | cons part parts inductionHypothesis =>
      obtain ⟨payload, isLast⟩ := part
      obtain ⟨firstShort, othersShort⟩ := List.forall_mem_cons.1 short
      rw [List.map_cons, List.sum_cons] at fits
      dsimp only at firstShort fits
      have grown := reassembler.gathered_push payload isLast
      have still :=
        Reassembler.gathered_push_le_ceiling below payload isLast
      have sameCeiling := reassembler.ceiling_push payload isLast
      rw [pushAll, push_eq firstShort (by omega) (by omega), ok_bind]
      dsimp only
      rw [inductionHypothesis othersShort (by omega) (by omega)]
      rfl

end Guarded
end PlcLink
