import Mathlib
import PlcLink.Session.Handshake
import PlcLink.Proofs.Session.Negotiation

/-!
# Runs of a handshake

However often a handshake is asked for its request and given TPDUs as confirms,
in whatever order: it builds one request, it takes one confirm, which names the
access points of the request and does not raise the size of the TPDUs, and after
anything else it is broken and stays so.
-/

namespace PlcLink

namespace TpduSize

theorem ofCode?_eq_none_iff {code : UInt8} :
    ofCode? code = none
      ↔ ¬(7 ≤ code.toNat ∧ code.toNat ≤ 13) := by
  simp only [ofCode?, ite_eq_right_iff, reduceCtorEq, imp_false,
    UInt8.le_iff_toNat_le, UInt8.reduceToNat]

theorem toNat_min (first second : UInt8) :
    (min first second).toNat = min first.toNat second.toNat := by
  change (if first ≤ second then first else second).toNat = _
  split
  · rename_i lower
    exact (Nat.min_eq_left (UInt8.le_iff_toNat_le.1 lower)).symm
  · rename_i notLower
    rw [UInt8.le_iff_toNat_le] at notLower
    exact (Nat.min_eq_right (Nat.le_of_not_le notLower)).symm

end TpduSize

/-! ## Calls -/

/-- What a handshake is called for. -/
inductive HandshakeCall
  | request
  | confirm (tpdu : Tpdu)

/-- What a call gives. -/
inductive HandshakeAnswer
  | requested (outcome : Except Error Frame)
  | confirmed (outcome : Except Error Nat)

namespace HandshakeAnswer

/-- Whether a connection request was built. -/
def isRequest : HandshakeAnswer -> Bool
  | requested (.ok _) => true
  | _ => false

/-- Whether the call was refused. -/
def isError : HandshakeAnswer -> Bool
  | requested (.error _) | confirmed (.error _) => true
  | _ => false

end HandshakeAnswer

namespace Handshake

/-- Call a handshake. -/
def call (handshake : Handshake) :
    HandshakeCall -> Handshake × HandshakeAnswer
  | .request =>
      let (next, outcome) := handshake.request
      (next, .requested outcome)
  | .confirm tpdu =>
      let (next, outcome) := handshake.confirm tpdu
      (next, .confirmed outcome)

/-- Call a handshake again and again. -/
def callAll (handshake : Handshake) :
    List HandshakeCall -> Handshake × List HandshakeAnswer
  | [] => (handshake, [])
  | call :: calls =>
      let (next, answer) := handshake.call call
      let (final, answers) := next.callAll calls
      (final, answer :: answers)

/-- The access points of a confirm are the pair echoed or swapped, one of the
two alone, or absent. -/
inductive Names (tsaps : TsapPair) : Option UInt16 -> Option UInt16 -> Prop
  | echoed : Names tsaps tsaps.localPoint.value tsaps.remotePoint.value
  | swapped : Names tsaps tsaps.remotePoint.value tsaps.localPoint.value
  | source {single : UInt16}
      (known : single = tsaps.localPoint.value
        ∨ single = tsaps.remotePoint.value) :
      Names tsaps single none
  | destination {single : UInt16}
      (known : single = tsaps.localPoint.value
        ∨ single = tsaps.remotePoint.value) :
      Names tsaps none single
  | absent : Names tsaps none none

/-- A TPDU grants frames of a size if it is a confirm that names the access
points and whose size code, if there is one, is valid. The smaller one of the
requested code and the granted one counts. -/
inductive Grants (tsaps : TsapPair) (asked : UInt8) : Tpdu -> Nat -> Prop
  | confirm {parameters : ConnectParameters} {frameSize : Nat}
      (names :
        Names tsaps parameters.sourceTsap? parameters.destinationTsap?)
      (valid : ∀ code ∈ parameters.sizeCode?,
        7 ≤ code.toNat ∧ code.toNat ≤ 13)
      (isSize : frameSize
        = 2 ^ min asked.toNat (parameters.sizeCode?.getD asked).toNat) :
      Grants tsaps asked (.connectConfirm parameters) frameSize

variable {handshake : Handshake} {tsaps : TsapPair} {tpdu : Tpdu}
  {frameSize : Nat}

/-! ## Confirms -/

theorem tsapsMatch_iff (tsaps : TsapPair) (parameters : ConnectParameters) :
    tsapsMatch tsaps parameters = true
      ↔ Names tsaps parameters.sourceTsap? parameters.destinationTsap? := by
  unfold tsapsMatch
  constructor
  · intro isMatch
    cases source : parameters.sourceTsap? with
    | none =>
        cases destination : parameters.destinationTsap? with
        | none => exact .absent
        | some single =>
            simp only [source, destination, Bool.or_eq_true, beq_iff_eq]
              at isMatch
            exact .destination isMatch
    | some first =>
        cases destination : parameters.destinationTsap? with
        | none =>
            simp only [source, destination, Bool.or_eq_true, beq_iff_eq]
              at isMatch
            exact .source isMatch
        | some second =>
            simp only [source, destination, Bool.or_eq_true,
              Bool.and_eq_true, beq_iff_eq] at isMatch
            obtain ⟨rfl, rfl⟩ | ⟨rfl, rfl⟩ := isMatch
            · exact .echoed
            · exact .swapped
  · intro names
    generalize parameters.sourceTsap? = source? at names ⊢
    generalize parameters.destinationTsap? = destination? at names ⊢
    cases names with
    | echoed => simp
    | swapped => simp
    | source known => simpa using known
    | destination known => simpa using known
    | absent => rfl

/-- A valid code is taken, and of two codes the smaller one. -/
theorem confirmedCode_eq_ok_iff {asked code : UInt8}
    {confirmed? : Option UInt8} :
    confirmedCode asked confirmed? = .ok code
      ↔ (∀ granted ∈ confirmed?, 7 ≤ granted.toNat ∧ granted.toNat ≤ 13)
        ∧ code.toNat = min asked.toNat (confirmed?.getD asked).toNat := by
  cases confirmed? with
  | none =>
      rw [confirmedCode, Except.ok.injEq, ← UInt8.toNat_inj, eq_comm]
      simp
  | some granted =>
      simp only [confirmedCode, TpduSize.ofCode?_eq_none_iff,
        Option.mem_some_iff, forall_eq', Option.getD_some]
      split
      · rename_i invalid
        exact iff_of_false (nomatch ·) fun taken => invalid taken.1
      · rename_i valid
        rw [Except.ok.injEq, ← UInt8.toNat_inj, TpduSize.toNat_min,
          Nat.min_comm, eq_comm]
        exact (and_iff_right (not_not.1 valid)).symm

theorem accepted_eq_ok_iff :
    handshake.accepted tpdu = .ok frameSize
      ↔ Grants handshake.tsaps handshake.sizeCode tpdu frameSize := by
  constructor
  · intro accepted
    cases tpdu with
    | connectRequest | disconnectRequest | data => cases accepted
    | connectConfirm parameters =>
        unfold Handshake.accepted at accepted
        dsimp only at accepted
        split at accepted
        · rename_i isMatch
          obtain ⟨code, isCode, isSize⟩ := exists_of_bind_eq_ok accepted
          obtain ⟨valid, smaller⟩ := confirmedCode_eq_ok_iff.1 isCode
          apply Grants.confirm ((tsapsMatch_iff _ _).1 isMatch) valid
          rw [← smaller]
          exact (Except.ok.inj isSize).symm
        · cases accepted
  · rintro ⟨names, valid, rfl⟩
    rename_i parameters
    have narrow : min handshake.sizeCode.toNat
        (parameters.sizeCode?.getD handshake.sizeCode).toNat < 256 :=
      (Nat.min_le_left _ _).trans_lt (UInt8.toNat_lt _)
    have isCode := confirmedCode_eq_ok_iff.2
      ⟨valid, UInt8.toNat_ofNat_of_lt' narrow⟩
    rw [Handshake.accepted, if_pos ((tsapsMatch_iff _ _).2 names), isCode]
    change Except.ok (2 ^ UInt8.toNat _) = _
    rw [UInt8.toNat_ofNat_of_lt' narrow]

/-- An awaited confirm that grants frames connects. -/
theorem confirm_of_grants (awaited : handshake.state = .awaitingConfirm)
    (grants : Grants handshake.tsaps handshake.sizeCode tpdu frameSize) :
    handshake.confirm tpdu
      = ({ handshake with state := .connected frameSize }, .ok frameSize) := by
  rw [confirm, awaited, if_neg (not_not.2 rfl), accepted_eq_ok_iff.2 grants]

/-- Every other TPDU breaks the handshake. -/
theorem confirm_of_not_grants
    (refused : handshake.state = .awaitingConfirm ->
      ∀ frameSize,
        ¬Grants handshake.tsaps handshake.sizeCode tpdu frameSize) :
    ∃ error, handshake.confirm tpdu
      = ({ handshake with state := .broken }, .error error) := by
  unfold confirm
  split
  · exact ⟨_, rfl⟩
  · rename_i awaited
    cases outcome : handshake.accepted tpdu with
    | error error => exact ⟨error, rfl⟩
    | ok frameSize =>
        exact absurd (accepted_eq_ok_iff.1 outcome)
          (refused (not_not.1 awaited) frameSize)

/-- A TPDU connects, or it breaks the handshake. -/
theorem confirm_cases (handshake : Handshake) (tpdu : Tpdu) :
    (∃ frameSize, handshake.state = .awaitingConfirm
      ∧ Grants handshake.tsaps handshake.sizeCode tpdu frameSize
      ∧ handshake.confirm tpdu
        = ({ handshake with state := .connected frameSize }, .ok frameSize))
    ∨ (handshake.state = .awaitingConfirm ->
        ∀ frameSize,
          ¬Grants handshake.tsaps handshake.sizeCode tpdu frameSize)
      ∧ ∃ error, handshake.confirm tpdu
        = ({ handshake with state := .broken }, .error error) := by
  by_cases taken : handshake.state = .awaitingConfirm
      ∧ ∃ frameSize,
        Grants handshake.tsaps handshake.sizeCode tpdu frameSize
  · obtain ⟨awaited, frameSize, grants⟩ := taken
    exact .inl ⟨frameSize, awaited, grants, confirm_of_grants awaited grants⟩
  · push Not at taken
    exact .inr ⟨taken, confirm_of_not_grants taken⟩

theorem confirm_eq_ok_iff :
    (handshake.confirm tpdu).2 = .ok frameSize
      ↔ handshake.state = .awaitingConfirm
        ∧ Grants handshake.tsaps handshake.sizeCode tpdu frameSize := by
  obtain ⟨granted, awaited, grants, connects⟩ | ⟨refused, error, isError⟩ :=
    handshake.confirm_cases tpdu
  · rw [connects, and_iff_right awaited, ← accepted_eq_ok_iff,
      accepted_eq_ok_iff.2 grants]
  · rw [isError]
    exact iff_of_false (nomatch ·) fun ⟨awaited, grants⟩ =>
      refused awaited frameSize grants

/-! ## Requests -/

theorem request_of_disconnected (begins : handshake.state = .disconnected) :
    ∃ frame, frame.tpdu = .connectRequest
        (.request clientRef handshake.sizeCode
          handshake.tsaps.localPoint.value handshake.tsaps.remotePoint.value)
      ∧ handshake.request
        = ({ handshake with state := .awaitingConfirm }, .ok frame) := by
  rw [request, begins, if_neg (not_not.2 rfl)]
  exact ⟨_, rfl, rfl⟩

theorem request_of_not_disconnected
    (begun : handshake.state ≠ .disconnected) :
    handshake.request
      = (handshake,
        .error (.protocolViolation .requestOutsideDisconnected)) := by
  rw [request, if_pos begun]

/-! ## Single calls -/

/-- What a call makes of a handshake, and what it gives. -/
inductive Steps (handshake : Handshake) :
    HandshakeCall -> Handshake × HandshakeAnswer -> Prop
  | asks {frame : Frame} (begins : handshake.state = .disconnected)
      (isRequest : frame.tpdu = .connectRequest
        (.request clientRef handshake.sizeCode
          handshake.tsaps.localPoint.value
          handshake.tsaps.remotePoint.value)) :
      Steps handshake .request
        ({ handshake with state := .awaitingConfirm },
          .requested (.ok frame))
  | refuses {error : Error} (begun : handshake.state ≠ .disconnected) :
      Steps handshake .request (handshake, .requested (.error error))
  | connects {tpdu : Tpdu} {frameSize : Nat}
      (awaited : handshake.state = .awaitingConfirm)
      (grants :
        Grants handshake.tsaps handshake.sizeCode tpdu frameSize) :
      Steps handshake (.confirm tpdu)
        ({ handshake with state := .connected frameSize },
          .confirmed (.ok frameSize))
  | breaks {tpdu : Tpdu} {error : Error}
      (refused : handshake.state = .awaitingConfirm ->
        ∀ frameSize,
          ¬Grants handshake.tsaps handshake.sizeCode tpdu frameSize) :
      Steps handshake (.confirm tpdu)
        ({ handshake with state := .broken }, .confirmed (.error error))

theorem steps (handshake : Handshake) (call : HandshakeCall) :
    Steps handshake call (handshake.call call) := by
  cases call with
  | request =>
      by_cases begins : handshake.state = .disconnected
      · obtain ⟨frame, isRequest, built⟩ := request_of_disconnected begins
        rw [Handshake.call, built]
        exact .asks begins isRequest
      · rw [Handshake.call, request_of_not_disconnected begins]
        exact .refuses begins
  | confirm tpdu =>
      obtain ⟨frameSize, awaited, grants, connects⟩
          | ⟨refused, error, isError⟩ := handshake.confirm_cases tpdu
      · rw [Handshake.call, connects]
        exact .connects awaited grants
      · rw [Handshake.call, isError]
        exact .breaks refused

variable {next : Handshake} {call : HandshakeCall} {answer : HandshakeAnswer}
  {calls : List HandshakeCall}

/-- What a handshake asks for does not change. -/
theorem Steps.terms (step : Steps handshake call (next, answer)) :
    next.tsaps = handshake.tsaps ∧ next.sizeCode = handshake.sizeCode := by
  cases step <;> exact ⟨rfl, rfl⟩

/-- There is no way back to the beginning. -/
theorem Steps.ne_disconnected (step : Steps handshake call (next, answer)) :
    next.state ≠ .disconnected := by
  cases step with
  | refuses begun => exact begun
  | asks | connects | breaks => exact (nomatch ·)

theorem Steps.begins_of_isRequest
    (step : Steps handshake call (next, answer))
    (isRequest : answer.isRequest = true) :
    handshake.state = .disconnected := by
  cases step with
  | asks begins => exact begins
  | refuses | connects | breaks => cases isRequest

theorem Steps.of_broken (step : Steps handshake call (next, answer))
    (isBroken : handshake.state = .broken) :
    next.state = .broken ∧ answer.isError = true := by
  cases step with
  | asks begins => cases isBroken.symm.trans begins
  | refuses => exact ⟨isBroken, rfl⟩
  | connects awaited => cases isBroken.symm.trans awaited
  | breaks => exact ⟨rfl, rfl⟩

/-! ## Runs -/

theorem terms_callAll (handshake : Handshake) (calls : List HandshakeCall) :
    (handshake.callAll calls).1.tsaps = handshake.tsaps
      ∧ (handshake.callAll calls).1.sizeCode = handshake.sizeCode := by
  induction calls generalizing handshake with
  | nil => exact ⟨rfl, rfl⟩
  | cons call calls inductionHypothesis =>
      obtain ⟨tsaps, sizeCode⟩ := (handshake.steps call).terms
      obtain ⟨laterTsaps, laterSizeCode⟩ :=
        inductionHypothesis (handshake.call call).1
      exact ⟨laterTsaps.trans tsaps, laterSizeCode.trans sizeCode⟩

/-- A handshake that began builds no request. -/
theorem countP_isRequest_of_begun (begun : handshake.state ≠ .disconnected)
    (calls : List HandshakeCall) :
    (handshake.callAll calls).2.countP HandshakeAnswer.isRequest = 0 := by
  induction calls generalizing handshake with
  | nil => rfl
  | cons call calls inductionHypothesis =>
      have step := handshake.steps call
      have notRequest : ¬(handshake.call call).2.isRequest = true :=
        fun isRequest => begun (step.begins_of_isRequest isRequest)
      rw [callAll, List.countP_cons_of_neg notRequest]
      exact inductionHypothesis step.ne_disconnected

theorem countP_isRequest_le_one (handshake : Handshake)
    (calls : List HandshakeCall) :
    (handshake.callAll calls).2.countP HandshakeAnswer.isRequest ≤ 1 := by
  cases calls with
  | nil => exact Nat.zero_le 1
  | cons call calls =>
      have begun : (handshake.call call).1.state ≠ .disconnected :=
        (handshake.steps call).ne_disconnected
      rw [callAll, List.countP_cons, countP_isRequest_of_begun begun,
        Nat.zero_add]
      split
      · exact le_rfl
      · exact Nat.zero_le 1

/-- A broken handshake stays broken and refuses every call. -/
theorem callAll_of_broken (isBroken : handshake.state = .broken)
    (calls : List HandshakeCall) :
    (handshake.callAll calls).1.state = .broken
      ∧ ∀ answer ∈ (handshake.callAll calls).2, answer.isError = true := by
  induction calls generalizing handshake with
  | nil => exact ⟨isBroken, by simp [callAll]⟩
  | cons call calls inductionHypothesis =>
      obtain ⟨stillBroken, isError⟩ :=
        (handshake.steps call).of_broken isBroken
      obtain ⟨staysBroken, areErrors⟩ := inductionHypothesis stillBroken
      exact ⟨staysBroken, List.forall_mem_cons.2 ⟨isError, areErrors⟩⟩

/-- How a handshake behaves that asks for a pair of access points and a size of
TPDUs, once it was called and gave its answers. -/
structure Behaves (tsaps : TsapPair) (asked : UInt8) (reached : Handshake)
    (answers : List HandshakeAnswer) : Prop where
  requestedOnce : answers.countP HandshakeAnswer.isRequest ≤ 1
  /-- A request is built just at the beginning. -/
  request_iff :
    (∃ frame, reached.request.2 = .ok frame) ↔ reached.state = .disconnected
  /-- A confirm is taken just if it is awaited and grants frames. -/
  confirm_iff : ∀ tpdu frameSize,
    (reached.confirm tpdu).2 = .ok frameSize
      ↔ reached.state = .awaitingConfirm ∧ Grants tsaps asked tpdu frameSize
  connects : ∀ tpdu frameSize,
    (reached.confirm tpdu).2 = .ok frameSize ->
      (reached.confirm tpdu).1.state = .connected frameSize
  breaks : ∀ tpdu error,
    (reached.confirm tpdu).2 = .error error ->
      (reached.confirm tpdu).1.state = .broken
  staysBroken : reached.state = .broken -> ∀ calls,
    (reached.callAll calls).1.state = .broken
      ∧ ∀ answer ∈ (reached.callAll calls).2, answer.isError = true

theorem connected_of_confirm_eq_ok
    (confirmed : (handshake.confirm tpdu).2 = .ok frameSize) :
    (handshake.confirm tpdu).1.state = .connected frameSize := by
  obtain ⟨awaited, grants⟩ := confirm_eq_ok_iff.1 confirmed
  rw [confirm_of_grants awaited grants]

theorem broken_of_confirm_eq_error {error : Error}
    (failed : (handshake.confirm tpdu).2 = .error error) :
    (handshake.confirm tpdu).1.state = .broken := by
  obtain ⟨frameSize, -, -, connects⟩ | ⟨-, _, isError⟩ :=
    handshake.confirm_cases tpdu
  · rw [connects] at failed
    cases failed
  · rw [isError]

theorem exists_request_eq_ok_iff :
    (∃ frame, handshake.request.2 = .ok frame)
      ↔ handshake.state = .disconnected := by
  by_cases begins : handshake.state = .disconnected
  · obtain ⟨frame, -, built⟩ := request_of_disconnected begins
    exact iff_of_true ⟨frame, congrArg Prod.snd built⟩ begins
  · rw [request_of_not_disconnected begins]
    exact iff_of_false (fun ⟨_, built⟩ => nomatch built) begins

/-- A handshake for a size that there is a code for builds one request, connects
with the first TPDU after it or not at all, to frames no larger than asked for,
and is broken for good by any other TPDU. -/
theorem behaves {size : Nat} {first : Handshake}
    (made : ofSize tsaps size = .ok first) :
    ∃ asked : UInt8,
      7 ≤ asked.toNat ∧ asked.toNat ≤ 13 ∧ size = 2 ^ asked.toNat
        ∧ first.state = .disconnected
        ∧ ∀ calls, Behaves tsaps asked (first.callAll calls).1
          (first.callAll calls).2 := by
  unfold ofSize at made
  split at made
  · rename_i asked known
    cases made
    obtain ⟨least, most, isSize⟩ := TpduSize.code?_eq_some known
    refine ⟨asked, least, most, isSize, rfl, fun calls => ?_⟩
    obtain ⟨isTsaps, isAsked⟩ :=
      terms_callAll { state := .disconnected, tsaps, sizeCode := asked } calls
    refine
      { requestedOnce := countP_isRequest_le_one _ calls
        request_iff := exists_request_eq_ok_iff
        confirm_iff := fun tpdu frameSize => ?_
        connects := fun tpdu frameSize => connected_of_confirm_eq_ok
        breaks := fun tpdu error => broken_of_confirm_eq_error
        staysBroken := callAll_of_broken }
    rw [confirm_eq_ok_iff, isTsaps, isAsked]
  · cases made

/-! ## A confirm that swaps the access points -/

def swappedPair : TsapPair := .ofWords 0x0100 0x0102

/-- It grants half of the size that is asked for. -/
def swappedConfirm : Tpdu :=
  .connectConfirm
    { destinationRef := 1
      sourceRef := 0x44
      classOption := 0
      sizeCode? := some 9
      sourceTsap? := some swappedPair.remotePoint.value
      destinationTsap? := some swappedPair.localPoint.value }

/-- Behind a request the confirm connects; without one it breaks the handshake
for good. -/
theorem behaves_swapped :
    ∃ first, ofSize swappedPair 1024 = .ok first
      ∧ ((first.callAll [.request]).1.confirm swappedConfirm).2 = .ok 512
      ∧ ((first.callAll [.request]).1.confirm swappedConfirm).1.state
        = .connected 512
      ∧ ∀ calls,
        ((first.callAll [.confirm swappedConfirm]).1.callAll calls).1.state
          = .broken := by
  refine ⟨{ state := .disconnected, tsaps := swappedPair, sizeCode := 10 },
    rfl, ?_⟩
  obtain ⟨asked, -, -, isSize, -, each⟩ :=
    behaves (show ofSize swappedPair 1024 = .ok _ from rfl)
  have isAsked : asked.toNat = 10 := by
    apply Nat.pow_right_injective le_rfl
    exact isSize.symm.trans (by norm_num)
  have grants : Grants swappedPair asked swappedConfirm 512 := by
    apply Grants.confirm
    · exact .swapped
    · rintro code ⟨⟩
      decide
    · rw [isAsked]
      simp
  have taken := ((each [.request]).confirm_iff swappedConfirm 512).2
    ⟨rfl, grants⟩
  exact ⟨taken, (each [.request]).connects _ _ taken, fun calls =>
    ((each [.confirm swappedConfirm]).staysBroken rfl calls).1⟩

end Handshake
end PlcLink
