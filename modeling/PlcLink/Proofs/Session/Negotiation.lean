import Mathlib
import PlcLink.Session.Opening
import PlcLink.Proofs.Pdu.RoundTrip
import PlcLink.Proofs.Session.ServiceRun
import PlcLink.Proofs.Transport.Segments

/-!
# Keeping to what was agreed on

What a connection agrees on stays within what was asked for and what the peer
granted, and every job that is accepted can be sent within what was agreed on.
-/

namespace PlcLink

/-! ## Sizes of TPDUs -/

theorem TpduSize.code?_eq_some {size : Nat} {code : UInt8}
    (found : code? size = some code) :
    7 ≤ code.toNat ∧ code.toNat ≤ 13 ∧ size = 2 ^ code.toNat := by
  have valid : ∀ code ∈ ([7, 8, 9, 10, 11, 12, 13] : List UInt8),
      7 ≤ code.toNat ∧ code.toNat ≤ 13 := by
    simp
  have isSize := List.find?_some found
  rw [beq_iff_eq] at isSize
  obtain ⟨least, most⟩ := valid code (List.mem_of_find?_eq_some found)
  exact ⟨least, most, isSize.symm⟩

theorem TpduSize.ofCode?_ne_none {code : UInt8} (known : ofCode? code ≠ none) :
    7 ≤ code.toNat ∧ code.toNat ≤ 13 := by
  unfold ofCode? at known
  split at known
  · rename_i valid
    exact ⟨UInt8.le_iff_toNat_le.1 valid.1, UInt8.le_iff_toNat_le.1 valid.2⟩
  · exact absurd rfl known

namespace Handshake

variable {handshake : Handshake} {tpdu : Tpdu} {frameSize : Nat}

/-- The code of a confirm is valid and at most the one that was asked for. -/
theorem confirmedCode_bounds {asked code : UInt8} {confirmed? : Option UInt8}
    (valid : 7 ≤ asked.toNat)
    (confirmed : confirmedCode asked confirmed? = .ok code) :
    7 ≤ code.toNat ∧ code.toNat ≤ asked.toNat := by
  cases confirmed? with
  | none =>
      cases Except.ok.inj confirmed
      exact ⟨valid, le_rfl⟩
  | some other =>
      unfold confirmedCode at confirmed
      dsimp only at confirmed
      split at confirmed
      · cases confirmed
      · rename_i known
        cases Except.ok.inj confirmed
        have otherValid := (TpduSize.ofCode?_ne_none known).1
        change 7 ≤ (if other ≤ asked then other else asked).toNat
          ∧ (if other ≤ asked then other else asked).toNat ≤ asked.toNat
        split
        · rename_i smaller
          exact ⟨otherValid, UInt8.le_iff_toNat_le.1 smaller⟩
        · exact ⟨valid, le_rfl⟩

/-- A confirm that is accepted leads to TPDUs that are no larger than asked
for. -/
theorem frameSize_of_confirm (valid : 7 ≤ handshake.sizeCode.toNat)
    (confirmed : (handshake.confirm tpdu).2 = .ok frameSize) :
    ∃ exponent,
      frameSize = 2 ^ exponent
        ∧ 7 ≤ exponent
        ∧ exponent ≤ handshake.sizeCode.toNat := by
  have accepted : handshake.accepted tpdu = .ok frameSize := by
    unfold confirm at confirmed
    split at confirmed
    · cases confirmed
    · split at confirmed
      · rename_i accepted
        cases Except.ok.inj confirmed
        exact accepted
      · cases confirmed
  cases tpdu with
  | connectConfirm parameters =>
      unfold Handshake.accepted at accepted
      dsimp only at accepted
      split at accepted
      · obtain ⟨code, isCode, isSize⟩ := exists_of_bind_eq_ok accepted
        obtain ⟨least, most⟩ := confirmedCode_bounds valid isCode
        exact ⟨code.toNat, (Except.ok.inj isSize).symm, least, most⟩
      · cases accepted
  | connectRequest | disconnectRequest | data => cases accepted

end Handshake

/-- The request of a session asks for TPDUs of the size that was set. -/
theorem Session.exists_connectRequest {settings : SessionSettings}
    {sizeCode : UInt8}
    (sized : TpduSize.code? settings.tpduSize = some sizeCode) :
    ∃ handshake request,
      connectRequest settings = .ok (handshake, request)
        ∧ handshake.sizeCode = sizeCode := by
  have made : Handshake.ofSize settings.tsaps settings.tpduSize
      = .ok { state := .disconnected, tsaps := settings.tsaps, sizeCode } := by
    rw [Handshake.ofSize, sized]
  rw [connectRequest, made]
  exact ⟨_, _, rfl, rfl⟩

/-- The reference of a PDU is all that a reference changes. -/
theorem Pdu.ofSections_withReference {type : PduType} {before : UInt16}
    {parameter data : Bytes} {pdu : Pdu}
    (made : ofSections type before parameter data = .ok pdu)
    (reference : UInt16) :
    ofSections type reference parameter data
      = .ok (pdu.withReference reference) := by
  obtain ⟨parameterFits, dataFits, rfl⟩ := ofSections_eq_ok made
  rw [ofSections, if_neg (Nat.not_le.2 parameterFits),
    if_neg (Nat.not_le.2 dataFits)]
  rfl

/-- Settings that a session accepts pass every check. -/
theorem Settings.fault_eq_false {settings : Settings}
    (valid : settings.validate = .ok ()) :
    ∀ fault ∈ settings.faults, fault.2 = false := by
  unfold validate at valid
  split at valid
  · cases valid
  · rename_i none
    intro fault member
    exact Bool.eq_false_iff.2 (List.find?_eq_none.1 none fault member)

/-- A session is set to a size of TPDU that there is a code for. -/
theorem Settings.exists_code_of_session {settings : Settings}
    {session : SessionSettings} (accepted : settings.session = .ok session) :
    ∃ sizeCode, TpduSize.code? session.tpduSize = some sizeCode := by
  obtain ⟨_, valid, accepted⟩ := exists_of_bind_eq_ok accepted
  obtain ⟨tsaps, -, isSession⟩ := exists_of_bind_eq_ok accepted
  cases Except.ok.inj isSession
  have known := fault_eq_false valid
    (.tpduSize, (TpduSize.code? settings.tpduSize).isNone) (by simp [faults])
  exact Option.isSome_iff_exists.1 (Option.isNone_eq_false_iff.1 known)

namespace Context

variable {context : Context}

/-- A context goes neither beyond what a session asked for nor beyond what the
peer granted. -/
structure Within (context : Context) (asked : SessionSettings)
    (granted : Setup) : Prop where
  frameSize_eq : ∃ exponent, context.frameSize = 2 ^ exponent
  frameSize_bounds :
    128 ≤ context.frameSize ∧ context.frameSize ≤ asked.tpduSize
  pduSize_bounds :
    240 ≤ context.pduSize.toNat
      ∧ context.pduSize.toNat
        ≤ min asked.pduSize.toNat granted.pduSize.toNat
  window_bounds :
    1 ≤ context.window
      ∧ ∀ limit ∈
          [asked.calling, asked.called, granted.calling, granted.called],
        context.window ≤ max 1 limit.toNat

/-- Datagrams carry one PDU within what was agreed on: each has a data TPDU,
only the last of which ends the PDU. -/
structure Admits (context : Context) (pdu : Pdu) (datagrams : List Bytes) :
    Prop where
  frames : ∀ datagram ∈ datagrams,
    ∃ frame,
      Frame.parse datagram = .ok frame
        ∧ frame.tpdu.type = .data
        ∧ frame.tpdu.encodedLength + frame.payload.length
          ≤ context.frameSize
  whole :
    ∃ raw,
      joined? datagrams = some raw
        ∧ raw.length ≤ context.pduSize.toNat
        ∧ Pdu.parse raw = .ok pdu

theorem pduSize_negotiate {tsaps : TsapPair} {frameSize : Nat}
    {asked granted : Setup}
    (negotiated : negotiate tsaps frameSize asked granted = .ok context) :
    context.frameSize = frameSize
      ∧ context.pduSize = min granted.pduSize asked.pduSize
      ∧ minPduSize ≤ context.pduSize := by
  unfold negotiate at negotiated
  dsimp only at negotiated
  split at negotiated
  · cases negotiated
  · rename_i notSmaller
    cases negotiated
    exact ⟨rfl, rfl, UInt16.not_lt.1 notSmaller⟩

/-- What is negotiated stays within what was asked for and granted. -/
theorem within_negotiate {asked : SessionSettings} {granted : Setup}
    {frameSize exponent : Nat}
    (isPower : frameSize = 2 ^ exponent)
    (least : 7 ≤ exponent) (most : frameSize ≤ asked.tpduSize)
    (negotiated :
      negotiate asked.tsaps frameSize asked.setup granted = .ok context) :
    context.Within asked granted := by
  obtain ⟨rfl, isMin, notSmaller⟩ := pduSize_negotiate negotiated
  have window := window_negotiate negotiated
  simp only [SessionSettings.setup, Word.toNat_min] at window
  constructor
  · exact ⟨exponent, isPower⟩
  · refine ⟨?_, most⟩
    rw [isPower]
    exact Nat.pow_le_pow_right (by decide : 0 < 2) least
  · constructor
    · exact UInt16.le_iff_toNat_le.1 notSmaller
    · rw [isMin, Word.toNat_min, Nat.min_comm]
      rfl
  · constructor
    · omega
    · simp only [List.forall_mem_cons]
      refine ⟨?_, ?_, ?_, ?_, by simp⟩ <;> omega

/-- A PDU that is no larger than agreed can be sent. -/
theorem exists_datagrams {Ticket : Type} {service : Service Ticket}
    {body : Body} {pdu : Pdu}
    (room : Tpdu.dataHeaderLength < service.context.frameSize)
    (announced : Tpkt.headerLength + service.context.frameSize < 65536)
    (made : body.toPdu 0 = .ok pdu)
    (small : pdu.encodedLength ≤ service.context.pduSize.toNat)
    (reference : UInt16) :
    ∃ datagrams,
      service.datagrams pdu reference = .ok datagrams
        ∧ service.context.Admits (pdu.withReference reference) datagrams := by
  obtain ⟨parameter, -, made⟩ := exists_of_bind_eq_ok made
  obtain ⟨data, -, made⟩ := exists_of_bind_eq_ok made
  obtain ⟨raw, encoded, parsed, length⟩ :=
    Pdu.parse_encode (Pdu.ofSections_withReference made reference)
  obtain ⟨frames, segmented⟩ := exists_segment raw room announced
  have normal := Frame.normal_of_mem (segment_eq_ok segmented).2
  refine ⟨frames.map Frame.wire, ?_, ?_, ?_⟩
  · rw [Service.datagrams, encoded]
    change (segment raw _).bind _ = _
    rw [segmented]
    exact Frame.mapM_encode frames
  · rw [List.forall_mem_map]
    intro frame member
    exact ⟨frame, (normal frame member).parse_wire,
      length_le_of_segment segmented frame member⟩
  · exact ⟨raw, joined?_of_segment segmented, length.trans_le small, parsed⟩

end Context

/-- A session whose settings are accepted asks for a connection. Whatever the
peer confirms and grants then, what is agreed on stays within both sides' limits,
and every body that may be submitted is sent within what was agreed on. -/
theorem Settings.keepsAgreement {settings : Settings}
    {session : SessionSettings} (accepted : settings.session = .ok session) :
    ∃ handshake request,
      Session.connectRequest session = .ok (handshake, request)
        ∧ ∀ (tpdu : Tpdu) (frameSize : Nat) (granted : Setup)
            (context : Context),
          (handshake.confirm tpdu).2 = .ok frameSize ->
          Context.negotiate session.tsaps frameSize session.setup granted
            = .ok context ->
          context.Within session granted
            ∧ ∀ (Ticket : Type) (service : Service Ticket) (body : Body)
                (pdu : Pdu) (reference : UInt16),
              service.context = context ->
              body.toPdu 0 = .ok pdu ->
              pdu.encodedLength ≤ context.pduSize.toNat ->
              ∃ datagrams,
                service.datagrams pdu reference = .ok datagrams
                  ∧ context.Admits (pdu.withReference reference)
                    datagrams := by
  obtain ⟨sizeCode, sized⟩ := exists_code_of_session accepted
  obtain ⟨least, most, isSize⟩ := TpduSize.code?_eq_some sized
  obtain ⟨handshake, request, requested, rfl⟩ :=
    Session.exists_connectRequest sized
  refine ⟨handshake, request, requested, ?_⟩
  intro tpdu frameSize granted context confirmed negotiated
  obtain ⟨exponent, isPower, leastAgreed, mostAgreed⟩ :=
    Handshake.frameSize_of_confirm least confirmed
  have smaller : frameSize ≤ session.tpduSize := by
    rw [isPower, isSize]
    exact Nat.pow_le_pow_right (by decide : 0 < 2) mostAgreed
  have atMost : session.tpduSize ≤ 2 ^ 13 := by
    rw [isSize]
    exact Nat.pow_le_pow_right (by decide : 0 < 2) most
  have within :=
    Context.within_negotiate isPower leastAgreed smaller negotiated
  refine ⟨within, ?_⟩
  intro Ticket service body pdu reference agreed made small
  subst agreed
  obtain ⟨atLeast, belowAsked⟩ := within.frameSize_bounds
  apply Context.exists_datagrams _ _ made small
  · rw [Tpdu.dataHeaderLength]
    omega
  · rw [Tpkt.headerLength]
    omega

/-- A peer that grants less than the default settings ask for. A write to it is
sent in two datagrams. -/
theorem Settings.keepsAgreement_default :
    ∃ session handshake request frameSize context,
      Settings.default.session = .ok session
        ∧ Session.connectRequest session = .ok (handshake, request)
        ∧ (handshake.confirm (.connectConfirm (.request 2 7 0x0100 0x0102))).2
          = .ok frameSize
        ∧ Context.negotiate session.tsaps frameSize session.setup
            { calling := 3, called := 2, pduSize := 480 }
          = .ok context
        ∧ context.Within session { calling := 3, called := 2, pduSize := 480 }
        ∧ ∃ pdu datagrams,
          (Body.writeRequest
              [.ofBytes .dataBlock 5 0 (List.replicate 150 7)]).toPdu 0
            = .ok pdu
            ∧ (Service.start context 1 0 65536 : Service Nat).datagrams pdu 9
              = .ok datagrams
            ∧ context.Admits (pdu.withReference 9) datagrams
            ∧ 128 < pdu.encodedLength := by
  have accepted : Settings.default.session = .ok _ := rfl
  obtain ⟨handshake, request, requested, agreement⟩ := keepsAgreement accepted
  obtain ⟨rfl, rfl⟩ := Prod.mk.inj (Except.ok.inj requested)
  obtain ⟨within, sends⟩ :=
    agreement (.connectConfirm (.request 2 7 0x0100 0x0102)) 128
      { calling := 3, called := 2, pduSize := 480 } _ rfl rfl
  have isLength : ((Body.writeRequest
      [.ofBytes .dataBlock 5 0 (List.replicate 150 7)]).toPdu 0).map
        Pdu.encodedLength
      = .ok 178 := by
    decide +kernel
  obtain ⟨pdu, made, length⟩ := exists_of_map_eq_ok isLength
  have small : pdu.encodedLength ≤ 480 := by omega
  obtain ⟨datagrams, sent, admits⟩ :=
    sends Nat (.start _ 1 0 65536) _ pdu 9 rfl made small
  exact ⟨_, _, _, _, _, accepted, requested, rfl, rfl, within, pdu, datagrams,
    made, sent, admits, by omega⟩

end PlcLink
