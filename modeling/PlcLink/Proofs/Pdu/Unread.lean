import Mathlib
import PlcLink.Proofs.Pdu.Grammar

/-!
# Bytes that are not read

What is put behind the sections of a PDU is an error wherever the section is
read to its end. Replies to reads and writes do not read their parameter section
behind the count, and setups and read requests do not read their data section at
all: what stands there changes nothing.
-/

namespace PlcLink

/-- A reader that takes all the bytes for its answer fails if there are more of
them behind. -/
def ReadsToEnd {value : Type} (read : Bytes -> Except Error value)
    (own : Bytes) (answer : value) : Prop :=
  ∀ behind other,
    read (own ++ behind) = .ok other ↔ behind = [] ∧ other = answer

theorem readsToEnd_of_append {value : Type}
    {read : Bytes -> Except Error value} {own : Bytes} {answer : value}
    (succeeds : read own = .ok answer)
    (fails : ∀ behind, behind ≠ [] -> ∃ error,
      read (own ++ behind) = .error error) :
    ReadsToEnd read own answer := by
  intro behind other
  by_cases ends : behind = []
  · rw [ends, List.append_nil, succeeds, Except.ok.injEq]
    exact ⟨fun same => ⟨rfl, same.symm⟩, fun same => same.2.symm⟩
  · obtain ⟨error, failed⟩ := fails behind ends
    rw [failed]
    exact iff_of_false (fun succeeded => nomatch succeeded)
      fun both => ends both.1

theorem ReadsToEnd.bind_eq_ok_iff {value result : Type}
    {read : Bytes -> Except Error value} {own behind : Bytes} {answer : value}
    {next : value -> Except Error result} {outcome : result}
    (reads : ReadsToEnd read own answer) :
    (read (own ++ behind)).bind next = .ok outcome
      ↔ behind = [] ∧ next answer = .ok outcome := by
  constructor
  · intro bound
    obtain ⟨before, succeeded, continued⟩ := exists_of_bind_eq_ok bound
    obtain ⟨ends, rfl⟩ := (reads behind before).1 succeeded
    exact ⟨ends, continued⟩
  · rintro ⟨ends, continued⟩
    exact (bind_eq_of_eq_ok ((reads behind answer).2 ⟨ends, rfl⟩)).trans
      continued

theorem Setup.parse_readsToEnd {own : Bytes} {setup : Setup}
    (read : parse own = .ok setup) : ReadsToEnd parse own setup := by
  apply readsToEnd_of_append read
  intro behind goesOn
  obtain ⟨first, rest, rfl⟩ := List.exists_cons_of_ne_nil goesOn
  unfold parse at read
  split at read
  · exact ⟨_, rfl⟩
  · cases read

theorem Pdu.decodeSpecs_readsToEnd {count : UInt8} {own : Bytes}
    {specs : List VarSpec} (read : decodeSpecs count own = .ok specs) :
    ReadsToEnd (decodeSpecs count) own specs := by
  apply readsToEnd_of_append read
  intro behind goesOn
  obtain ⟨counted, normal, emitted⟩ := decodeSpecs_eq_ok_iff.1 read
  rw [decodeSpecs, counted, VarSpec.parseMany_emitMany normal emitted]
  exact ⟨_, if_neg goesOn⟩

theorem DataItem.parseAll_readsToEnd {count : Nat} {own : Bytes}
    {items : List DataItem} (read : parseAll count own = .ok items) :
    ReadsToEnd (parseAll count) own items := by
  apply readsToEnd_of_append read
  intro behind goesOn
  obtain ⟨rfl, spelled⟩ := parseAll_eq_ok_iff.1 read
  rw [parseAll, parseMany_append spelled]
  exact ⟨_, if_neg goesOn⟩

theorem UserData.Parameter.parse_readsToEnd {own : Bytes}
    {parameter : Parameter} (read : parse own = .ok parameter) :
    ReadsToEnd parse own parameter := by
  apply readsToEnd_of_append read
  intro behind goesOn
  have isLonger := List.length_pos_of_ne_nil goesOn
  unfold parse at read
  split at read
  · rename_i length method types subfunction sequence rest
    split at read
    · cases read
    · rename_i whole
      obtain ⟨counted, -⟩ := not_or.1 whole
      simp only [List.cons_append, parse]
      refine ⟨_, if_pos (.inl ?_)⟩
      rw [List.length_append]
      omega
  · cases read

namespace Body

/-- Bodies whose parameter section is not read to its end. -/
def skipsParameter : Body -> Bool
  | readResponse _ | writeResponse _ | ack => true
  | _ => false

/-- Bodies whose data section is not read. -/
def skipsData : Body -> Bool
  | setupRequest _ | setupResponse _ | readRequest _ | ack => true
  | _ => false

end Body

namespace Pdu

/-- The PDU with more bytes behind its sections, and with their new lengths in
the header. -/
def extend (pdu : Pdu) (parameter data : Bytes) : Pdu :=
  { header :=
      { pdu.header with
        parameterLength :=
          UInt16.ofNat (pdu.parameter.length + parameter.length)
        dataLength := UInt16.ofNat (pdu.data.length + data.length) }
    parameter := pdu.parameter ++ parameter
    data := pdu.data ++ data }

variable {pdu : Pdu} {body : Body} {raw parameter data : Bytes}

@[simp] theorem type_extend :
    (pdu.extend parameter data).header.type = pdu.header.type := rfl

@[simp] theorem parameter_extend :
    (pdu.extend parameter data).parameter = pdu.parameter ++ parameter := rfl

@[simp] theorem data_extend :
    (pdu.extend parameter data).data = pdu.data ++ data := rfl

theorem parse_wire_extend (normal : pdu.header.Normal)
    (parameterFits : pdu.parameter.length + parameter.length < 65536)
    (dataFits : pdu.data.length + data.length < 65536) :
    parse (pdu.extend parameter data).wire
      = .ok (pdu.extend parameter data) := by
  refine parse_eq_ok_iff_wire.2 ⟨⟨?_, ?_⟩, ⟨?_, ?_⟩, rfl⟩
  · exact normal.error_isSome
  · exact normal.errorClass_normal
  · rw [parameter_extend, List.length_append]
    exact UInt16.toNat_ofNat_of_lt' parameterFits
  · rw [data_extend, List.length_append]
    exact UInt16.toNat_ofNat_of_lt' dataFits

theorem decode_extend_job {function : Function} {rest : Bytes}
    (isJob : pdu.header.type = .job)
    (names : pdu.parameter = function.toByte :: rest) :
    (pdu.extend parameter data).decode
      = (pdu.extend parameter data).decodeJob function :=
  decode_job isJob (congrArg (· ++ parameter) names)

theorem decode_extend_reply {function : Function} {rest : Bytes}
    (isReply : pdu.header.type = .ackData)
    (names : pdu.parameter = function.toByte :: rest) :
    (pdu.extend parameter data).decode
      = (pdu.extend parameter data).decodeReply function :=
  decode_reply isReply (congrArg (· ++ parameter) names)

namespace Says

open Body

/-- Longer sections say the same, or they are an error, except for user data
without an item. -/
theorem decode_extend_eq_ok_iff (said : pdu.Says body)
    (hasItem : ∀ parameterOf, body ≠ .userData parameterOf none)
    (parameter data : Bytes) (other : Body) :
    (pdu.extend parameter data).decode = .ok other
      ↔ (parameter = [] ∨ body.skipsParameter)
        ∧ (data = [] ∨ body.skipsData) ∧ body = other := by
  cases said with
  | setupRequest isJob names read =>
      rw [decode_extend_job isJob names]
      refine (Setup.parse_readsToEnd read).bind_eq_ok_iff.trans ?_
      simp [skipsParameter, skipsData, pure, Except.pure]
  | setupResponse isReply names read =>
      rw [decode_extend_reply isReply names]
      refine (Setup.parse_readsToEnd read).bind_eq_ok_iff.trans ?_
      simp [skipsParameter, skipsData, pure, Except.pure]
  | @readRequest count rest specs isJob names specsRead =>
      rw [decode_extend_job isJob names, decodeJob, parameter_extend, names]
      change (decodeSpecs count (rest ++ parameter)).bind _ = _ ↔ _
      rw [(decodeSpecs_readsToEnd specsRead).bind_eq_ok_iff]
      simp [skipsParameter, skipsData, pure, Except.pure]
  | @readResponse count rest items isReply names itemsRead =>
      rw [decode_extend_reply isReply names, decodeReply, parameter_extend,
        names]
      change (DataItem.parseAll count.toNat (pdu.data ++ data)).bind _ = _ ↔ _
      rw [(DataItem.parseAll_readsToEnd itemsRead).bind_eq_ok_iff]
      simp [skipsParameter, skipsData, pure, Except.pure]
  | @writeRequest count rest specs items isJob names specsRead itemsRead =>
      rw [decode_extend_job isJob names, decodeJob, parameter_extend, names]
      change (decodeSpecs count (rest ++ parameter)).bind _ = _ ↔ _
      rw [(decodeSpecs_readsToEnd specsRead).bind_eq_ok_iff]
      refine and_congr (by simp [skipsParameter]) ?_
      refine (DataItem.parseAll_readsToEnd itemsRead).bind_eq_ok_iff.trans ?_
      simp [skipsData, pure, Except.pure]
  | @writeResponse count rest isReply names counted =>
      rw [decode_extend_reply isReply names, decodeReply, parameter_extend,
        names]
      change (if (pdu.data ++ data).length ≠ count.toNat then _ else _) = _ ↔ _
      by_cases ends : data = []
      · rw [ends, List.append_nil, if_neg (not_not.2 counted)]
        simp [skipsParameter, pure, Except.pure]
      · have longer := List.length_pos_of_ne_nil ends
        rw [if_pos (by rw [List.length_append]; omega)]
        simp [skipsData, ends]
  | @userData parameterOf isUserData read noData =>
      exact absurd rfl (hasItem parameterOf)
  | @userDataItem parameterOf item isUserData read someData itemRead =>
      rw [decode, type_extend, isUserData]
      refine (UserData.Parameter.parse_readsToEnd read).bind_eq_ok_iff.trans ?_
      refine and_congr (by simp [skipsParameter]) ?_
      rw [data_extend, if_neg (by simp [someData])]
      refine (DataItem.parseAll_readsToEnd itemRead).bind_eq_ok_iff.trans ?_
      simp [skipsData, pure, Except.pure]
  | ack isAck =>
      rw [decode, type_extend, isAck]
      simp [skipsParameter, skipsData]

/-- User data without an item may be read as user data with one. -/
theorem decode_extend_userData {parameterOf : UserData.Parameter}
    (said : pdu.Says (.userData parameterOf none)) (parameter data : Bytes)
    (other : Body) :
    (pdu.extend parameter data).decode = .ok other
      ↔ parameter = []
        ∧ (data = [] ∧ .userData parameterOf none = other
          ∨ ∃ item, DataItem.parseAll 1 data = .ok [item]
            ∧ .userData parameterOf (some item) = other) := by
  cases said with
  | userData isUserData read noData =>
      rw [decode, type_extend, isUserData]
      refine (UserData.Parameter.parse_readsToEnd read).bind_eq_ok_iff.trans ?_
      refine and_congr_right fun _ => ?_
      rw [data_extend, noData, List.nil_append]
      by_cases ends : data = []
      · rw [if_pos ends, ends]
        have noItem : DataItem.parseAll 1 [] = .error .invalidFrame := rfl
        simp [noItem, pure, Except.pure]
      · rw [if_neg ends]
        constructor
        · intro readItem
          obtain ⟨items, itemsRead, same⟩ := exists_of_bind_eq_ok readItem
          obtain ⟨single, -⟩ := DataItem.parseAll_eq_ok_iff.1 itemsRead
          obtain ⟨item, rfl⟩ := List.length_eq_one_iff.1 single.symm
          exact .inr ⟨item, itemsRead, Except.ok.inj same⟩
        · rintro (⟨noData, -⟩ | ⟨item, itemRead, rfl⟩)
          · exact absurd noData ends
          · exact (bind_eq_of_eq_ok itemRead).trans rfl

end Says

/-- A PDU whose sections are longer says the same just if the bytes behind them
stand where its kind of body does not look. It says something else only if they
are an item of user data that had none. -/
theorem decode_extend (parsed : parse raw = .ok pdu)
    (decoded : pdu.decode = .ok body)
    (parameterFits : pdu.parameter.length + parameter.length < 65536)
    (dataFits : pdu.data.length + data.length < 65536) :
    parse (pdu.extend parameter data).wire
        = .ok (pdu.extend parameter data)
      ∧ ((pdu.extend parameter data).decode = .ok body
        ↔ (parameter = [] ∨ body.skipsParameter)
          ∧ (data = [] ∨ body.skipsData))
      ∧ ∀ other, (pdu.extend parameter data).decode = .ok other ->
        other ≠ body ->
          ∃ parameterOf item,
            body = .userData parameterOf none
              ∧ other = .userData parameterOf (some item)
              ∧ parameter = [] ∧ DataItem.parseAll 1 data = .ok [item] := by
  obtain ⟨normal, -⟩ := parse_eq_ok_iff_wire.1 parsed
  have said := says_of_decode decoded
  refine ⟨parse_wire_extend normal parameterFits dataFits, ?_⟩
  by_cases isBare : ∃ parameterOf, body = .userData parameterOf none
  · obtain ⟨parameterOf, rfl⟩ := isBare
    have reads := said.decode_extend_userData parameter data
    constructor
    · rw [reads]
      simp [Body.skipsParameter, Body.skipsData]
    · intro other read isOther
      obtain ⟨ends, ⟨-, same⟩ | ⟨item, itemRead, same⟩⟩ := (reads other).1 read
      · exact absurd same.symm isOther
      · exact ⟨parameterOf, item, rfl, same.symm, ends, itemRead⟩
  · have reads :=
      said.decode_extend_eq_ok_iff (not_exists.1 isBare) parameter data
    constructor
    · rw [reads]
      simp
    · intro other read isOther
      exact absurd ((reads other).1 read).2.2.symm isOther

/-- A setup. -/
def bareSetup : Pdu :=
  { header := .ofLengths .job 1 8 0
    parameter := [0xF0, 0x00, 0x00, 0x01, 0x00, 0x01, 0x01, 0xE0]
    data := [] }

/-- A reply with one item, which is no object. -/
def bareReply : Pdu :=
  { header := .ofLengths .ackData 1 2 4
    parameter := [0x04, 0x01]
    data := [0x0A, 0x00, 0x00, 0x00] }

theorem decode_extend_bareSetup :
    ∃ body, bareSetup.decode = .ok body
      ∧ (bareSetup.extend [] [1, 2, 3]).decode = .ok body
      ∧ (bareSetup.extend [0] [1, 2, 3]).decode ≠ .ok body := by
  have parsed : parse bareSetup.wire = .ok bareSetup := rfl
  have decoded : bareSetup.decode
      = .ok (.setupRequest { calling := 1, called := 1, pduSize := 480 }) :=
    rfl
  -- The first extension is not seen, and the second one is an error.
  obtain ⟨-, same, -⟩ := decode_extend parsed decoded
    (show 8 + ([] : Bytes).length < 65536 by decide)
    (show 0 + ([1, 2, 3] : Bytes).length < 65536 by decide)
  obtain ⟨-, fails, -⟩ := decode_extend parsed decoded
    (show 8 + ([0] : Bytes).length < 65536 by decide)
    (show 0 + ([1, 2, 3] : Bytes).length < 65536 by decide)
  refine ⟨_, decoded, same.2 (by decide), ?_⟩
  rw [ne_eq, fails]
  decide

/-- A byte behind the count of a reply is not seen, and neither is one in the
data section of a setup. -/
theorem exists_unread :
    (∃ raw pdu body,
      parse raw = .ok pdu ∧ pdu.decode = .ok body ∧ body ≠ .ack
        ∧ parse (pdu.extend [0xAA] []).wire = .ok (pdu.extend [0xAA] [])
        ∧ (pdu.extend [0xAA] []).decode = .ok body)
      ∧ ∃ raw pdu body,
        parse raw = .ok pdu ∧ pdu.decode = .ok body ∧ body ≠ .ack
          ∧ parse (pdu.extend [] [0xAA]).wire = .ok (pdu.extend [] [0xAA])
          ∧ (pdu.extend [] [0xAA]).decode = .ok body :=
  ⟨⟨bareReply.wire, bareReply, _, rfl, rfl, nofun, rfl, rfl⟩,
    bareSetup.wire, bareSetup, _, rfl, rfl, nofun, rfl, rfl⟩

end Pdu
end PlcLink
