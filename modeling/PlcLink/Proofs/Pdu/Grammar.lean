import Mathlib
import PlcLink.Proofs.Pdu.RoundTrip
import PlcLink.Proofs.UserData.Alarms

/-!
# What PDUs say

Each kind of body is read from a PDU of a shape of its own: its type, the
function it names, and what its sections hold. Addresses are read from their
wire forms and from nothing else, and items from the bytes that spell them.
-/

namespace PlcLink

theorem TransportSize.toByte_of_ofByte? {byte : UInt8} {size : TransportSize}
    (isSize : TransportSize.ofByte? byte = some size) :
    size.toByte = byte := by
  apply UInt8.toNat.inj
  unfold TransportSize.ofByte? at isSize
  split at isSize <;> cases isSize <;> exact Eq.symm ‹byte.toNat = _›

theorem Area.toByte_of_ofByte? {byte : UInt8} {area : Area}
    (isArea : Area.ofByte? byte = some area) : area.toByte = byte := by
  apply UInt8.toNat.inj
  unfold Area.ofByte? at isArea
  split at isArea <;> cases isArea <;> exact Eq.symm ‹byte.toNat = _›

theorem Function.toByte_of_ofByte? {byte : UInt8} {function : Function}
    (isFunction : Function.ofByte? byte = some function) :
    function.toByte = byte := by
  apply UInt8.toNat.inj
  unfold Function.ofByte? at isFunction
  split at isFunction <;> cases isFunction <;>
    exact Eq.symm ‹byte.toNat = _›

theorem ReturnCode.normal_ofByte (byte : UInt8) : (ofByte byte).Normal := by
  unfold ofByte
  split
  case h_10 =>
    intro isKnown
    simp only [knownBytes, List.mem_cons, List.not_mem_nil, or_false]
      at isKnown
    obtain rfl | rfl | rfl | rfl | rfl | rfl | rfl | rfl | rfl := isKnown <;>
      contradiction
  all_goals trivial

namespace VarSpec

variable {input rest : Bytes} {spec : VarSpec} {specs : List VarSpec}

/-- Three bytes are those of the number that they join to. -/
theorem split_addressBytes (first second third : UInt8) {value : Nat}
    (joined : value = (first.toNat * 256 + second.toNat) * 256 + third.toNat) :
    value < 16777216
      ∧ UInt8.ofNat (value / 65536) = first
      ∧ UInt8.ofNat (value / 256 % 256) = second
      ∧ UInt8.ofNat (value % 256) = third := by
  have firstBound := first.toNat_lt
  have secondBound := second.toNat_lt
  have thirdBound := third.toNat_lt
  refine ⟨by omega, ?_, ?_, ?_⟩ <;> apply UInt8.toNat.inj <;>
    rw [UInt8.toNat_ofNat'] <;> omega

/-- An address of 24 bits is in range and in normal form, and has its bits. -/
theorem addressBits_of_split {bits : Nat} (bound : bits < 16777216)
    (isAddress : spec.byteAddress = UInt32.ofNat (bits / 8))
    (isIndex : spec.bitIndex = UInt8.ofNat (bits % 8)) :
    spec.byteAddress ≤ maxByteAddress ∧ spec.Normal
      ∧ spec.addressBits = bits := by
  have address : spec.byteAddress.toNat = bits / 8 := by
    rw [isAddress]
    apply UInt32.toNat_ofNat_of_lt'
    change bits / 8 < 4294967296
    omega
  have index : spec.bitIndex.toNat = bits % 8 := by
    rw [isIndex]
    apply UInt8.toNat_ofNat_of_lt'
    change bits % 8 < 256
    omega
  refine ⟨UInt32.le_iff_toNat_le.2 ?_, UInt8.le_iff_toNat_le.2 ?_, ?_⟩
  · rw [address]
    change bits / 8 ≤ 2097151
    omega
  · rw [index]
    change bits % 8 ≤ 7
    omega
  · rw [addressBits, address, index]
    omega

/-- An address is read from its wire form. -/
theorem emit_of_parse (read : parse input = .ok (spec, rest)) :
    spec.Normal ∧ ∃ written,
      spec.emit.result = .ok written ∧ input = written ++ rest := by
  unfold parse at read
  split at read
  case h_2 => cases read
  split at read
  · cases read
  rename_i isForm
  split at read
  case h_2 => cases read
  rename_i size countHigh countLow blockHigh blockLow areaByte first second
    third after
  split at read
  case h_2 => cases read
  rename_i transportSize area isSize isArea
  simp only [not_or, not_not] at isForm
  obtain ⟨rfl, rfl, rfl⟩ := isForm
  cases TransportSize.toByte_of_ofByte? isSize
  cases Area.toByte_of_ofByte? isArea
  generalize isBits : (first.toNat * 256 + second.toNat) * 256 + third.toNat
    = bits at read
  obtain ⟨bound, isFirst, isSecond, isThird⟩ :=
    split_addressBytes first second third isBits.symm
  obtain ⟨isSpec, rfl⟩ := Prod.mk.inj (Except.ok.inj read)
  obtain ⟨inRange, normal, bitsBack⟩ := addressBits_of_split bound
    (congrArg byteAddress isSpec.symm) (congrArg bitIndex isSpec.symm)
  subst isSpec
  refine ⟨normal, ?_⟩
  rw [emit, if_neg (UInt32.not_lt.2 inRange)]
  refine ⟨_, rfl, ?_⟩
  rw [bitsBack]
  simp only [isFirst, isSecond, isThird, Word.bytes16_ofBytes16,
    List.cons_append, List.nil_append]
  rfl

/-- Addresses are read from their wire forms. -/
theorem emitMany_of_parseMany {count : Nat}
    (read : parseMany count input = .ok (specs, rest)) :
    count = specs.length ∧ (∀ spec ∈ specs, spec.Normal) ∧ ∃ written,
      (emitMany specs).result = .ok written ∧ input = written ++ rest := by
  induction count generalizing input specs with
  | zero =>
      cases read
      exact ⟨rfl, by simp, [], rfl, rfl⟩
  | succ count inductionHypothesis =>
      obtain ⟨⟨spec, behind⟩, first, readRest⟩ := exists_of_bind_eq_ok read
      obtain ⟨⟨others, after⟩, readOthers, same⟩ :=
        exists_of_bind_eq_ok readRest
      cases same
      obtain ⟨firstNormal, front, emitted, rfl⟩ := emit_of_parse first
      obtain ⟨rfl, normal, back, othersEmitted, rfl⟩ :=
        inductionHypothesis readOthers
      exact ⟨rfl, List.forall_mem_cons.2 ⟨firstNormal, normal⟩, front ++ back,
        Emission.result_append emitted othersEmitted,
        (List.append_assoc ..).symm⟩

end VarSpec

namespace DataItem

variable {input : Bytes} {items : List DataItem} {count : Nat}

/-- Items that fill the input are spelled by it. -/
theorem parseAll_eq_ok_iff :
    parseAll count input = .ok items ↔
      count = items.length ∧ SpellsMany input items := by
  constructor
  · intro read
    obtain ⟨⟨others, rest⟩, read, checked⟩ := exists_of_bind_eq_ok read
    dsimp only at checked
    split at checked
    · rename_i ends
      cases checked
      obtain ⟨own, rfl, counted, spelled⟩ := exists_spells_of_parseMany read
      rw [ends, List.append_nil]
      exact ⟨counted, spelled⟩
    · cases checked
  · rintro ⟨rfl, spelled⟩
    have read := parseMany_append spelled []
    rw [List.append_nil] at read
    rw [parseAll, read]
    rfl

/-- An item on its own is not filled up. -/
theorem spellsMany_single {code typeByte high low : UInt8}
    {variableType : VariableType} {data : Bytes}
    (known : VariableType.ofByte? typeByte = some variableType)
    (counts : Counts variableType (Word.ofBytes16 high low) data.length) :
    SpellsMany (code :: typeByte :: high :: low :: data)
      [{ returnCode := .ofByte code, variableType, data }] := by
  have first : Spells true (code :: typeByte :: high :: low :: (data ++ []))
      { returnCode := .ofByte code, variableType, data } :=
    .intro known counts rfl
  rw [List.append_nil] at first
  rw [← List.append_nil (code :: _)]
  exact .cons first .nil

end DataItem

namespace Pdu

variable {pdu : Pdu} {body : Body}

theorem decodeSpecs_eq_ok_iff {count : UInt8} {rest : Bytes}
    {specs : List VarSpec} :
    decodeSpecs count rest = .ok specs ↔
      count.toNat = specs.length ∧ (∀ spec ∈ specs, spec.Normal)
        ∧ (VarSpec.emitMany specs).result = .ok rest := by
  constructor
  · intro read
    obtain ⟨⟨others, after⟩, read, checked⟩ := exists_of_bind_eq_ok read
    dsimp only at checked
    split at checked
    · rename_i ends
      cases checked
      obtain ⟨counted, normal, written, emitted, rfl⟩ :=
        VarSpec.emitMany_of_parseMany read
      rw [ends, List.append_nil]
      exact ⟨counted, normal, emitted⟩
    · cases checked
  · rintro ⟨counted, normal, emitted⟩
    exact Body.decodeSpecs_emitMany normal counted emitted

/-- A count stands behind the function, and what follows it is read by it. -/
theorem exists_of_countAndRest {result : Type} {parameter tail : Bytes}
    {function : UInt8} {next : UInt8 × Bytes -> Except Error result}
    {answer : result}
    (names : parameter = function :: tail)
    (read : (countAndRest parameter).bind next = .ok answer) :
    ∃ count rest,
      parameter = function :: count :: rest
        ∧ next (count, rest) = .ok answer := by
  subst names
  match tail with
  | [] => cases read
  | count :: rest => exact ⟨count, rest, rfl, read⟩

theorem functionOf_eq_ok_iff {function : Function} :
    pdu.functionOf = .ok function ↔
      ∃ rest, pdu.parameter = function.toByte :: rest := by
  constructor
  · intro named
    unfold functionOf at named
    split at named
    · cases named
    · rename_i byte isFirst
      split at named
      · cases named
      · rename_i other isFunction
        cases named
        cases Function.toByte_of_ofByte? isFunction
        exact List.head?_eq_some_iff.1 isFirst
  · rintro ⟨rest, names⟩
    exact functionOf_eq_ok names

/-- What a PDU says, by its type, the function it names and its sections. -/
inductive Says (pdu : Pdu) : Body -> Prop
  | setupRequest {rest : Bytes} {setup : Setup}
      (isJob : pdu.header.type = .job)
      (names : pdu.parameter = Function.setupCommunication.toByte :: rest)
      (read : Setup.parse pdu.parameter = .ok setup) :
      Says pdu (.setupRequest setup)
  | setupResponse {rest : Bytes} {setup : Setup}
      (isReply : pdu.header.type = .ackData)
      (names : pdu.parameter = Function.setupCommunication.toByte :: rest)
      (read : Setup.parse pdu.parameter = .ok setup) :
      Says pdu (.setupResponse setup)
  | readRequest {count : UInt8} {rest : Bytes} {specs : List VarSpec}
      (isJob : pdu.header.type = .job)
      (names : pdu.parameter = Function.readVar.toByte :: count :: rest)
      (specsRead : decodeSpecs count rest = .ok specs) :
      Says pdu (.readRequest specs)
  | readResponse {count : UInt8} {rest : Bytes} {items : List DataItem}
      (isReply : pdu.header.type = .ackData)
      (names : pdu.parameter = Function.readVar.toByte :: count :: rest)
      (itemsRead : DataItem.parseAll count.toNat pdu.data = .ok items) :
      Says pdu (.readResponse items)
  | writeRequest {count : UInt8} {rest : Bytes} {specs : List VarSpec}
      {items : List DataItem}
      (isJob : pdu.header.type = .job)
      (names : pdu.parameter = Function.writeVar.toByte :: count :: rest)
      (specsRead : decodeSpecs count rest = .ok specs)
      (itemsRead : DataItem.parseAll count.toNat pdu.data = .ok items) :
      Says pdu (.writeRequest (joinWrites specs items))
  | writeResponse {count : UInt8} {rest : Bytes}
      (isReply : pdu.header.type = .ackData)
      (names : pdu.parameter = Function.writeVar.toByte :: count :: rest)
      (counted : pdu.data.length = count.toNat) :
      Says pdu (.writeResponse (pdu.data.map ReturnCode.ofByte))
  | userData {parameter : UserData.Parameter}
      (isUserData : pdu.header.type = .userData)
      (read : UserData.Parameter.parse pdu.parameter = .ok parameter)
      (noData : pdu.data = []) :
      Says pdu (.userData parameter none)
  | userDataItem {parameter : UserData.Parameter} {item : DataItem}
      (isUserData : pdu.header.type = .userData)
      (read : UserData.Parameter.parse pdu.parameter = .ok parameter)
      (someData : pdu.data ≠ [])
      (itemRead : DataItem.parseAll 1 pdu.data = .ok [item]) :
      Says pdu (.userData parameter (some item))
  | ack (isAck : pdu.header.type = .ack) : Says pdu .ack

theorem says_of_decodeJob {function : Function} {rest : Bytes}
    (isJob : pdu.header.type = .job)
    (names : pdu.parameter = function.toByte :: rest)
    (decoded : pdu.decodeJob function = .ok body) : pdu.Says body := by
  cases function with
  | setupCommunication =>
      obtain ⟨setup, read, same⟩ := exists_of_bind_eq_ok decoded
      cases same
      exact .setupRequest isJob names read
  | readVar =>
      obtain ⟨count, rest, isParameter, decoded⟩ :=
        exists_of_countAndRest names decoded
      obtain ⟨specs, specsRead, same⟩ := exists_of_bind_eq_ok decoded
      cases same
      exact .readRequest isJob isParameter specsRead
  | writeVar =>
      obtain ⟨count, rest, isParameter, decoded⟩ :=
        exists_of_countAndRest names decoded
      obtain ⟨specs, specsRead, decoded⟩ := exists_of_bind_eq_ok decoded
      obtain ⟨items, itemsRead, same⟩ := exists_of_bind_eq_ok decoded
      cases same
      exact .writeRequest isJob isParameter specsRead itemsRead

theorem says_of_decodeReply {function : Function} {rest : Bytes}
    (isReply : pdu.header.type = .ackData)
    (names : pdu.parameter = function.toByte :: rest)
    (decoded : pdu.decodeReply function = .ok body) : pdu.Says body := by
  cases function with
  | setupCommunication =>
      obtain ⟨setup, read, same⟩ := exists_of_bind_eq_ok decoded
      cases same
      exact .setupResponse isReply names read
  | readVar =>
      obtain ⟨count, rest, isParameter, decoded⟩ :=
        exists_of_countAndRest names decoded
      obtain ⟨items, itemsRead, same⟩ := exists_of_bind_eq_ok decoded
      cases same
      exact .readResponse isReply isParameter itemsRead
  | writeVar =>
      obtain ⟨count, rest, isParameter, decoded⟩ :=
        exists_of_countAndRest names decoded
      dsimp only at decoded
      split at decoded
      · cases decoded
      · rename_i counted
        cases decoded
        exact .writeResponse isReply isParameter (not_not.1 counted)

theorem says_of_decodeUserData (isUserData : pdu.header.type = .userData)
    (decoded : pdu.decodeUserData = .ok body) : pdu.Says body := by
  obtain ⟨parameter, read, decoded⟩ := exists_of_bind_eq_ok decoded
  split at decoded
  · rename_i noData
    cases decoded
    exact .userData isUserData read noData
  · rename_i someData
    obtain ⟨items, itemsRead, same⟩ := exists_of_bind_eq_ok decoded
    cases same
    obtain ⟨single, -⟩ := DataItem.parseAll_eq_ok_iff.1 itemsRead
    obtain ⟨item, rfl⟩ := List.length_eq_one_iff.1 single.symm
    exact .userDataItem isUserData read someData itemsRead

/-- What is decoded is what the PDU says. -/
theorem says_of_decode (decoded : pdu.decode = .ok body) : pdu.Says body := by
  unfold decode at decoded
  split at decoded
  · rename_i isUserData
    exact says_of_decodeUserData isUserData decoded
  · rename_i isAck
    cases decoded
    exact .ack isAck
  · rename_i isJob
    obtain ⟨function, isFunction, decoded⟩ := exists_of_bind_eq_ok decoded
    obtain ⟨rest, names⟩ := functionOf_eq_ok_iff.1 isFunction
    exact says_of_decodeJob isJob names decoded
  · rename_i isReply
    obtain ⟨function, isFunction, decoded⟩ := exists_of_bind_eq_ok decoded
    obtain ⟨rest, names⟩ := functionOf_eq_ok_iff.1 isFunction
    exact says_of_decodeReply isReply names decoded

end Pdu
end PlcLink
