import Mathlib
import PlcLink.Guarded
import PlcLink.Pdu.Body
import PlcLink.Proofs.Failure

/-!
# Guarded reading of PDUs

A PDU and what it says, read with a guard at every step. Every count and every
length a PDU announces is a byte or a word, and is compared with the section it
is about before anything is read by it.
-/

namespace PlcLink
namespace Guarded

/-! ## Headers and sections -/

/-- Read a header and hand out what follows it. -/
def readHeader (input : Bytes) : Guarded (Header × Bytes) :=
  if input.length < Header.plainLength then
    refuse (.insufficientData Header.plainLength input.length)
  else do
    if (<- index input 0) ≠ Header.identifier then
      refuse .invalidFrame
    else do
      match PduType.ofByte? (<- index input 1) with
      | none => refuse (.protocolViolation .pduType)
      | some type => do
          let header : Header :=
            { type
              reserved := <- word input 2
              reference := <- word input 4
              parameterLength := <- word input 6
              dataLength := <- word input 8
              error? := none }
          let rest <- after input Header.plainLength
          if type.hasErrorWord then
            if rest.length < 2 then
              refuse (.insufficientData Header.ackLength input.length)
            else do
              let error := .ofBytes (<- index rest 0) (<- index rest 1)
              return ({ header with error? := some error }, <- after rest 2)
          else
            return (header, rest)

/-- Read one whole PDU. -/
def readPdu (input : Bytes) : Guarded Pdu := do
  let (header, rest) <- readHeader input
  let parameterLength := header.parameterLength.toNat
  if rest.length
      ≠ (<- add (2 ^ 64) parameterLength header.dataLength.toNat) then
    refuse (.protocolViolation .sectionLengths)
  else do
    let parameter <- before rest parameterLength
    let data <- after rest parameterLength
    let _ <- after rest rest.length
    return { header, parameter, data }

theorem readHeader_eq (input : Bytes) :
    readHeader input = ofResult (Header.parse input) := by
  match input with
  | [] | [_] | [_, _] | [_, _, _] | [_, _, _, _] | [_, _, _, _, _]
  | [_, _, _, _, _, _] | [_, _, _, _, _, _, _] | [_, _, _, _, _, _, _, _]
  | [_, _, _, _, _, _, _, _, _] => rfl
  | first :: typeByte :: _ :: _ :: _ :: _ :: _ :: _ :: _ :: _ :: rest =>
      rw [readHeader, if_neg (by simp [Header.plainLength]), Header.parse]
      simp only [index_cons_zero, index_cons_succ, word_cons_zero,
        word_cons_succ, ok_bind]
      split
      · rfl
      · cases PduType.ofByte? typeByte with
        | none => rfl
        | some type =>
            simp only [Header.plainLength, after_cons_succ, after_zero,
              ok_bind]
            split
            · obtain _ | ⟨errorClass, _ | ⟨code, rest⟩⟩ := rest
              · rfl
              · rfl
              · simp
            · rfl

theorem readPdu_eq (input : Bytes) :
    readPdu input = ofResult (Pdu.parse input) := by
  rw [readPdu, Pdu.parse, readHeader_eq, ofResult_bind]
  congr 1
  funext read
  obtain ⟨header, rest⟩ := read
  have parameterBound := header.parameterLength.toNat_lt
  have dataBound := header.dataLength.toNat_lt
  dsimp only
  rw [add_eq (by omega), ok_bind]
  split
  · rfl
  · rename_i same
    rw [before_eq (by omega), ok_bind, after_eq (by omega), ok_bind,
      after_eq le_rfl]
    rfl

/-! ## Data items -/

/-- Read an item and hand out what follows it and its fill byte. -/
def readItem (isLast : Bool) : Bytes -> Guarded (DataItem × Bytes)
  | code :: typeByte :: high :: low :: rest =>
      match VariableType.ofByte? typeByte with
      | none => refuse (.decode .variableType)
      | some variableType =>
          let length :=
            DataItem.byteLength variableType (Word.ofBytes16 high low)
          if rest.length < length then
            refuse (.insufficientData length rest.length)
          else do
            let data <- before rest length
            let rest <- after rest length
            let item : DataItem :=
              { returnCode := .ofByte code, variableType, data }
            if item.fill isLast = 0 then
              return (item, rest)
            else if rest = [] then
              refuse (.protocolViolation .missingFillByte)
            else
              return (item, <- after rest 1)
  | _ => refuse .invalidFrame

/-- Read the items of a list from a place on and hand out what follows them. -/
def itemsFrom (count : Nat) :
    Nat -> Nat -> Bytes -> Guarded (List DataItem × Bytes)
  | 0, _, input => return ([], input)
  | left + 1, place, input => do
      let next <- add (2 ^ 64) place 1
      let (item, rest) <- readItem (next == count) input
      let (items, rest) <- itemsFrom count left next rest
      return (item :: items, rest)

/-- Read a list of exactly `count` items that fills the input. -/
def readItems (count : Nat) (input : Bytes) : Guarded (List DataItem) := do
  let (items, rest) <- itemsFrom count count 0 input
  if rest = [] then
    return items
  else
    refuse (.protocolViolation .trailingItems)

theorem readItem_eq (isLast : Bool) (input : Bytes) :
    readItem isLast input = ofResult (DataItem.parse isLast input) := by
  match input with
  | [] | [_] | [_, _] | [_, _, _] => rfl
  | code :: typeByte :: high :: low :: rest =>
      rw [readItem, DataItem.parse]
      cases VariableType.ofByte? typeByte with
      | none => rfl
      | some variableType =>
          dsimp only
          split
          · rfl
          · rename_i there
            rw [before_eq (by omega), ok_bind, after_eq (by omega), ok_bind]
            split
            · rfl
            · cases rest.drop _ with
              | nil => rfl
              | cons fill rest => simp

/-- The last item is told by its place, or by nothing being left to read. -/
theorem itemsFrom_eq {count left place : Nat} (isCount : place + left = count)
    (fits : count < 2 ^ 64) (input : Bytes) :
    itemsFrom count left place input
      = ofResult (DataItem.parseMany left input) := by
  induction left generalizing place input with
  | zero => rfl
  | succ left inductionHypothesis =>
      have last : (place + 1 == count) = (left == 0) := by
        rw [Bool.eq_iff_iff, beq_iff_eq, beq_iff_eq]
        omega
      rw [itemsFrom, add_eq (by omega), ok_bind, last, readItem_eq,
        DataItem.parseMany, ofResult_bind]
      congr 1
      funext read
      obtain ⟨item, rest⟩ := read
      dsimp only
      rw [inductionHypothesis (by omega), ofResult_bind]
      rfl

theorem readItems_eq {count : Nat} (fits : count < 2 ^ 64) (input : Bytes) :
    readItems count input = ofResult (DataItem.parseAll count input) := by
  rw [readItems, itemsFrom_eq (Nat.zero_add _) fits, DataItem.parseAll,
    ofResult_bind]
  congr 1
  funext read
  obtain ⟨items, rest⟩ := read
  dsimp only
  split <;> rfl

/-! ## Parameters of user-data services -/

/-- Read what follows the length of a parameter section. -/
def readFields (input : Bytes) (length : UInt8) :
    Guarded UserData.Parameter := do
  let method <- index input 4
  let types <- index input 5
  match UserData.FunctionType.ofByte? (UInt8.ofNat (types.toNat / 16)) with
  | none => refuse (.decode .functionType)
  | some functionType =>
      match UserData.FunctionGroup.ofByte?
        (UInt8.ofNat (types.toNat % 16)) with
      | none => refuse (.decode .functionGroup)
      | some group => do
          let short : UserData.Parameter :=
            { method
              functionType
              group
              subfunction := <- index input 6
              sequence := <- index input 7
              dataUnitRef := 0
              isLast := true
              error := 0 }
          if length = 8 then
            return {
              short with
              dataUnitRef := <- index input 8
              isLast := (<- index input 9) == 0
              error := <- word input 10 }
          else
            return short

/-- Read a whole parameter section. -/
def readParameter (input : Bytes) : Guarded UserData.Parameter :=
  if input.length < 8 then
    refuse (.protocolViolation .userDataHead)
  else do
    if (<- before input 3) ≠ [0x00, 0x01, 0x12] then
      refuse (.protocolViolation .userDataHead)
    else do
      let length <- index input 3
      let total <- add (2 ^ 64) 4 length.toNat
      if input.length ≠ total ∨ length ≠ 4 ∧ length ≠ 8 then
        refuse (.protocolViolation .userDataLength)
      else do
        let _ <- after input input.length
        readFields input length

theorem parse_eq_error_of_head {input : Bytes}
    (wrong : input.length < 8 ∨ input.take 3 ≠ [0x00, 0x01, 0x12]) :
    UserData.Parameter.parse input
      = .error (.protocolViolation .userDataHead) := by
  unfold UserData.Parameter.parse
  split
  · obtain short | other := wrong
    · simp only [List.length_cons] at short
      omega
    · exact absurd rfl other
  · rfl

/-- The length of the section says whether there is more to read than the short
form has. -/
theorem readFields_eq {length : UInt8} {rest : Bytes}
    (isLength : length.toNat = 4 + rest.length)
    (isForm : length = 4 ∨ length = 8)
    (first second third method types subfunction sequence : UInt8) :
    readFields
        (first :: second :: third :: length :: method :: types ::
          subfunction :: sequence :: rest) length
      = ofResult
        (UserData.Parameter.parseBody method types subfunction sequence
          rest) := by
  simp only [readFields, index_cons_succ, index_cons_zero, word_cons_succ,
    ok_bind, UserData.Parameter.parseBody]
  cases UserData.FunctionType.ofByte? (UInt8.ofNat (types.toNat / 16)) with
  | none => rfl
  | some functionType =>
      cases UserData.FunctionGroup.ofByte?
        (UInt8.ofNat (types.toNat % 16)) with
      | none => rfl
      | some group =>
          dsimp only
          obtain rfl | rfl := isForm
          · have isShort : rest = [] := by
              apply List.length_eq_zero_iff.1
              change 4 = _ at isLength
              omega
            rw [isShort]
            rfl
          · have isLong : rest.length = 4 := by
              change 8 = _ at isLength
              omega
            obtain ⟨dataUnitRef, more, errorHigh, errorLow, rfl⟩ :=
              List.length_eq_four.1 isLong
            rfl

theorem readParameter_eq (input : Bytes) :
    readParameter input = ofResult (UserData.Parameter.parse input) := by
  unfold readParameter
  split
  · rename_i short
    rw [parse_eq_error_of_head (.inl short)]
    rfl
  · rename_i long
    rw [before_eq (by omega), ok_bind]
    split
    · rename_i other
      rw [parse_eq_error_of_head (.inr other)]
      rfl
    · rename_i head
      match input with
      | [] | [_] | [_, _] | [_, _, _] | [_, _, _, _] | [_, _, _, _, _]
      | [_, _, _, _, _, _] | [_, _, _, _, _, _, _] =>
          simp at long
      | first :: second :: third :: length :: method :: types ::
          subfunction :: sequence :: rest =>
          obtain ⟨rfl, rfl, rfl⟩ : first = 0 ∧ second = 1 ∧ third = 0x12 := by
            simpa using head
          have lengthBound := length.toNat_lt
          have total : (0 :: 1 :: 0x12 :: length :: method :: types ::
              subfunction :: sequence :: rest).length = rest.length + 8 := rfl
          rw [index_cons_succ, index_cons_succ, index_cons_succ,
            index_cons_zero, ok_bind, add_eq (by omega), ok_bind,
            after_eq le_rfl, ok_bind, total, UserData.Parameter.parse]
          by_cases wrong : length.toNat ≠ 4 + rest.length
              ∨ length ≠ 4 ∧ length ≠ 8
          · rw [if_pos wrong, if_pos (wrong.imp_left (by omega))]
            rfl
          · rw [if_neg wrong,
              if_neg fun other => wrong (other.imp_left (by omega))]
            simp only [not_or, not_and_or, not_not] at wrong
            exact readFields_eq wrong.1 wrong.2 _ _ _ _ _ _ _

/-! ## Bodies -/

/-- Read the parameter section of a setup. -/
def readSetup (parameter : Bytes) : Guarded Setup :=
  if parameter.length ≠ 8 then
    refuse (.protocolViolation .setupLength)
  else do
    return {
      calling := <- word parameter 2
      called := <- word parameter 4
      pduSize := <- word parameter 6 }

/-- The item count of a read or a write, if there is one. -/
def readCount (parameter : Bytes) : Guarded Nat :=
  match parameter[1]? with
  | none => refuse (.insufficientData 2 parameter.length)
  | some count => return count.toNat

/-- Read the addresses of a request, which end with the parameter section. -/
def readSpecs (parameter : Bytes) (count : Nat) : Guarded (List VarSpec) := do
  let (specs, rest) <-
    ofResult (VarSpec.parseMany count (<- after parameter 2))
  if rest = [] then
    return specs
  else
    refuse (.protocolViolation .trailingVarSpecs)

/-- What a PDU of a type with functions says. -/
def readFunction (pdu : Pdu) (isRequest : Bool) : Function -> Guarded Body
  | .setupCommunication => do
      let setup <- readSetup pdu.parameter
      return if isRequest then .setupRequest setup else .setupResponse setup
  | .readVar => do
      let count <- readCount pdu.parameter
      if isRequest then
        return .readRequest (<- readSpecs pdu.parameter count)
      else
        return .readResponse (<- readItems count pdu.data)
  | .writeVar => do
      let count <- readCount pdu.parameter
      if isRequest then
        let specs <- readSpecs pdu.parameter count
        let items <- readItems count pdu.data
        return .writeRequest (Pdu.joinWrites specs items)
      else if pdu.data.length ≠ count then
        refuse (.protocolViolation .writeCodeCount)
      else
        return .writeResponse (pdu.data.map ReturnCode.ofByte)

/-- What a PDU says. A user-data message has the last of its items. -/
def decode (pdu : Pdu) : Guarded Body :=
  match pdu.header.type with
  | .userData => do
      let parameter <- readParameter pdu.parameter
      if pdu.data = [] then
        return .userData parameter none
      else
        return .userData parameter (<- readItems 1 pdu.data).getLast?
  | .ack => return .ack
  | .job => do readFunction pdu true (<- ofResult pdu.functionOf)
  | .ackData => do readFunction pdu false (<- ofResult pdu.functionOf)

theorem readSetup_eq (parameter : Bytes) :
    readSetup parameter = ofResult (Setup.parse parameter) := by
  unfold readSetup Setup.parse
  split
  · rename_i other
    split
    · exact absurd rfl other
    · rfl
  · rename_i isEight
    match parameter, not_not.1 isEight with
    | [_, _, _, _, _, _, _, _], _ => rfl

/-- What follows the count is there whenever the count is. -/
theorem readCount_bind {result : Type} (parameter : Bytes)
    {next : Nat -> Guarded result}
    {others : UInt8 × Bytes -> Except Error result}
    (agrees : ∀ function count rest, parameter = function :: count :: rest ->
      next count.toNat = ofResult (others (count, rest))) :
    readCount parameter >>= next
      = ofResult (Pdu.countAndRest parameter >>= others) := by
  match parameter with
  | [] | [_] => rfl
  | function :: count :: rest => exact agrees function count rest rfl

theorem readSpecs_eq (function count : UInt8) (rest : Bytes) :
    readSpecs (function :: count :: rest) count.toNat
      = ofResult (Pdu.decodeSpecs count rest) := by
  rw [readSpecs, after_cons_succ, after_cons_succ, after_zero, ok_bind,
    Pdu.decodeSpecs, ofResult_bind]
  congr 1
  funext read
  obtain ⟨specs, rest⟩ := read
  dsimp only
  split <;> rfl

theorem readFunction_job (pdu : Pdu) (function : Function) :
    readFunction pdu true function = ofResult (pdu.decodeJob function) := by
  cases function with
  | setupCommunication =>
      simp only [readFunction, Pdu.decodeJob, readSetup_eq, ofResult_bind]
      rfl
  | readVar =>
      apply readCount_bind
      intro function count rest isSection
      simp only [isSection, if_true, readSpecs_eq, ofResult_bind]
      rfl
  | writeVar =>
      apply readCount_bind
      intro function count rest isSection
      have fits := count.toNat_lt
      simp only [isSection, if_true, readSpecs_eq, ofResult_bind]
      rw [readItems_eq (by omega)]
      rfl

theorem readFunction_reply (pdu : Pdu) (function : Function) :
    readFunction pdu false function
      = ofResult (pdu.decodeReply function) := by
  cases function with
  | setupCommunication =>
      simp only [readFunction, Pdu.decodeReply, readSetup_eq, ofResult_bind]
      rfl
  | readVar =>
      apply readCount_bind
      intro function count rest isSection
      have fits := count.toNat_lt
      rw [readItems_eq (by omega), ofResult_bind]
      rfl
  | writeVar =>
      apply readCount_bind
      intro function count rest isSection
      rw [if_neg Bool.false_ne_true]
      dsimp only
      split <;> rfl

/-- The last of the items of a user-data message is the first one. -/
theorem getLast?_of_parseAll_one {input : Bytes} {items : List DataItem}
    (parsed : DataItem.parseAll 1 input = .ok items) :
    items.getLast? = items.head? := by
  obtain ⟨⟨found, rest⟩, many, filled⟩ := exists_of_bind_eq_ok parsed
  obtain ⟨⟨item, rest⟩, -, many⟩ := exists_of_bind_eq_ok many
  cases Except.ok.inj many
  dsimp only at filled
  split at filled
  · cases Except.ok.inj filled
    rfl
  · cases filled

theorem decode_eq (pdu : Pdu) : decode pdu = ofResult pdu.decode := by
  unfold decode Pdu.decode
  cases pdu.header.type with
  | userData =>
      simp only [Pdu.decodeUserData, readParameter_eq, ofResult_bind]
      congr 1
      funext parameter
      split
      · rfl
      · rw [readItems_eq (by decide)]
        cases parsed : DataItem.parseAll 1 pdu.data with
        | error error => rfl
        | ok items =>
            simp only [ofResult_ok, ok_bind, getLast?_of_parseAll_one parsed]
            rfl
  | ack => rfl
  | job =>
      dsimp only
      rw [ofResult_bind]
      congr 1
      funext function
      exact readFunction_job pdu function
  | ackData =>
      dsimp only
      rw [ofResult_bind]
      congr 1
      funext function
      exact readFunction_reply pdu function

end Guarded
end PlcLink
