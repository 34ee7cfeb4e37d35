import Mathlib
import PlcLink.Proofs.Transport.Frames

/-!
# The variable part of a header

Behind five bytes that are always there, the header of a TPDU without a payload
lists parameters. Which bytes list which parameters is said here without a
parser. Reading accepts the lists with at most one byte behind them and no other
bytes, and gives each field the value of the last parameter that fits it.
-/

namespace PlcLink

theorem TpduType.toByte_of_ofByte? {byte : UInt8} {type : TpduType}
    (isType : TpduType.ofByte? byte = some type) : type.toByte = byte := by
  apply UInt8.toNat.inj
  unfold TpduType.ofByte? at isType
  split at isType <;> cases isType <;> exact Eq.symm ‹byte.toNat = _›

theorem TpduType.toByte_injective : Function.Injective TpduType.toByte := by
  intro first second same
  apply Option.some.inj
  rw [← TpduType.ofByte?_toByte first, same, TpduType.ofByte?_toByte]

theorem Word.bytes16_injective : Function.Injective Word.bytes16 := by
  intro first second same
  obtain ⟨sameHigh, same⟩ := List.cons.inj same
  obtain ⟨sameLow, -⟩ := List.cons.inj same
  rw [← ofBytes16_high_low first, sameHigh, sameLow, ofBytes16_high_low]

namespace TpduParameter

/-- Bytes are these parameters one behind the other, each of them whole, and then
the bytes left over. -/
structure Lists (bytes : Bytes) (parameters : List TpduParameter)
    (leftover : Bytes) : Prop where
  fit : ∀ parameter ∈ parameters, parameter.2.length < 256
  joined : parameters.flatMap encode ++ leftover = bytes

/-- The value of the last parameter with the code and a value of the length. -/
def last? (code : UInt8) (length : Nat)
    (parameters : List TpduParameter) : Option Bytes :=
  (parameters.filter fun parameter =>
    parameter.1 = code ∧ parameter.2.length = length).getLast?.map Prod.snd

variable {bytes : Bytes} {parameters : List TpduParameter}

theorem exists_lists_of_parseAll (read : parseAll bytes = .ok parameters) :
    ∃ leftover, leftover.length < 2 ∧ Lists bytes parameters leftover := by
  induction bytes using parseAll.induct generalizing parameters with
  | case1 code length rest whole inductionHypothesis =>
      rw [parseAll, if_pos whole] at read
      obtain ⟨others, readOthers, same⟩ := exists_of_bind_eq_ok read
      cases same
      obtain ⟨leftover, leftoverShort, fit, joined⟩ :=
        inductionHypothesis readOthers
      have taken : (rest.take length.toNat).length = length.toNat :=
        List.length_take_of_le whole
      refine ⟨leftover, leftoverShort, ?_, ?_⟩
      · exact List.forall_mem_cons.2 ⟨taken.trans_lt length.toNat_lt, fit⟩
      · rw [List.flatMap_cons, encode, taken, UInt8.ofNat_toNat,
          List.append_assoc, joined, List.cons_append, List.cons_append,
          List.take_append_drop]
  | case2 code length rest cut =>
      rw [parseAll, if_neg cut] at read
      cases read
  | case3 bytes isShort =>
      have short : bytes.length < 2 := by
        obtain - | ⟨code, - | ⟨length, rest⟩⟩ := bytes
        · exact Nat.two_pos
        · exact Nat.one_lt_two
        · exact (isShort code length rest rfl).elim
      rw [parseAll_of_short short] at read
      cases read
      exact ⟨bytes, short, by simp, rfl⟩

/-- Reading accepts the lists with at most one byte behind them. -/
theorem parseAll_eq_ok_iff :
    parseAll bytes = .ok parameters ↔
      ∃ leftover, leftover.length < 2 ∧ Lists bytes parameters leftover := by
  refine ⟨exists_lists_of_parseAll, ?_⟩
  rintro ⟨leftover, leftoverShort, fit, rfl⟩
  exact parseAll_flatMap_encode fit leftoverShort

theorem parseAll_eq_error {error : Error}
    (failed : parseAll bytes = .error error) : error = .invalidFrame := by
  induction bytes using parseAll.induct with
  | case1 code length rest whole inductionHypothesis =>
      rw [parseAll, if_pos whole] at failed
      exact inductionHypothesis (eq_error_of_bind_ok failed)
  | case2 code length rest cut =>
      rw [parseAll, if_neg cut] at failed
      exact (Except.error.inj failed).symm
  | case3 bytes isShort =>
      rw [parseAll] at failed
      · cases failed
      · exact isShort

@[simp] theorem last?_nil (code : UInt8) (length : Nat) :
    last? code length [] = none := rfl

/-- A parameter that fits is the last one when it comes. -/
theorem last?_concat (code : UInt8) (length : Nat)
    (parameters : List TpduParameter) (parameter : TpduParameter) :
    last? code length (parameters ++ [parameter])
      = if parameter.1 = code ∧ parameter.2.length = length then
          some parameter.2
        else
          last? code length parameters := by
  unfold last?
  rw [List.filter_append]
  split
  · rename_i fits
    simp [fits]
  · rename_i unfit
    simp [unfit]

end TpduParameter

namespace ConnectParameters

open TpduParameter

/-- Parameters as a header states them: three fields in the fixed bytes, and the
others each with the value of the last listed parameter that fits it, or without
a value if there is none. -/
structure States (fixed : Bytes) (listed : List TpduParameter)
    (parameters : ConnectParameters) : Prop where
  fixed_eq : Word.bytes16 parameters.destinationRef
    ++ Word.bytes16 parameters.sourceRef ++ [parameters.classOption] = fixed
  sizeCode_eq : parameters.sizeCode?.map (fun size => [size])
    = last? sizeCode 1 listed
  sourceTsap_eq : parameters.sourceTsap?.map Word.bytes16
    = last? sourceCode 2 listed
  destinationTsap_eq : parameters.destinationTsap?.map Word.bytes16
    = last? destinationCode 2 listed

variable {fixed variablePart : Bytes} {listed : List TpduParameter}
  {parameters : ConnectParameters}

/-- One parameter more is the last one of its field and of no other. -/
theorem States.absorb (states : States fixed listed parameters)
    (parameter : TpduParameter) :
    States fixed (listed ++ [parameter]) (parameters.absorb parameter) := by
  obtain ⟨code, value⟩ := parameter
  obtain ⟨fixedEq, size, source, destination⟩ := states
  have sourceNotDestination : sourceCode ≠ destinationCode := by decide
  match value with
  | [] | _ :: _ :: _ :: _ =>
      constructor <;> simp_all [ConnectParameters.absorb, last?_concat]
  | [value] =>
      by_cases isSize : code = sizeCode <;> constructor <;>
        simp_all [ConnectParameters.absorb, last?_concat]
  | [high, low] =>
      by_cases isSource : code = sourceCode
      · constructor <;> simp_all [ConnectParameters.absorb, last?_concat]
      · by_cases isDestination : code = destinationCode <;> constructor <;>
          simp_all [ConnectParameters.absorb, last?_concat]

theorem States.foldl_absorb {before : List TpduParameter}
    (states : States fixed before parameters) :
    States fixed (before ++ listed)
      (listed.foldl ConnectParameters.absorb parameters) := by
  induction listed generalizing before parameters with
  | nil => rwa [List.append_nil]
  | cons parameter others inductionHypothesis =>
      rw [List.append_cons]
      exact inductionHypothesis (states.absorb parameter)

/-- A header is read from its parameters. -/
theorem exists_parse_eq_ok (fixedLength : fixed.length = 5)
    (read : parseAll variablePart = .ok listed) :
    ∃ parameters, parse (fixed ++ variablePart) = .ok parameters
      ∧ States fixed listed parameters := by
  match fixed, fixedLength with
  | [first, second, third, fourth, fifth], _ =>
      have begins : States [first, second, third, fourth, fifth] []
          { destinationRef := Word.ofBytes16 first second
            sourceRef := Word.ofBytes16 third fourth
            classOption := fifth
            sizeCode? := none
            sourceTsap? := none
            destinationTsap? := none } := by
        constructor <;> simp
      exact ⟨_, (bind_eq_of_eq_ok read).trans rfl, begins.foldl_absorb⟩

theorem parse_eq_error (fixedLength : fixed.length = 5) {error : Error}
    (failed : parseAll variablePart = .error error) :
    parse (fixed ++ variablePart) = .error error := by
  match fixed, fixedLength with
  | [_, _, _, _, _], _ =>
      simp only [List.cons_append, List.nil_append, parse, failed]
      rfl

end ConnectParameters

namespace DisconnectParameters

open TpduParameter

variable {fixed variablePart : Bytes} {listed : List TpduParameter}

/-- A disconnect request takes nothing from its parameters. -/
theorem exists_parse_eq_ok (fixedLength : fixed.length = 5)
    (read : parseAll variablePart = .ok listed) :
    ∃ parameters, parse (fixed ++ variablePart) = .ok parameters
      ∧ Word.bytes16 parameters.destinationRef
          ++ Word.bytes16 parameters.sourceRef ++ [parameters.reason]
        = fixed := by
  match fixed, fixedLength with
  | [_, _, _, _, _], _ =>
      exact ⟨_, (bind_eq_of_eq_ok read).trans rfl, by simp⟩

theorem parse_eq_error (fixedLength : fixed.length = 5) {error : Error}
    (failed : parseAll variablePart = .error error) :
    parse (fixed ++ variablePart) = .error error := by
  match fixed, fixedLength with
  | [_, _, _, _, _], _ =>
      simp only [List.cons_append, List.nil_append, parse, failed]
      rfl

end DisconnectParameters

namespace Tpdu

open TpduParameter

/-- What a TPDU without a payload is, by its type, the fixed bytes of its header
and the parameters listed behind them. -/
inductive States (fixed : Bytes) (listed : List TpduParameter) :
    TpduType -> Tpdu -> Prop
  | connectRequest {parameters : ConnectParameters}
      (states : parameters.States fixed listed) :
      States fixed listed .connectRequest (.connectRequest parameters)
  | connectConfirm {parameters : ConnectParameters}
      (states : parameters.States fixed listed) :
      States fixed listed .connectConfirm (.connectConfirm parameters)
  | disconnectRequest {parameters : DisconnectParameters}
      (fixed_eq : Word.bytes16 parameters.destinationRef
        ++ Word.bytes16 parameters.sourceRef ++ [parameters.reason] = fixed) :
      States fixed listed .disconnectRequest (.disconnectRequest parameters)

variable {type : TpduType} {fixed variablePart : Bytes}
  {listed : List TpduParameter}

theorem type_of_parseBody {body : Bytes} {tpdu : Tpdu}
    (read : parseBody type body = .ok tpdu) : tpdu.type = type := by
  cases type <;>
    · obtain ⟨parameters, -, same⟩ := exists_of_bind_eq_ok read
      cases same
      rfl

theorem exists_parseBody_eq_ok (isBare : type ≠ .data)
    (fixedLength : fixed.length = 5)
    (read : parseAll variablePart = .ok listed) :
    ∃ tpdu, parseBody type (fixed ++ variablePart) = .ok tpdu
      ∧ States fixed listed type tpdu := by
  cases type with
  | connectRequest =>
      obtain ⟨parameters, parsed, states⟩ :=
        ConnectParameters.exists_parse_eq_ok fixedLength read
      exact ⟨_, (bind_eq_of_eq_ok parsed).trans rfl, .connectRequest states⟩
  | connectConfirm =>
      obtain ⟨parameters, parsed, states⟩ :=
        ConnectParameters.exists_parse_eq_ok fixedLength read
      exact ⟨_, (bind_eq_of_eq_ok parsed).trans rfl, .connectConfirm states⟩
  | disconnectRequest =>
      obtain ⟨parameters, parsed, fixedEq⟩ :=
        DisconnectParameters.exists_parse_eq_ok fixedLength read
      exact ⟨_, (bind_eq_of_eq_ok parsed).trans rfl,
        .disconnectRequest fixedEq⟩
  | data => exact (isBare rfl).elim

theorem parseBody_eq_error (isBare : type ≠ .data)
    (fixedLength : fixed.length = 5) {error : Error}
    (failed : parseAll variablePart = .error error) :
    parseBody type (fixed ++ variablePart) = .error error := by
  cases type with
  | connectRequest | connectConfirm =>
      rw [parseBody, ConnectParameters.parse_eq_error fixedLength failed]
      rfl
  | disconnectRequest =>
      rw [parseBody, DisconnectParameters.parse_eq_error fixedLength failed]
      rfl
  | data => exact (isBare rfl).elim

/-- The front of the input is a header: a length indicator, a type and as many
bytes as the indicator announces besides the type. -/
inductive Headed (type : TpduType) (body rest : Bytes) : Bytes -> Prop
  | intro (indicator : UInt8)
      (indicated : indicator.toNat = 1 + body.length) :
      Headed type body rest (indicator :: type.toByte :: (body ++ rest))

variable {input body rest : Bytes} {tpdu : Tpdu}

theorem Headed.parse_eq (headed : Headed type body rest input) :
    parse input = (parseBody type body).map fun tpdu => (tpdu, rest) := by
  cases headed with
  | intro indicator indicated => exact parse_header indicated type rest

theorem Headed.length_eq (headed : Headed type body rest input) :
    input.length = 2 + body.length + rest.length := by
  cases headed
  simp only [List.length_cons, List.length_append]
  omega

/-- There is one header at most in front of an input. -/
theorem Headed.unique {otherType : TpduType} {otherBody otherRest : Bytes}
    (headed : Headed type body rest input)
    (also : Headed otherType otherBody otherRest input) :
    otherType = type ∧ otherBody = body ∧ otherRest = rest := by
  obtain ⟨indicator, indicated⟩ := headed
  generalize isInput : indicator :: type.toByte :: (body ++ rest) = input
    at also
  obtain ⟨otherIndicator, otherIndicated⟩ := also
  obtain ⟨rfl, isBehind⟩ := List.cons.inj isInput
  obtain ⟨sameByte, sameBytes⟩ := List.cons.inj isBehind
  have sameLength : body.length = otherBody.length := by omega
  obtain ⟨rfl, rfl⟩ := List.append_inj sameBytes sameLength
  exact ⟨(TpduType.toByte_injective sameByte).symm, rfl, rfl⟩

/-- The input begins with a header if its indicator counts the type and does not
reach beyond the input. -/
theorem exists_headed {indicator : UInt8} (type : TpduType) {behind : Bytes}
    (positive : 1 ≤ indicator.toNat)
    (within : indicator.toNat ≤ 1 + behind.length) :
    ∃ body rest,
      Headed type body rest (indicator :: type.toByte :: behind) := by
  have length : (behind.take (indicator.toNat - 1)).length
      = indicator.toNat - 1 :=
    List.length_take_of_le (by omega)
  refine ⟨behind.take (indicator.toNat - 1),
    behind.drop (indicator.toNat - 1), ?_⟩
  have headed : Headed type (behind.take (indicator.toNat - 1))
      (behind.drop (indicator.toNat - 1))
      (indicator :: type.toByte :: (behind.take (indicator.toNat - 1)
        ++ behind.drop (indicator.toNat - 1))) :=
    .intro indicator (by omega)
  rwa [List.take_append_drop] at headed

/-- What is read is read from a header. -/
theorem exists_headed_of_parse (parsed : parse input = .ok (tpdu, rest)) :
    ∃ body, Headed tpdu.type body rest input
      ∧ parseBody tpdu.type body = .ok tpdu := by
  match input with
  | [] | [_] => cases parsed
  | indicator :: typeByte :: behind =>
      have step := parsed
      unfold parse at step
      dsimp only at step
      split at step
      · cases step
      · rename_i indicated
        obtain ⟨positive, within⟩ := not_or.1 indicated
        split at step
        · cases step
        · rename_i type isType
          cases TpduType.toByte_of_ofByte? isType
          obtain ⟨body, after, headed⟩ :=
            exists_headed type (Nat.not_lt.1 positive) (Nat.not_lt.1 within)
          rw [headed.parse_eq] at parsed
          obtain ⟨read, isBody, same⟩ := exists_of_map_eq_ok parsed
          cases same
          cases type_of_parseBody isBody
          exact ⟨body, headed, isBody⟩

/-- A header of a TPDU without a payload is read if and only if its variable part
is whole parameters one behind the other, with at most one byte left over. What
is read is what these parameters state, and what follows the header is handed
out as it is. Any other variable part is refused. -/
theorem parse_variablePart (isBare : type ≠ .data)
    (fixedLength : fixed.length = 5)
    (headed : Headed type (fixed ++ variablePart) rest input) :
    ((∃ tpdu after, parse input = .ok (tpdu, after)) ↔
      ∃ listed leftover,
        leftover.length < 2 ∧ Lists variablePart listed leftover)
    ∧ (∀ listed leftover,
      leftover.length < 2 -> Lists variablePart listed leftover ->
        ∃ tpdu, parse input = .ok (tpdu, rest)
          ∧ States fixed listed type tpdu)
    ∧ ((¬∃ listed leftover,
        leftover.length < 2 ∧ Lists variablePart listed leftover) ->
      parse input = .error .invalidFrame) := by
  rw [headed.parse_eq]
  have reads : ∀ listed leftover,
      leftover.length < 2 -> Lists variablePart listed leftover ->
        ∃ tpdu, parseBody type (fixed ++ variablePart) = .ok tpdu
          ∧ States fixed listed type tpdu := by
    intro listed leftover short lists
    apply exists_parseBody_eq_ok isBare fixedLength
    exact parseAll_eq_ok_iff.2 ⟨leftover, short, lists⟩
  have refuses : (¬∃ listed leftover,
      leftover.length < 2 ∧ Lists variablePart listed leftover) ->
        parseBody type (fixed ++ variablePart) = .error .invalidFrame := by
    intro unlisted
    apply parseBody_eq_error isBare fixedLength
    cases read : parseAll variablePart with
    | ok listed => exact (unlisted ⟨listed, parseAll_eq_ok_iff.1 read⟩).elim
    | error error => rw [parseAll_eq_error read]
  refine ⟨⟨?_, ?_⟩, ?_, ?_⟩
  · rintro ⟨tpdu, after, parsed⟩
    by_contra unlisted
    rw [refuses unlisted] at parsed
    cases parsed
  · rintro ⟨listed, leftover, short, lists⟩
    obtain ⟨tpdu, parsed, -⟩ := reads listed leftover short lists
    exact ⟨tpdu, rest, by rw [parsed]; rfl⟩
  · intro listed leftover short lists
    obtain ⟨tpdu, parsed, states⟩ := reads listed leftover short lists
    exact ⟨tpdu, by rw [parsed]; rfl, states⟩
  · intro unlisted
    rw [refuses unlisted]
    rfl

/-- The size twice, a source of one byte and a parameter that nobody knows. -/
def sizeTwice : List TpduParameter :=
  [(0xC0, [9]), (0xC1, [5]), (0xE0, []), (0xC0, [10]), (0xC2, [3, 2])]

/-- The last size counts and the source does not, with a code alone at the end
of the list. A value that is cut short is refused. -/
theorem parse_variablePart_sizeTwice :
    (∃ parameters,
      parse [0x16, 0xD0, 0x00, 0x01, 0x44, 0x31, 0x00, 0xC0, 1, 9, 0xC1, 1, 5,
          0xE0, 0, 0xC0, 1, 10, 0xC2, 2, 3, 2, 0xC1, 0x32]
        = .ok (.connectConfirm parameters, [0x32])
      ∧ parameters.sizeCode? = some 10
      ∧ parameters.sourceTsap? = none
      ∧ parameters.destinationTsap? = some 0x0302)
    ∧ parse [0x09, 0xD0, 0x00, 0x01, 0x00, 0x01, 0x00, 0xC1, 4, 1]
      = .error .invalidFrame := by
  have isBare : TpduType.connectConfirm ≠ .data := by decide
  constructor
  · have headed : Headed .connectConfirm
        ([0x00, 0x01, 0x44, 0x31, 0x00]
          ++ (sizeTwice.flatMap encode ++ [0xC1])) [0x32] _ :=
      .intro 0x16 rfl
    obtain ⟨-, reads, -⟩ := parse_variablePart isBare rfl headed
    obtain ⟨tpdu, parsed, states⟩ :=
      reads sizeTwice [0xC1] (by decide) ⟨by decide, rfl⟩
    obtain - | states := states
    have size : last? sizeCode 1 sizeTwice = some [10] := rfl
    have source : last? sourceCode 2 sizeTwice = none := rfl
    have destination : last? destinationCode 2 sizeTwice
        = (some 0x0302).map Word.bytes16 := rfl
    refine ⟨_, parsed, ?_, ?_, ?_⟩
    · simpa using states.sizeCode_eq.trans size
    · exact Option.map_eq_none_iff.1 (states.sourceTsap_eq.trans source)
    · exact Option.map_injective Word.bytes16_injective
        (states.destinationTsap_eq.trans destination)
  · have headed : Headed .connectConfirm
        ([0x00, 0x01, 0x00, 0x01, 0x00] ++ [0xC1, 4, 1]) [] _ :=
      .intro 0x09 rfl
    obtain ⟨-, -, refuses⟩ := parse_variablePart isBare rfl headed
    apply refuses
    rintro ⟨listed, listing⟩
    have read := parseAll_eq_ok_iff.2 listing
    rw [parseAll] at read
    cases read

/-- A code without a length at the end of a header is no whole parameter, and is
passed over all the same. -/
theorem exists_parse_loneCode :
    (∃ tpdu,
      parse [0x07, 0xD0, 0x00, 0x01, 0x00, 0x01, 0x00, 0xC1] = .ok (tpdu, []))
    ∧ ¬∃ listed, Lists [0xC1] listed [] := by
  have read : parseAll [0xC1] = .ok [] := parseAll_of_short Nat.one_lt_two
  constructor
  · have headed : Headed .connectConfirm ([0x00, 0x01, 0x00, 0x01, 0x00]
        ++ [0xC1]) [] [0x07, 0xD0, 0x00, 0x01, 0x00, 0x01, 0x00, 0xC1] :=
      .intro 0x07 rfl
    have isBare : TpduType.connectConfirm ≠ .data := by decide
    obtain ⟨tpdu, parsed, -⟩ := exists_parseBody_eq_ok isBare
      (show [0x00, 0x01, 0x00, 0x01, 0x00].length = 5 from rfl) read
    rw [headed.parse_eq, parsed]
    exact ⟨tpdu, rfl⟩
  · rintro ⟨listed, lists⟩
    have listing := parseAll_eq_ok_iff.2 ⟨[], Nat.zero_lt_two, lists⟩
    cases read.symm.trans listing
    cases lists.joined

end Tpdu
end PlcLink
