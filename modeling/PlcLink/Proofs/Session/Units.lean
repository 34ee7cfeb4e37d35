import Mathlib
import PlcLink.Proofs.Session.Continuation

/-!
# User-data replies in units

A user-data operation joins the data of the units that it is sent and asks for
the next one as long as the last one is not there. The first reply that carries
no unit, or a unit beyond the ceiling, ends it with the error that tells what is
wrong. Either way no job is submitted after the reply that ends it.
-/

namespace PlcLink

/-- One unit of a user-data reply: its parameter and what it adds. -/
structure DataUnit where
  parameter : UserData.Parameter
  data : Bytes

namespace DataUnit

/-- What units come to, one behind the other. -/
def join (units : List DataUnit) : Bytes :=
  units.flatMap data

theorem join_concat (units : List DataUnit) (unit : DataUnit) :
    join (units ++ [unit]) = join units ++ unit.data := by
  rw [join, List.flatMap_append, List.flatMap_singleton]
  rfl

/-- A body asks for the unit behind another one: it is in long form and has the
group, the subfunction and the sequence number of that unit. -/
inductive Continues (unit : DataUnit) : Body -> Prop
  | intro {parameter : UserData.Parameter} {item? : Option DataItem}
      (isLong : parameter.isLong = true)
      (group : parameter.group = unit.parameter.group)
      (subfunction : parameter.subfunction = unit.parameter.subfunction)
      (sequence : parameter.sequence = unit.parameter.sequence) :
      Continues unit (.userData parameter item?)

theorem continues_continuationRequest (unit : DataUnit) :
    unit.Continues (UserData.continuationRequest unit.parameter) :=
  .intro rfl rfl rfl rfl

end DataUnit

namespace Pdu

/-- The body of a reply whose header reports no error. -/
def checkedBody (reply : Pdu) : Except Error Body :=
  reply.checkHeader.bind fun _ => reply.decode

theorem checkedBody_eq_ok_iff {reply : Pdu} {body : Body} :
    reply.checkedBody = .ok body
      ↔ reply.checkHeader = .ok () ∧ reply.decode = .ok body := by
  unfold checkedBody
  cases reply.checkHeader <;> simp [Except.bind]

/-- A reply carries a unit if its body is of user data without an error word,
and its item, if there is one, succeeded. -/
def Carries (reply : Pdu) (unit : DataUnit) : Prop :=
  ∃ item?, reply.checkedBody = .ok (.userData unit.parameter item?)
    ∧ unit.parameter.error = 0
    ∧ acceptedData? item? = some unit.data

/-- What is wrong with a reply that comes when so many bytes are gathered. What
is looked at first is named first. -/
inductive Wrong (ceiling gathered : Nat) (reply : Pdu) : Error -> Prop
  | unreadable {error : Error}
      (failed : reply.checkedBody = .error error) :
      Wrong ceiling gathered reply error
  | otherKind {body : Body} (decoded : reply.checkedBody = .ok body)
      (isOther : ∀ parameter item?, body ≠ .userData parameter item?) :
      Wrong ceiling gathered reply .unexpectedPdu
  | reported {parameter : UserData.Parameter} {item? : Option DataItem}
      (decoded : reply.checkedBody = .ok (.userData parameter item?))
      (hasError : parameter.error ≠ 0) :
      Wrong ceiling gathered reply (.reported (.ofWord parameter.error))
  | rejected {parameter : UserData.Parameter} {item : DataItem}
      (decoded : reply.checkedBody = .ok (.userData parameter (some item)))
      (errorFree : parameter.error = 0)
      (failed : item.returnCode ≠ .success) :
      Wrong ceiling gathered reply (.itemRejected item.returnCode)
  | beyond {parameter : UserData.Parameter} {item : DataItem}
      (decoded : reply.checkedBody = .ok (.userData parameter (some item)))
      (errorFree : parameter.error = 0)
      (succeeded : item.returnCode = .success)
      (exceeds : ceiling < gathered + item.data.length) :
      Wrong ceiling gathered reply (.protocolViolation .userDataCeiling)

variable {ceiling gathered : Nat} {reply : Pdu}

/-- A reply either carries a unit within the ceiling, or something is wrong with
it. -/
theorem exists_wrong_of_not_carries (within : gathered ≤ ceiling)
    (notCarries : ¬∃ unit, reply.Carries unit
      ∧ gathered + unit.data.length ≤ ceiling) :
    ∃ error, Wrong ceiling gathered reply error := by
  cases decoded : reply.checkedBody with
  | error error => exact ⟨error, .unreadable decoded⟩
  | ok body =>
      cases body with
      | setupRequest | setupResponse | readRequest | readResponse
      | writeRequest | writeResponse | ack =>
          exact ⟨_, .otherKind decoded fun _ _ => Body.noConfusion⟩
      | userData parameter item? =>
          by_cases errorFree : parameter.error = 0
          · cases item? with
            | none =>
                refine absurd ⟨⟨parameter, []⟩, ?_, within⟩ notCarries
                exact ⟨none, decoded, errorFree, rfl⟩
            | some item =>
                by_cases succeeded : item.returnCode = .success
                · refine ⟨_, .beyond decoded errorFree succeeded ?_⟩
                  apply Nat.lt_of_not_le
                  intro fits
                  have isSuccess := ReturnCode.isSuccess_iff.2 succeeded
                  have accepted : acceptedData? (some item)
                      = some item.data := if_pos isSuccess
                  exact notCarries ⟨⟨parameter, item.data⟩,
                    ⟨some item, decoded, errorFree, accepted⟩, fits⟩
                · exact ⟨_, .rejected decoded errorFree succeeded⟩
          · exact ⟨_, .reported decoded errorFree⟩

end Pdu

namespace Exchange

variable {ceiling : Nat} {gathered : Bytes} {reply : Pdu} {unit : DataUnit}
  {error : Error}

theorem gather_of_carries (carries : reply.Carries unit)
    (within : (gathered ++ unit.data).length ≤ ceiling) :
    gather ceiling gathered (.ok reply)
      = .ok (if unit.parameter.isLast then
          .finished (.ok (.bytes (gathered ++ unit.data)))
        else
          .round (.gathering ceiling (gathered ++ unit.data))
            [UserData.continuationRequest unit.parameter]) := by
  obtain ⟨item?, hasBody, errorFree, accepted⟩ := carries
  obtain ⟨checked, decoded⟩ := Pdu.checkedBody_eq_ok_iff.1 hasBody
  have earlierWithin : gathered.length ≤ ceiling := by
    rw [List.length_append] at within
    omega
  have added : unitData ceiling gathered item?
      = .ok (gathered ++ unit.data) :=
    (unitData_eq_ok_iff earlierWithin).2 ⟨unit.data, accepted, rfl, within⟩
  rw [gather_eq_of_decode ceiling gathered checked decoded,
    UserData.Parameter.checkError, if_pos errorFree, added]
  rfl

/-- What is gathered depends on the body alone. -/
theorem gather_eq_checkedBody (ceiling : Nat) (gathered : Bytes)
    (reply : Pdu) :
    gather ceiling gathered (.ok reply)
      = reply.checkedBody.bind fun
        | .userData parameter item? =>
            parameter.checkError.bind fun _ =>
              (unitData ceiling gathered item?).bind fun gathered =>
                if parameter.isLast then
                  .ok (.finished (.ok (.bytes gathered)))
                else
                  .ok (.round (.gathering ceiling gathered)
                    [UserData.continuationRequest parameter])
        | _ => .error .unexpectedPdu := by
  have isReply : checked (.ok reply)
      = reply.checkHeader.bind fun _ => .ok reply := rfl
  rw [gather, isReply, Pdu.checkedBody]
  cases reply.checkHeader <;> rfl

theorem gather_of_wrong
    (wrong : reply.Wrong ceiling gathered.length error) :
    gather ceiling gathered (.ok reply) = .error error := by
  rw [gather_eq_checkedBody]
  cases wrong with
  | unreadable failed =>
      rw [failed]
      rfl
  | otherKind decoded isOther =>
      rename_i body
      rw [decoded]
      cases body with
      | userData parameter item? => exact absurd rfl (isOther parameter item?)
      | setupRequest | setupResponse | readRequest | readResponse
      | writeRequest | writeResponse | ack => rfl
  | reported decoded hasError =>
      rw [decoded]
      change Except.bind (UserData.Parameter.checkError _) _ = _
      rw [UserData.Parameter.checkError, if_neg hasError]
      rfl
  | rejected decoded errorFree failed =>
      rename_i item
      have isFailure : (!item.returnCode.isSuccess) = true := by
        rw [Bool.not_eq_true', Bool.eq_false_iff]
        exact fun isSuccess => failed (ReturnCode.isSuccess_iff.1 isSuccess)
      rw [decoded]
      change Except.bind (UserData.Parameter.checkError _) _ = _
      rw [UserData.Parameter.checkError, if_pos errorFree, unitData,
        if_pos isFailure]
      rfl
  | beyond decoded errorFree succeeded exceeds =>
      rename_i item
      have isNoFailure : ¬(!item.returnCode.isSuccess) = true := by
        rw [ReturnCode.isSuccess_iff.2 succeeded]
        exact Bool.false_ne_true
      rw [decoded]
      change Except.bind (UserData.Parameter.checkError _) _ = _
      rw [UserData.Parameter.checkError, if_pos errorFree, unitData,
        if_neg isNoFailure, if_pos exceeds]
      rfl

end Exchange

namespace Progress

/-- Go on with replies one after the other. -/
def answerAll (progress : Progress) (replies : List Pdu) : Progress :=
  replies.foldl answer progress

/-- The jobs that are submitted by the time all replies came. -/
def submitted (progress : Progress) : List Pdu -> List Body
  | [] => progress.bodies
  | reply :: replies =>
      progress.bodies ++ (progress.answer reply).submitted replies

theorem answerAll_finished (result : Except Error Answer)
    (replies : List Pdu) :
    (finished result).answerAll replies = finished result := by
  induction replies with
  | nil => rfl
  | cons reply replies inductionHypothesis => exact inductionHypothesis

theorem submitted_finished (result : Except Error Answer)
    (replies : List Pdu) :
    (finished result).submitted replies = [] := by
  induction replies with
  | nil => rfl
  | cons reply replies inductionHypothesis => exact inductionHypothesis

theorem answerAll_append_cons (progress : Progress) (before : List Pdu)
    (reply : Pdu) (after : List Pdu) :
    progress.answerAll (before ++ reply :: after)
      = ((progress.answerAll before).answer reply).answerAll after := by
  rw [answerAll, List.foldl_append]
  rfl

theorem submitted_append_cons (progress : Progress) (before : List Pdu)
    (reply : Pdu) (after : List Pdu) :
    progress.submitted (before ++ reply :: after)
      = progress.submitted before
        ++ ((progress.answerAll before).answer reply).submitted after := by
  induction before generalizing progress with
  | nil => rfl
  | cons first before inductionHypothesis =>
      rw [List.cons_append, submitted, inductionHypothesis, submitted,
        List.append_assoc]
      rfl

variable {ceiling : Nat} {gathered : Bytes} {body : Body} {reply : Pdu}
  {unit : DataUnit} {error : Error}

theorem answer_of_carries (carries : reply.Carries unit)
    (within : (gathered ++ unit.data).length ≤ ceiling) :
    (round (.gathering ceiling gathered) [body]).answer reply
      = if unit.parameter.isLast then
          .finished (.ok (.bytes (gathered ++ unit.data)))
        else
          .round (.gathering ceiling (gathered ++ unit.data))
            [UserData.continuationRequest unit.parameter] :=
  Exchange.resume_of_gather_eq_ok
    (Exchange.gather_of_carries carries within)

theorem answer_of_wrong
    (wrong : reply.Wrong ceiling gathered.length error) :
    (round (.gathering ceiling gathered) [body]).answer reply
      = .finished (.error error) :=
  Exchange.resume_of_gather_eq_error (Exchange.gather_of_wrong wrong)

/-- While no unit is the last, their data is joined and each of them is followed
by a request for the next. -/
theorem answerAll_carried {replies : List Pdu} {units : List DataUnit}
    (carried : List.Forall₂ Pdu.Carries replies units)
    (goesOn : ∀ unit ∈ units, unit.parameter.isLast = false)
    (within : (gathered ++ DataUnit.join units).length ≤ ceiling) :
    ∃ continuations next,
      (round (.gathering ceiling gathered) [body]).answerAll replies
          = round (.gathering ceiling (gathered ++ DataUnit.join units)) [next]
        ∧ (round (.gathering ceiling gathered) [body]).submitted replies
          = body :: continuations
        ∧ List.Forall₂ DataUnit.Continues units continuations := by
  induction carried generalizing gathered body with
  | nil =>
      refine ⟨[], body, ?_, rfl, .nil⟩
      rw [DataUnit.join, List.flatMap_nil, List.append_nil]
      rfl
  | @cons reply unit replies units carries _ inductionHypothesis =>
      obtain ⟨isNotLast, othersGoOn⟩ := List.forall_mem_cons.1 goesOn
      have joined : gathered ++ DataUnit.join (unit :: units)
          = (gathered ++ unit.data) ++ DataUnit.join units := by
        rw [DataUnit.join, List.flatMap_cons, List.append_assoc]
        rfl
      rw [joined] at within ⊢
      have unitWithin : (gathered ++ unit.data).length ≤ ceiling := by
        rw [List.length_append] at within
        omega
      have answered :
          (round (.gathering ceiling gathered) [body]).answer reply
            = round (.gathering ceiling (gathered ++ unit.data))
              [UserData.continuationRequest unit.parameter] := by
        rw [answer_of_carries carries unitWithin, isNotLast]
        rfl
      obtain ⟨continuations, next, reached, submitted, continues⟩ :=
        @inductionHypothesis _
          (UserData.continuationRequest unit.parameter) othersGoOn within
      refine ⟨_ :: continuations, next, ?_, ?_,
        .cons unit.continues_continuationRequest continues⟩
      · rw [← reached]
        exact congrArg (answerAll · replies) answered
      · rw [Progress.submitted, answered, ← submitted]
        rfl

end Progress

/-- An operation ended with a result, and before that it submitted a request and
one continuation for each unit. -/
structure Progress.Ends (progress : Progress) (request : Body)
    (replies : List Pdu) (units : List DataUnit)
    (result : Except Error Answer) : Prop where
  finished : progress.answerAll replies = .finished result
  submitted : ∃ continuations,
    progress.submitted replies = request :: continuations
      ∧ List.Forall₂ DataUnit.Continues units continuations
  count : (progress.submitted replies).length = units.length + 1

namespace Operation

variable {settings : SessionSettings} {context? : Option Context}
  {request : Body} {before : List Pdu} {reply : Pdu} {units : List DataUnit}

/-- The reply that ends an operation is the last one to count. -/
theorem ends_of_answer {next : Body} {continuations : List Body}
    {progress : Progress} {result : Except Error Answer}
    (reached : progress.answerAll before
      = .round (.gathering settings.maxReassemblyBytes (DataUnit.join units))
        [next])
    (submitted : progress.submitted before = request :: continuations)
    (continues : List.Forall₂ DataUnit.Continues units continuations)
    (answered : (Progress.round
        (.gathering settings.maxReassemblyBytes (DataUnit.join units))
        [next]).answer reply
      = .finished result)
    (after : List Pdu) :
    progress.Ends request (before ++ reply :: after) units result := by
  have jobs : progress.submitted (before ++ reply :: after)
      = request :: continuations := by
    rw [Progress.submitted_append_cons, reached, answered,
      Progress.submitted_finished, submitted, List.append_nil]
  refine ⟨?_, ⟨continuations, jobs, continues⟩, ?_⟩
  · rw [Progress.answerAll_append_cons, reached, answered,
      Progress.answerAll_finished]
  · rw [jobs, List.length_cons, continues.length_eq]

/-- Behind replies with units that are not the last, a reply with the last unit
ends a user-data operation with the data of all units, and a reply without a
unit, or with one beyond the ceiling, ends it with the error that tells what is
wrong. The jobs submitted are then the request and one continuation for each
unit before the end, whatever comes later. -/
theorem userData_units (settings : SessionSettings)
    (context? : Option Context) (request : Body)
    (carried : List.Forall₂ Pdu.Carries before units)
    (goesOn : ∀ unit ∈ units, unit.parameter.isLast = false)
    (within :
      (DataUnit.join units).length ≤ settings.maxReassemblyBytes)
    (reply : Pdu) (after : List Pdu) :
    (∀ last, reply.Carries last -> last.parameter.isLast = true ->
      (DataUnit.join (units ++ [last])).length
          ≤ settings.maxReassemblyBytes ->
        ((userData request).start settings context?).Ends request
          (before ++ reply :: after) units
          (.ok (.bytes (DataUnit.join (units ++ [last])))))
      ∧ ((¬∃ unit, reply.Carries unit
          ∧ (DataUnit.join (units ++ [unit])).length
            ≤ settings.maxReassemblyBytes) ->
        ∃ error,
          reply.Wrong settings.maxReassemblyBytes
              (DataUnit.join units).length error
            ∧ ((userData request).start settings context?).Ends request
              (before ++ reply :: after) units (.error error)) := by
  obtain ⟨continuations, next, reached, submitted, continues⟩ :=
    @Progress.answerAll_carried settings.maxReassemblyBytes [] request
      before units carried goesOn within
  constructor
  · intro last carries isLast lastWithin
    rw [DataUnit.join_concat] at lastWithin ⊢
    apply ends_of_answer reached submitted continues
    rw [Progress.answer_of_carries carries lastWithin, if_pos isLast]
  · intro notCarries
    obtain ⟨error, wrong⟩ := Pdu.exists_wrong_of_not_carries within (by
      rintro ⟨unit, carries, fits⟩
      apply notCarries
      refine ⟨unit, carries, ?_⟩
      rwa [DataUnit.join_concat, List.length_append])
    refine ⟨error, wrong, ?_⟩
    apply ends_of_answer reached submitted continues
    exact Progress.answer_of_wrong wrong

end Operation

/-! ## Two units -/

namespace TwoUnits

/-- A unit of clock data. -/
def unit (isLast : Bool) (data : Bytes) : DataUnit :=
  { parameter := .response .timeFunctions 0x01 7 isLast, data }

/-- The reply that carries a unit. -/
def reply (isLast : Bool) (data : Bytes) : Pdu :=
  { header := .ofLengths .userData 0 12 0
    parameter := ((unit isLast data).parameter.emit.result.toOption.getD [])
    data :=
      [0xFF, 0x09, 0x00, UInt8.ofNat data.length] ++ data }

end TwoUnits

open TwoUnits TwoBytes in
theorem Operation.userData_units_two :
    ((userData UserData.clockRequest).start settings none).Ends
        UserData.clockRequest [reply false [1, 2], reply true [3]]
        [unit false [1, 2]] (.ok (.bytes [1, 2, 3])) := by
  have first : (reply false [1, 2]).Carries (unit false [1, 2]) :=
    ⟨some (.succeeded .octetString [1, 2]), by decide +kernel, rfl, rfl⟩
  have last : (reply true [3]).Carries (unit true [3]) :=
    ⟨some (.succeeded .octetString [3]), by decide +kernel, rfl, rfl⟩
  have ends := userData_units settings none UserData.clockRequest
    (.cons first .nil) (by decide) (by decide) (reply true [3]) []
  exact ends.1 _ last rfl (by decide)

end PlcLink
