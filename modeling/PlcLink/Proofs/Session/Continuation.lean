import Mathlib
import PlcLink.Proofs.Failure
import PlcLink.Proofs.Session.Operation

/-!
# How long a user-data operation goes on

A peer answers the jobs of a user-data operation one after the other, and every
unit that is not the last makes the session ask for another. The ceiling bounds
the bytes that are gathered, and with them the units that carry data. Units
without data are not bounded by anything: an operation goes on forever just if
from some unit on all of them are empty.
-/

namespace PlcLink

/-- What the item of a user-data unit adds, unless it was rejected. A unit
without an item adds nothing. -/
def acceptedData? : Option DataItem -> Option Bytes
  | none => some []
  | some item => if item.returnCode.isSuccess then some item.data else none

/-- The data of a unit that another one is to follow. Nothing if the PDU ends
the operation instead, because it is the last unit or because it is wrong. -/
def Pdu.continuing? (pdu : Pdu) : Option Bytes :=
  match pdu.decode with
  | .ok (.userData parameter item?) =>
      if parameter.error = 0 ∧ parameter.isLast = false then
        acceptedData? item?
      else
        none
  | _ => none

theorem Pdu.continuing?_eq_some_iff {pdu : Pdu} {data : Bytes} :
    pdu.continuing? = some data ↔ ∃ parameter item?,
      pdu.decode = .ok (.userData parameter item?)
        ∧ parameter.error = 0 ∧ parameter.isLast = false
        ∧ acceptedData? item? = some data := by
  constructor
  · intro continues
    rw [continuing?] at continues
    split at continues
    · rename_i parameter item? decoded
      split at continues
      · rename_i goesOn
        exact ⟨parameter, item?, decoded, goesOn.1, goesOn.2, continues⟩
      · cases continues
    · cases continues
  · rintro ⟨parameter, item?, decoded, errorFree, isNotLast, accepted⟩
    rw [continuing?, decoded]
    dsimp only
    rw [if_pos ⟨errorFree, isNotLast⟩, accepted]

namespace Progress

/-- Whether jobs are outstanding. -/
def isUnderWay : Progress -> Bool
  | finished _ => false
  | round _ _ => true
  | crashed _ => false

/-- The jobs that are submitted for the round that just began. -/
def bodies : Progress -> List Body
  | finished _ => []
  | round _ bodies => bodies
  | crashed _ => []

/-- Go on with the reply to the single job of a round. An operation that is
through goes on no more. -/
def answer (progress : Progress) (reply : Pdu) : Progress :=
  match progress with
  | finished result => finished result
  | round exchange _ => exchange.resume [.ok reply]
  | crashed fault => crashed fault

/-- Go on with so many replies. -/
def follow (progress : Progress) (replies : Nat -> Pdu) : Nat -> Progress
  | 0 => progress
  | count + 1 => (progress.follow replies count).answer (replies count)

/-- Number of jobs submitted by the time so many replies came. -/
def jobsBegun (progress : Progress) (replies : Nat -> Pdu) (count : Nat) :
    Nat :=
  ((List.range (count + 1)).map fun earlier =>
    (progress.follow replies earlier).bodies.length).sum

/-- Whether jobs stay outstanding, however many replies came. -/
def IsEndless (progress : Progress) (replies : Nat -> Pdu) : Prop :=
  ∀ count, (progress.follow replies count).isUnderWay = true

variable {progress : Progress} {replies : Nat -> Pdu} {count : Nat}

theorem jobsBegun_succ (progress : Progress) (replies : Nat -> Pdu)
    (count : Nat) :
    progress.jobsBegun replies (count + 1)
      = progress.jobsBegun replies count
        + (progress.follow replies (count + 1)).bodies.length := by
  rw [jobsBegun, List.range_succ, List.map_append, List.sum_append]
  simp [jobsBegun]

theorem bodies_eq_nil (ended : progress.isUnderWay = false) :
    progress.bodies = [] := by
  cases progress with
  | finished _ => rfl
  | round _ _ => cases ended
  | crashed _ => rfl

theorem isUnderWay_of_answer {reply : Pdu}
    (underWay : (progress.answer reply).isUnderWay = true) :
    progress.isUnderWay = true := by
  cases progress with
  | finished _ => exact underWay
  | round _ _ => rfl
  | crashed _ => exact underWay

theorem isUnderWay_of_le {earlier : Nat} (inOrder : earlier ≤ count)
    (underWay : (progress.follow replies count).isUnderWay = true) :
    (progress.follow replies earlier).isUnderWay = true := by
  induction inOrder with
  | refl => exact underWay
  | step _ inductionHypothesis =>
      exact inductionHypothesis (isUnderWay_of_answer underWay)

end Progress

namespace Exchange

variable {ceiling : Nat} {gathered data : Bytes} {reply : Pdu}

/-- What was gathered grows by accepted data that fits. -/
theorem unitData_eq_ok_iff {item? : Option DataItem} {next : Bytes}
    (within : gathered.length ≤ ceiling) :
    unitData ceiling gathered item? = .ok next
      ↔ ∃ data, acceptedData? item? = some data ∧ next = gathered ++ data
        ∧ next.length ≤ ceiling := by
  cases item? with
  | none =>
      constructor
      · intro added
        cases Except.ok.inj added
        exact ⟨[], rfl, (List.append_nil _).symm, within⟩
      · rintro ⟨data, accepted, rfl, -⟩
        cases Option.some.inj accepted
        rw [List.append_nil]
        rfl
  | some item =>
      by_cases isSuccess : item.returnCode.isSuccess = true
      · simp only [unitData, acceptedData?, isSuccess, Bool.not_true,
          Bool.false_eq_true, if_true, if_false, Option.some.injEq,
          exists_eq_left', ← List.length_append]
        split
        · rename_i exceeds
          simp only [reduceCtorEq, false_iff]
          rintro ⟨rfl, fits⟩
          omega
        · rename_i fits
          rw [Except.ok.injEq]
          constructor
          · rintro rfl
            exact ⟨rfl, by omega⟩
          · rintro ⟨rfl, -⟩
            rfl
      · simp [unitData, acceptedData?, isSuccess]

theorem resume_of_gather_eq_ok {progress : Progress}
    (succeeded : gather ceiling gathered (.ok reply) = .ok progress) :
    (gathering ceiling gathered).resume [.ok reply] = progress := by
  rw [resume, List.headD_cons]
  simp only [succeeded]

theorem resume_of_gather_eq_error {error : Error}
    (failed : gather ceiling gathered (.ok reply) = .error error) :
    (gathering ceiling gathered).resume [.ok reply]
      = .finished (.error error) := by
  rw [resume, List.headD_cons]
  simp only [failed]

theorem gather_eq_of_decode {parameter : UserData.Parameter}
    {item? : Option DataItem} (ceiling : Nat) (gathered : Bytes)
    (checked : reply.checkHeader = .ok ())
    (decoded : reply.decode = .ok (.userData parameter item?)) :
    gather ceiling gathered (.ok reply)
      = parameter.checkError.bind fun _ =>
          (unitData ceiling gathered item?).map fun gathered =>
            if parameter.isLast then
              .finished (.ok (.bytes gathered))
            else
              .round (.gathering ceiling gathered)
                [UserData.continuationRequest parameter] := by
  have isReply : Exchange.checked (.ok reply) = .ok reply := by
    change reply.checkHeader.bind _ = _
    rw [checked]
    rfl
  rw [gather, isReply]
  change reply.decode.bind _ = _
  rw [decoded]
  change parameter.checkError.bind _ = _
  congr 1
  funext _
  change (unitData ceiling gathered item?).bind _ = _
  cases unitData ceiling gathered item? with
  | error error => rfl
  | ok next => dsimp only [Except.bind, Except.map]; split <;> rfl

/-- An operation that goes on took a unit that another one is to follow, and
what it gathered stays within the ceiling. -/
theorem of_resume_gathering {exchange : Exchange} {bodies : List Body}
    (within : gathered.length ≤ ceiling)
    (resumed : (gathering ceiling gathered).resume [.ok reply]
      = .round exchange bodies) :
    ∃ data body, reply.continuing? = some data
      ∧ (gathered ++ data).length ≤ ceiling
      ∧ exchange = .gathering ceiling (gathered ++ data)
      ∧ bodies = [body] := by
  have succeeded : gather ceiling gathered (.ok reply)
      = .ok (.round exchange bodies) := by
    cases outcome : gather ceiling gathered (.ok reply) with
    | error error => cases resumed.symm.trans (resume_of_gather_eq_error outcome)
    | ok progress => rw [← resumed, resume_of_gather_eq_ok outcome]
  obtain ⟨pdu, isChecked, succeeded⟩ := exists_of_bind_eq_ok succeeded
  obtain ⟨_, _, isPdu⟩ := exists_of_bind_eq_ok isChecked
  cases Except.ok.inj isPdu
  obtain ⟨body, decoded, succeeded⟩ := exists_of_bind_eq_ok succeeded
  cases body with
  | userData parameter item? =>
      obtain ⟨_, hasNoError, succeeded⟩ := exists_of_bind_eq_ok succeeded
      obtain ⟨next, added, succeeded⟩ := exists_of_bind_eq_ok succeeded
      obtain ⟨data, accepted, rfl, fits⟩ :=
        (unitData_eq_ok_iff within).mp added
      have errorFree : parameter.error = 0 := by
        by_contra hasError
        rw [UserData.Parameter.checkError, if_neg hasError] at hasNoError
        cases hasNoError
      split at succeeded
      · cases succeeded
      · rename_i isNotLast
        cases succeeded
        exact ⟨data, _, Pdu.continuing?_eq_some_iff.mpr
          ⟨parameter, item?, decoded, errorFree, by simpa using isNotLast,
            accepted⟩, fits, rfl, rfl⟩
  | setupRequest | setupResponse | readRequest | readResponse | writeRequest
  | writeResponse | ack => cases succeeded

/-- A unit that another one is to follow makes the operation go on, if its data
fits. -/
theorem resume_gathering (checked : reply.checkHeader = .ok ())
    (continues : reply.continuing? = some data)
    (within : (gathered ++ data).length ≤ ceiling) :
    ∃ body, (gathering ceiling gathered).resume [.ok reply]
      = .round (.gathering ceiling (gathered ++ data)) [body] := by
  obtain ⟨parameter, item?, decoded, errorFree, isNotLast, accepted⟩ :=
    Pdu.continuing?_eq_some_iff.mp continues
  have earlierWithin : gathered.length ≤ ceiling := by
    rw [List.length_append] at within
    omega
  have added : unitData ceiling gathered item? = .ok (gathered ++ data) :=
    (unitData_eq_ok_iff earlierWithin).mpr ⟨data, accepted, rfl, within⟩
  refine ⟨UserData.continuationRequest parameter,
    resume_of_gather_eq_ok ?_⟩
  rw [gather_eq_of_decode ceiling gathered checked decoded,
    UserData.Parameter.checkError, if_pos errorFree, added]
  dsimp only [Except.bind, Except.map]
  rw [isNotLast]
  rfl

end Exchange

namespace Operation

/-- What the first so many units carry. -/
def carried (replies : Nat -> Pdu) (count : Nat) : Bytes :=
  (List.range count).flatMap fun index =>
    (replies index).continuing?.getD []

/-- Number of units without data among the first so many. -/
def emptyUnits (replies : Nat -> Pdu) (count : Nat) : Nat :=
  (List.range count).countP fun index =>
    (replies index).continuing? = some []

variable {settings : SessionSettings} {context? : Option Context}
  {request : Body} {replies : Nat -> Pdu} {count : Nat} {data : Bytes}

theorem carried_succ (continues : (replies count).continuing? = some data) :
    carried replies (count + 1) = carried replies count ++ data := by
  simp [carried, List.range_succ, continues]

theorem carried_isPrefix (replies : Nat -> Pdu) {earlier : Nat}
    (inOrder : earlier ≤ count) :
    carried replies earlier <+: carried replies count := by
  induction inOrder with
  | refl => exact List.prefix_rfl
  | @step count _ inductionHypothesis =>
      refine inductionHypothesis.trans ?_
      rw [carried, carried, List.range_succ, List.flatMap_append]
      exact List.prefix_append _ _

theorem emptyUnits_succ (continues : (replies count).continuing? = some data) :
    emptyUnits replies (count + 1)
      = emptyUnits replies count + if data = [] then 1 else 0 := by
  simp [emptyUnits, List.range_succ, continues]

theorem emptyUnits_le_succ (replies : Nat -> Pdu) (count : Nat) :
    emptyUnits replies count ≤ emptyUnits replies (count + 1) := by
  rw [emptyUnits, emptyUnits, List.range_succ, List.countP_append]
  exact Nat.le_add_right _ _

/-- An operation that is under way waits for a single job. It gathered what the
units so far carried, within the ceiling, and each of them that was not empty
carried a byte at least. -/
structure Gathers (settings : SessionSettings) (replies : Nat -> Pdu)
    (count : Nat) (progress : Progress) : Prop where
  round : ∃ body, progress
    = .round (.gathering settings.maxReassemblyBytes (carried replies count))
      [body]
  within : (carried replies count).length ≤ settings.maxReassemblyBytes
  counted : count ≤ (carried replies count).length + emptyUnits replies count

/-- What it takes to go on from one unit to the next. -/
theorem Gathers.succ {progress : Progress}
    (gathers : Gathers settings replies count progress)
    (underWay : (progress.answer (replies count)).isUnderWay = true) :
    Gathers settings replies (count + 1) (progress.answer (replies count))
      ∧ ∃ data, (replies count).continuing? = some data
        ∧ carried replies (count + 1) = carried replies count ++ data := by
  obtain ⟨body, rfl⟩ := gathers.round
  rw [Progress.answer] at underWay ⊢
  cases resumed : Exchange.resume _ [.ok (replies count)] with
  | finished result => rw [resumed] at underWay; cases underWay
  | crashed fault => rw [resumed] at underWay; cases underWay
  | round exchange bodies =>
      obtain ⟨data, next, continues, fits, rfl, rfl⟩ :=
        Exchange.of_resume_gathering gathers.within resumed
      have more := carried_succ continues
      refine ⟨{ round := ⟨next, by rw [more]⟩
                within := by rw [more]; exact fits
                counted := ?_ }, data, continues, more⟩
      have counted := gathers.counted
      rw [more, List.length_append, emptyUnits_succ continues]
      split
      · omega
      · rename_i isNotEmpty
        have atLeastOne := List.length_pos_iff.mpr isNotEmpty
        omega

/-- An empty unit always fits. -/
theorem Gathers.isUnderWay_of_empty {progress : Progress}
    (gathers : Gathers settings replies count progress)
    (checked : (replies count).checkHeader = .ok ())
    (empty : (replies count).continuing? = some []) :
    (progress.answer (replies count)).isUnderWay = true := by
  obtain ⟨body, rfl⟩ := gathers.round
  have fits : (carried replies count ++ []).length
      ≤ settings.maxReassemblyBytes := by
    rw [List.append_nil]
    exact gathers.within
  obtain ⟨next, resumed⟩ := Exchange.resume_gathering checked empty fits
  rw [Progress.answer, resumed]
  rfl

theorem gathers_of_isUnderWay
    (underWay : (((userData request).start settings context?).follow replies
      count).isUnderWay = true) :
    Gathers settings replies count
      (((userData request).start settings context?).follow replies count) := by
  induction count with
  | zero => exact ⟨⟨request, rfl⟩, Nat.zero_le _, Nat.zero_le _⟩
  | succ count inductionHypothesis =>
      exact ((inductionHypothesis
        (Progress.isUnderWay_of_answer underWay)).succ underWay).1

/-- An operation that is under way submitted one job for each reply that came,
and the one that is still outstanding. -/
theorem jobsBegun_userData_eq_succ
    (underWay : (((userData request).start settings context?).follow replies
      count).isUnderWay = true) :
    ((userData request).start settings context?).jobsBegun replies count
      = count + 1 := by
  induction count with
  | zero => rfl
  | succ count inductionHypothesis =>
      obtain ⟨body, isRound⟩ := (gathers_of_isUnderWay underWay).round
      rw [Progress.jobsBegun_succ, isRound,
        inductionHypothesis (Progress.isUnderWay_of_answer underWay)]
      rfl

/-- The ceiling bounds the jobs, but for those that get an empty unit. -/
theorem jobsBegun_userData_le (settings : SessionSettings)
    (context? : Option Context) (request : Body) (replies : Nat -> Pdu)
    (count : Nat) :
    ((userData request).start settings context?).jobsBegun replies count
      ≤ 1 + settings.maxReassemblyBytes + emptyUnits replies count := by
  induction count with
  | zero =>
      have first : ((userData request).start settings context?).jobsBegun
          replies 0 = 1 := rfl
      omega
  | succ count inductionHypothesis =>
      cases underWay : (((userData request).start settings context?).follow
          replies (count + 1)).isUnderWay with
      | false =>
          have noLess := emptyUnits_le_succ replies count
          rw [Progress.jobsBegun_succ, Progress.bodies_eq_nil underWay,
            List.length_nil]
          omega
      | true =>
          have gathers := gathers_of_isUnderWay underWay
          have within := gathers.within
          have counted := gathers.counted
          rw [jobsBegun_userData_eq_succ underWay]
          omega

/-- What an endless operation gathers would pass every bound if units with data
came again and again. -/
theorem exists_carried_of_infinitely_often
    (endless : ((userData request).start settings context?).IsEndless replies)
    (infinitelyOften : ∀ count, ∃ later ≥ count,
      (replies later).continuing? ≠ some [])
    (bound : Nat) : ∃ count, bound ≤ (carried replies count).length := by
  induction bound with
  | zero => exact ⟨0, Nat.zero_le _⟩
  | succ bound inductionHypothesis =>
      obtain ⟨count, reached⟩ := inductionHypothesis
      obtain ⟨later, inOrder, isNotEmpty⟩ := infinitelyOften count
      have noLess := (carried_isPrefix replies inOrder).length_le
      obtain ⟨-, data, continues, more⟩ :=
        (gathers_of_isUnderWay (endless later)).succ (endless (later + 1))
      refine ⟨later + 1, ?_⟩
      have hasData : data ≠ [] := by
        rintro rfl
        exact isNotEmpty continues
      have atLeastOne := List.length_pos_iff.mpr hasData
      rw [more, List.length_append]
      omega

/-- An operation is endless just if, while it is under way, all units from one
on are empty. -/
theorem isEndless_userData_iff
    (checked : ∀ index, (replies index).checkHeader = .ok ()) :
    ((userData request).start settings context?).IsEndless replies
      ↔ ∃ count,
        (((userData request).start settings context?).follow replies
          count).isUnderWay = true
        ∧ ∀ later ≥ count, (replies later).continuing? = some [] := by
  constructor
  · intro endless
    by_contra never
    push Not at never
    obtain ⟨count, exceeds⟩ := exists_carried_of_infinitely_often endless
      (fun count => never count (endless count))
      (settings.maxReassemblyBytes + 1)
    have within := (gathers_of_isUnderWay (endless count)).within
    omega
  · rintro ⟨count, underWay, empty⟩ later
    obtain inOrder | inOrder := Nat.le_total later count
    · exact Progress.isUnderWay_of_le inOrder underWay
    · induction later, inOrder using Nat.le_induction with
      | base => exact underWay
      | succ later inOrder inductionHypothesis =>
          exact (gathers_of_isUnderWay inductionHypothesis).isUnderWay_of_empty
            (checked later) (empty later inOrder)

/-- The ceiling bounds the jobs of a user-data operation up to those that get an
empty unit. So the operation is endless just if, while it is under way, all
units from one on are empty. -/
theorem userData_jobsBegun_and_isEndless (settings : SessionSettings)
    (context? : Option Context) (request : Body)
    (checked : ∀ index, (replies index).checkHeader = .ok ()) :
    (∀ count,
      ((userData request).start settings context?).jobsBegun replies count
        ≤ 1 + settings.maxReassemblyBytes + emptyUnits replies count)
      ∧ (((userData request).start settings context?).IsEndless replies
        ↔ ∃ count,
          (((userData request).start settings context?).follow replies
            count).isUnderWay = true
          ∧ ∀ later ≥ count, (replies later).continuing? = some []) :=
  ⟨jobsBegun_userData_le settings context? request replies,
    isEndless_userData_iff checked⟩

end Operation

namespace EmptyUnits

/-- A unit without data that another one is to follow. -/
def unit : Pdu :=
  { header := .ofLengths .userData 0 12 0
    parameter := (UserData.Parameter.response .timeFunctions 0x01 1 false
      |>.emit.result.toOption.getD [])
    data := [] }

theorem checkHeader_unit : unit.checkHeader = .ok () := by decide

theorem continuing?_unit : unit.continuing? = some [] := by decide +kernel

end EmptyUnits

open EmptyUnits TwoBytes in
theorem Operation.userData_jobsBegun_and_isEndless_emptyUnits :
    (∀ count,
      ((userData UserData.clockRequest).start settings none).jobsBegun
        (fun _ => unit) count ≤ 65 + emptyUnits (fun _ => unit) count)
      ∧ ((userData UserData.clockRequest).start settings none).IsEndless
        fun _ => unit := by
  have both := userData_jobsBegun_and_isEndless settings none
    UserData.clockRequest (fun _ : Nat => checkHeader_unit)
  exact ⟨both.1, both.2.mpr ⟨0, rfl, fun _ _ => continuing?_unit⟩⟩

open EmptyUnits TwoBytes in
/-- Whatever the ceiling, empty units get one job after the other. -/
theorem Operation.jobsBegun_emptyUnits :
    unit.checkHeader = .ok () ∧ ∀ ceiling count,
      ((userData UserData.clockRequest).start
        { settings with maxReassemblyBytes := ceiling } none).jobsBegun
          (fun _ => unit) count = count + 1 := by
  refine ⟨checkHeader_unit, fun ceiling count => ?_⟩
  have endless : ((userData UserData.clockRequest).start
      { settings with maxReassemblyBytes := ceiling } none).IsEndless
        fun _ => unit :=
    (isEndless_userData_iff fun _ => checkHeader_unit).mpr
      ⟨0, rfl, fun _ _ => continuing?_unit⟩
  exact jobsBegun_userData_eq_succ (endless count)

end PlcLink
