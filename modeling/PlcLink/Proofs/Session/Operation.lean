import Mathlib
import PlcLink.Session.Exchange
import PlcLink.Proofs.Session.DialogueEnd

/-!
# Operations in batches

An operation that reads or writes variables gives what its batches were
answered, looked at in the order of the batches. In what order, in which
fragments and in which chunks the replies came makes no difference.
-/

namespace PlcLink

/-! ## Verdicts -/

/-- The first error of some results, if there is one. -/
def firstFault? {value : Type} (results : List (Except Error value)) :
    Option Error :=
  results.findSome? fun
    | .error error => some error
    | .ok _ => none

/-- All values of some results, or the first error among them. -/
def allUnlessFault {value : Type} (results : List (Except Error value)) :
    Except Error (List value) :=
  match firstFault? results with
  | some error => .error error
  | none => .ok (results.filterMap Except.toOption)

theorem mapM_eq_allUnlessFault {input value : Type}
    (f : input -> Except Error value) (inputs : List input) :
    inputs.mapM f = allUnlessFault (inputs.map f) := by
  induction inputs with
  | nil => rfl
  | cons first others inductionHypothesis =>
      rw [List.mapM_cons, List.map_cons]
      cases result : f first with
      | error error => rfl
      | ok value =>
          rw [inductionHypothesis]
          unfold allUnlessFault firstFault?
          rw [List.findSome?_cons]
          dsimp only
          cases (others.map f).findSome? _ <;> rfl

/-- The plan of an operation in batches. -/
inductive BatchPlan
  | read (plan : ReadPlan)
  | write (plan : WritePlan)

namespace BatchPlan

/-- Whether an operation is planned so within limits. -/
inductive Plans (limits : BatchLimits) : BatchPlan -> Operation -> Prop
  | read {specs : List VarSpec} {plan : ReadPlan}
      (planned : ReadPlan.ofSpecs limits specs = .ok plan) :
      Plans limits (.read plan) (.read specs)
  | write {items : List WriteItem} {plan : WritePlan}
      (planned : WritePlan.ofItems limits items = .ok plan) :
      Plans limits (.write plan) (.write items)

/-- What the jobs of a plan ask for, one for each batch. -/
def bodies : BatchPlan -> List Body
  | read plan => plan.batches.map .readRequest
  | write plan => plan.batches.map .writeRequest

/-- The operation while it waits for the replies. -/
def exchange : BatchPlan -> Exchange
  | read plan => .reading plan
  | write plan => .writing plan

/-- What the operation gives for one reply to each batch: the error of the
first batch whose reply is wrong, or else what all replies merge to. -/
def verdict (replies : List Pdu) : BatchPlan -> Except Error Answer
  | read plan => do
      let items <- allUnlessFault <|
        List.zipWith
          (fun batch reply => Exchange.readReply batch.length (.ok reply))
          plan.batches replies
      return .results (<- plan.merge items)
  | write plan => do
      let codes <- allUnlessFault <|
        List.zipWith
          (fun batch reply => Exchange.writeReply batch.length (.ok reply))
          plan.batches replies
      return .codes (<- plan.merge codes)

/-- A result is a reply, under whatever reference. -/
def Carries (reply : Pdu) (result : Except Error Pdu) : Prop :=
  ∃ reference, result = .ok (reply.withReference reference)

theorem readEach_eq {piece value : Type}
    {read : Nat -> Except Error Pdu -> Except Error value}
    (unreferenced : ∀ count reply reference,
      read count (.ok (Pdu.withReference reply reference))
        = read count (.ok reply))
    (batches : List (List piece)) {replies : List Pdu}
    {results : List (Except Error Pdu)}
    (carried : List.Forall₂ Carries replies results) :
    Exchange.readEach read batches results
      = allUnlessFault
        (List.zipWith (fun batch reply => read batch.length (.ok reply))
          batches replies) := by
  rw [Exchange.readEach, mapM_eq_allUnlessFault]
  congr 1
  induction carried generalizing batches with
  | nil => simp
  | @cons reply result replies results isCarried _ inductionHypothesis =>
      cases batches with
      | nil => rfl
      | cons batch batches =>
          obtain ⟨reference, rfl⟩ := isCarried
          rw [List.zip_cons_cons, List.map_cons, List.zipWith_cons_cons,
            inductionHypothesis batches]
          dsimp only
          rw [unreferenced]

theorem checked_withReference (reply : Pdu) (reference : UInt16) :
    Exchange.checked (.ok (reply.withReference reference))
      = (Exchange.checked (.ok reply)).map (Pdu.withReference · reference) := by
  have same : (reply.withReference reference).checkHeader
      = reply.checkHeader := rfl
  change (reply.withReference reference).checkHeader.bind _
    = (reply.checkHeader.bind _).map _
  rw [same]
  cases reply.checkHeader <;> rfl

theorem readReply_withReference (count : Nat) (reply : Pdu)
    (reference : UInt16) :
    Exchange.readReply count (.ok (reply.withReference reference))
      = Exchange.readReply count (.ok reply) := by
  unfold Exchange.readReply
  rw [checked_withReference]
  cases Exchange.checked (.ok reply) <;> rfl

theorem writeReply_withReference (count : Nat) (reply : Pdu)
    (reference : UInt16) :
    Exchange.writeReply count (.ok (reply.withReference reference))
      = Exchange.writeReply count (.ok reply) := by
  unfold Exchange.writeReply
  rw [checked_withReference]
  cases Exchange.checked (.ok reply) <;> rfl

/-- An operation goes by its replies in the order of the batches, whatever
their references. -/
theorem resume_exchange (plan : BatchPlan) {replies : List Pdu}
    {results : List (Except Error Pdu)}
    (carried : List.Forall₂ Carries replies results) :
    plan.exchange.resume results = .finished (plan.verdict replies) := by
  cases plan with
  | read plan =>
      rw [exchange, Exchange.resume, verdict,
        readEach_eq readReply_withReference plan.batches carried]
  | write plan =>
      rw [exchange, Exchange.resume, verdict,
        readEach_eq writeReply_withReference plan.batches carried]

/-- An operation that is planned so begins with the jobs of the plan. -/
theorem start_eq {plan : BatchPlan} {operation : Operation}
    {settings : SessionSettings} {context : Context}
    (plans : plan.Plans (Operation.limits settings context) operation) :
    operation.start settings (some context)
      = .round plan.exchange plan.bodies := by
  cases plans with
  | read planned =>
      rw [Operation.start]
      simp only [planned]
      rfl
  | write planned =>
      rw [Operation.start]
      simp only [planned]
      rfl

end BatchPlan

namespace Dialogue

variable {Ticket : Type} [DecidableEq Ticket]

/-- How an operation goes on that waits for jobs, once they all ended. -/
def progress? (dialogue : Dialogue Ticket) (exchange : Exchange)
    (jobs : List (PlannedJob Ticket)) : Option Progress :=
  (jobs.mapM fun job => dialogue.result? job.ticket).map exchange.resume

end Dialogue

namespace Orderly

variable {Ticket : Type} [DecidableEq Ticket]
  {jobs : List (PlannedJob Ticket)} {dialogue : Dialogue Ticket}
  {service : Service Ticket} {datagrams : List Bytes}

/-- An operation whose jobs were all answered goes on with its verdict, if it
goes on. -/
theorem progress?_eq {progress : Progress}
    (orderly : Orderly jobs dialogue service datagrams)
    (answered : ∀ job ∈ jobs, dialogue.Answered job.ticket)
    (plan : BatchPlan)
    (isProgress : dialogue.progress? plan.exchange jobs = some progress) :
    progress = .finished (plan.verdict (jobs.map PlannedJob.reply)) := by
  obtain ⟨results, ended, rfl⟩ := Option.map_eq_some_iff.1 isProgress
  apply plan.resume_exchange
  rw [List.forall₂_map_left_iff]
  have each := (List.forall₂_and_left jobs results).2
    ⟨fun job member => member, forall₂_of_mapM_eq_some ended⟩
  refine each.imp ?_
  rintro job result ⟨member, isResult⟩
  exact orderly.result?_eq member (answered job member) isResult

/-- In the end an operation whose jobs were all answered has finished. -/
theorem progress?_of_settled {now : Nat}
    (orderly : Orderly jobs dialogue service datagrams)
    (answered : ∀ job ∈ jobs, dialogue.Answered job.ticket)
    (plan : BatchPlan)
    (settled : dialogue.Settled now) :
    dialogue.progress? plan.exchange jobs
      = some (.finished (plan.verdict (jobs.map PlannedJob.reply))) := by
  obtain ⟨results, ended⟩ := exists_mapM_eq_some fun job member =>
    orderly.exists_result? settled member (answered job member)
  have goesOn : dialogue.progress? plan.exchange jobs
      = some (plan.exchange.resume results) :=
    congrArg (Option.map _) ended
  rw [goesOn, orderly.progress?_eq answered plan goesOn]

end Orderly

/-- An operation in batches, planned in a ready session, begins with the jobs
of its plan. In every dialogue in which the peer answers all of them, it
finishes with the verdict on the replies in the order of the batches and with
nothing else; it has finished when everything received is dealt with, which the
session can always bring about. -/
theorem Session.operation_verdict {Ticket : Type} [DecidableEq Ticket]
    {session : Session Ticket} {service : Service Ticket}
    {operation : Operation} {plan : BatchPlan}
    {jobs : List (PlannedJob Ticket)} {moves : List (DialogueMove Ticket)}
    {last : Dialogue Ticket}
    (attentive : session.Attentive service)
    (plans : plan.Plans
      (Operation.limits session.settings service.context) operation)
    (bodies : jobs.map PlannedJob.body = plan.bodies)
    (played : (Dialogue.ofSession session).play? jobs moves = some last)
    (answered : ∀ job ∈ jobs, last.Answered job.ticket) :
    operation.start session.settings session.context?
        = .round plan.exchange (jobs.map PlannedJob.body)
      ∧ (∀ progress,
        last.progress? plan.exchange jobs = some progress →
          progress = .finished (plan.verdict (jobs.map PlannedJob.reply)))
      ∧ (∀ now, last.Settled now →
        last.progress? plan.exchange jobs
          = some (.finished (plan.verdict (jobs.map PlannedJob.reply))))
      ∧ ∀ now, ∃ further final,
        last.play? jobs further = some final
          ∧ final.Settled now
          ∧ final.progress? plan.exchange jobs
            = some (.finished (plan.verdict (jobs.map PlannedJob.reply))) := by
  have context : session.context? = some service.context := by
    rw [Session.context?, attentive.serves]
    rfl
  obtain ⟨after, datagrams, orderly⟩ := (attentive.orderly jobs).play played
  refine ⟨?_, ?_, ?_, ?_⟩
  · rw [context, bodies]
    exact BatchPlan.start_eq plans
  · intro progress isProgress
    exact orderly.progress?_eq answered plan isProgress
  · intro now settled
    exact orderly.progress?_of_settled answered plan settled
  · intro now
    obtain ⟨further, final, playedOn, settled, sameAnswers⟩ :=
      orderly.settles now answered
    obtain ⟨finalService, finalDatagrams, later⟩ := orderly.play playedOn
    have stillAnswered : ∀ job ∈ jobs, final.Answered job.ticket :=
      fun job member => (answered job member).of_answers_eq sameAnswers
    exact ⟨further, final, playedOn, settled,
      later.progress?_of_settled stillAnswered plan settled⟩

/-! ## Two bytes whose replies come the other way round -/

namespace TwoBytes

def specs : List VarSpec :=
  [.elements .dataBlock 1 0 .byte 1, .elements .dataBlock 1 1 .byte 1]

/-- One batch for each byte. -/
def plan : ReadPlan :=
  { pieces := specs.map fun spec => [spec]
    batches := specs.map fun spec => [spec]
    fragments :=
      specs.zipIdx.map fun (spec, batch) => [(spec, { batch, index := 0 })]
    flatten_batches := rfl }

def context : Context :=
  { tsaps := .ofWords 0x0100 0x0102
    frameSize := 128
    pduSize := 240
    calling := 3
    called := 3 }

def settings : SessionSettings :=
  { host := "127.0.0.1"
    port := 102
    tsaps := context.tsaps
    tpduSize := context.frameSize
    pduSize := context.pduSize
    calling := context.calling
    called := context.called
    connectTimeout := 5000
    requestTimeout := 3000
    sendQueueCapacity := 4
    maxItemsPerRequest := 1
    referenceGrace := 10000
    maxReassemblyBytes := 64
    keepAlive := true
    noDelay := true
    recvBufferSize? := none }

def service : Service Nat :=
  .start context settings.sendQueueCapacity settings.referenceGrace
    settings.maxReassemblyBytes

def session : Session Nat :=
  { settings
    phase := .serving service
    inbound := .empty
    streamEnd? := none
    cancelled := false
    readyBy := 0 }

/-- The reply to a request for a single byte. -/
def reply (byte : UInt8) : Pdu :=
  { header := .ofLengths .ackData 0 2 5
    parameter := [0x04, 1]
    data := [0xFF, 0x04, 0, 8, byte] }

def jobs : List (PlannedJob Nat) :=
  List.zipWith
    (fun (spec, ticket) byte =>
      { ticket, body := .readRequest [spec], reply := reply byte })
    specs.zipIdx [7, 8]

/-- A reply, which has 19 bytes, in two datagrams. -/
def datagrams (pdu : Pdu) : List Bytes :=
  let raw := pdu.encode.toOption.getD []
  [[0x03, 0, 0, 17, 2, 0xF0, 0x00] ++ raw.take 10,
    [0x03, 0, 0, 16, 2, 0xF0, 0x80] ++ raw.drop 10]

/-- The second byte is answered first, and another caller's job in between. -/
def moves : List (DialogueMove Nat) :=
  [.submit 0 (.readRequest (specs.take 1)) 0,
    .submit 1 (.readRequest (specs.drop 1)) 0,
    .submit 2 (.readRequest specs) 0,
    .enqueue 0, .act 0, .written,
    .enqueue 1, .act 0, .written,
    .enqueue 2, .act 0, .written,
    .send (datagrams ((reply 8).withReference 2)),
    .send (datagrams ((reply 9).withReference 3)),
    .deliver 20, .act 0,
    .send (datagrams ((reply 7).withReference 1)),
    .deliver 50, .act 0, .act 0, .act 0, .deliver 29, .act 0, .act 0]

/-- Both bytes, in the order in which they were asked for. -/
def answer : Answer :=
  .results
    [{ returnCode := .success
       variableType := .byteWordDoubleWord
       data := [7] },
      { returnCode := .success
        variableType := .byteWordDoubleWord
        data := [8] }]

theorem planned :
    ReadPlan.ofSpecs (Operation.limits settings context) specs = .ok plan := by
  have shape :
      (ReadPlan.ofSpecs (Operation.limits settings context) specs).map
          (fun plan => (plan.pieces, plan.batches, plan.fragments))
        = .ok (plan.pieces, plan.batches, plan.fragments) := by
    decide +kernel
  obtain ⟨⟨pieces, batches, fragments, flatten⟩, planned, same⟩ :=
    exists_of_map_eq_ok shape
  cases same
  exact planned

end TwoBytes

open TwoBytes in
theorem Session.operation_verdict_twoBytes :
    ∃ last,
      (Dialogue.ofSession session).play? jobs moves = some last
        ∧ last.told.map Outcome.ticket = [1, 2, 0]
        ∧ last.progress? (.reading plan) jobs
          = some (.finished (.ok answer)) := by
  have ended :
      ((Dialogue.ofSession session).play? jobs moves).any
        (fun last =>
          (∀ job ∈ jobs, last.Answered job.ticket)
            ∧ last.told.map Outcome.ticket = [1, 2, 0]
            ∧ (last.progress? (.reading plan) jobs).isSome) = true := by
    decide +kernel
  obtain ⟨last, played, ended⟩ := (Option.any_eq_true _ _).1 ended
  obtain ⟨answered, told, goesOn⟩ := of_decide_eq_true ended
  obtain ⟨progress, isProgress⟩ := Option.isSome_iff_exists.1 goesOn
  have attentive : session.Attentive service :=
    ⟨rfl, rfl, rfl, rfl, rfl, Multiset.nodup_zero⟩
  obtain ⟨-, verdict, -, -⟩ :=
    operation_verdict attentive (.read planned) rfl played answered
  refine ⟨last, played, told, isProgress.trans ?_⟩
  rw [verdict progress isProgress]
  have merged : (BatchPlan.read plan).verdict (jobs.map PlannedJob.reply)
      = .ok answer := by
    decide +kernel
  rw [merged]

end PlcLink
