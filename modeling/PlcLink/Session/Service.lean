import PlcLink.Session.Lifecycle
import PlcLink.Session.Outcome
import PlcLink.Session.Reassembly
import PlcLink.Transport.Frame

/-!
# Serving jobs

While a session is ready it serves jobs. A job needs a permit, of which there
are as many as the window is wide. It waits for one, then for room in the
queue, then to be sent under a reference, then for the reply; its permit is
given back when it ends, whichever way that is.

Every function hands out the outcomes of the jobs that it ends.
-/

namespace PlcLink

/-- A job that a caller, known by a ticket, asked for. -/
structure Job (Ticket : Type) where
  ticket : Ticket
  pdu : Pdu
  /-- When the caller's patience ends. -/
  deadline : Nat
  deriving Repr

/-- The jobs of a ready session, by how far they have come. -/
structure Service (Ticket : Type) where
  context : Context
  queueCapacity : Nat
  /-- Permits that no job holds. -/
  permits : Nat
  /-- Whether permits are still given out. -/
  isOpen : Bool
  /-- Jobs without permits, the longest waiting first. -/
  waiting : List (Job Ticket)
  /-- Jobs with permits that are not in the queue yet. -/
  admitted : List (Job Ticket)
  queue : List (Job Ticket)
  table : JobTable Ticket
  /-- Callers that gave up after their jobs were queued. -/
  absent : List Ticket
  reassembler : Reassembler

/-- What came of taking a job from the queue. -/
inductive Dispatch (Ticket : Type)
  /-- The caller had given up. -/
  | skipped
  | refused (outcome : Outcome Ticket)
  /-- The job is in the table, and its datagrams are to be sent. -/
  | sending (reference : UInt16) (datagrams : List Bytes)

/-- What came of a received frame. -/
inductive Reception (Ticket : Type)
  | ignored
  | answered (outcome : Outcome Ticket)
  | missed (reference : UInt16)
  | overflowed (length : Nat)
  /-- The peer asked to disconnect. -/
  | disconnected

namespace Service

variable {Ticket : Type}

/-- The service of a connection that just became ready. -/
def start
    (context : Context)
    (queueCapacity grace ceiling : Nat) : Service Ticket :=
  { context
    queueCapacity
    permits := context.window
    isOpen := true
    waiting := []
    admitted := []
    queue := []
    table := .empty grace
    absent := []
    reassembler := .empty ceiling }

/-- A job that ended with an error. -/
def failure (error : Error) (job : Job Ticket) : Outcome Ticket :=
  { ticket := job.ticket, result := .error error }

/-- Give a permit back: to the job that has waited longest, if there is one. -/
def release (service : Service Ticket) : Service Ticket :=
  match service.waiting with
  | job :: waiting =>
      { service with waiting, admitted := service.admitted ++ [job] }
  | [] => { service with permits := service.permits + 1 }

/-- Ask for a job. Nothing if permits are no longer given out. -/
def submit (service : Service Ticket) (job : Job Ticket) :
    Option (Service Ticket) :=
  if !service.isOpen then
    none
  else if service.permits = 0 then
    some { service with waiting := service.waiting ++ [job] }
  else
    some
      { service with
        permits := service.permits - 1
        admitted := service.admitted ++ [job] }

/-- Free places of the queue. -/
def room (service : Service Ticket) : Nat :=
  service.queueCapacity - service.queue.length

/-- Put an admitted job into the queue, if its turn has come and there is
room. -/
def enqueue [DecidableEq Ticket] (service : Service Ticket) (ticket : Ticket) :
    Service Ticket :=
  let isAsked := fun job : Job Ticket => job.ticket == ticket
  match (service.admitted.take service.room).find? isAsked with
  | some job =>
      { service with
        admitted := service.admitted.eraseP isAsked
        queue := service.queue ++ [job] }
  | none => service

/-- Let a caller give up. A job in the queue or in the table stays there, and
its outcome is of no use to anybody. -/
def giveUp [DecidableEq Ticket] (service : Service Ticket) (ticket : Ticket) :
    Service Ticket :=
  let isAsked := fun job : Job Ticket => job.ticket == ticket
  if service.waiting.any isAsked then
    { service with waiting := service.waiting.eraseP isAsked }
  else if service.admitted.any isAsked then
    { service with admitted := service.admitted.eraseP isAsked }.release
  else
    { service with absent := ticket :: service.absent }

/-- Give back as many permits. -/
def releaseMany : Nat -> Service Ticket -> Service Ticket
  | 0, service => service
  | count + 1, service => releaseMany count service.release

/-- End the jobs whose callers ran out of patience before the queue. -/
def lapse (service : Service Ticket) (now : Nat) :
    Service Ticket × List (Outcome Ticket) :=
  let isLate := fun job : Job Ticket => job.deadline ≤ now
  let lateWaiting := service.waiting.filter isLate
  let lateAdmitted := service.admitted.filter isLate
  (releaseMany lateAdmitted.length
    { service with
      waiting := service.waiting.filter fun job => !isLate job
      admitted := service.admitted.filter fun job => !isLate job },
    (lateWaiting ++ lateAdmitted).map (failure .requestTimeout))

/-- The datagrams of a job under its reference. -/
def datagrams (service : Service Ticket) (pdu : Pdu) (reference : UInt16) :
    Except Error (List Bytes) := do
  let raw <- (pdu.withReference reference).encode
  let frames <- segment raw service.context.frameSize
  frames.mapM Frame.encode

/-- Take the first job from the queue, if there is one. -/
def dispatch? [DecidableEq Ticket] (service : Service Ticket) (now : Nat) :
    Option (Service Ticket × Dispatch Ticket) :=
  match service.queue with
  | [] => none
  | job :: queue =>
      let service := { service with queue }
      if job.ticket ∈ service.absent then
        some (service.release, .skipped)
      else if job.deadline ≤ now then
        some (service.release, .refused (failure .requestTimeout job))
      else
        match service.table.allocate now with
        | (none, table) =>
            some
              ({ service with table }.release,
                .refused
                  (failure (.protocolViolation .noFreeReference) job))
        | (some reference, table) =>
            match service.datagrams job.pdu reference with
            | .error error =>
                some
                  ({ service with table }.release,
                    .refused (failure error job))
            | .ok datagrams =>
                let table := table.register reference job.ticket job.deadline
                some ({ service with table }, .sending reference datagrams)

/-- End the job that could not be sent. -/
def sendFailed (service : Service Ticket) (reference : UInt16) :
    Service Ticket × List (Outcome Ticket) :=
  let (table, failed) := service.table.fail reference .notConnected
  (releaseMany failed.length { service with table }, failed)

/-- Take a whole PDU. One that cannot be read is dropped. -/
def receivePdu (service : Service Ticket) (raw : Bytes) :
    Service Ticket × Reception Ticket :=
  match Pdu.parse raw with
  | .error _ => (service, .ignored)
  | .ok pdu =>
      match service.table.resolve pdu with
      | (table, .delivered outcome) =>
          ({ service with table }.release, .answered outcome)
      | (_, .miss reference) => (service, .missed reference)

/-- Take a frame. One that cannot be read is dropped. -/
def receive (service : Service Ticket) (frame : Except Error Frame) :
    Service Ticket × Reception Ticket :=
  match frame with
  | .error _ => (service, .ignored)
  | .ok frame =>
      match frame.tpdu with
      | .data parameters =>
          let (reassembler, joined) :=
            service.reassembler.push frame.payload parameters.endOfPdu
          let service := { service with reassembler }
          match joined with
          | .complete raw => service.receivePdu raw
          | .pending => (service, .ignored)
          | .overflow length => (service, .overflowed length)
      | .disconnectRequest _ => (service, .disconnected)
      | _ => (service, .ignored)

/-- End the jobs in the table that ran out of time. -/
def expire (service : Service Ticket) (now : Nat) :
    Service Ticket × List (UInt16 × Outcome Ticket) :=
  let (table, expired) := service.table.timeOut now
  (releaseMany expired.length { service with table }, expired)

/-- Give out no more permits. The jobs that wait for one end. -/
def close (service : Service Ticket) :
    Service Ticket × List (Outcome Ticket) :=
  ({ service with isOpen := false, waiting := [] },
    service.waiting.map (failure .notConnected))

/-- End all jobs. -/
def tearDown (service : Service Ticket) :
    Service Ticket × List (Outcome Ticket) :=
  let (service, outcomes) := service.close
  let (table, pending) := service.table.drain
  let begun := service.admitted ++ service.queue
  ({ service with
     permits := service.permits + begun.length + pending.length
     admitted := []
     queue := []
     table },
    pending ++ outcomes ++ begun.map (failure .notConnected))

/-- When a job runs out of time next. -/
def nextDeadline? (service : Service Ticket) : Option Nat :=
  (service.table.nextDeadline?.toList
    ++ (service.waiting ++ service.admitted).map Job.deadline).min?

end Service
end PlcLink
