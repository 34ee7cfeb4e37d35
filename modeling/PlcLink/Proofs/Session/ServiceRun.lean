import Mathlib
import PlcLink.Proofs.Session.Turnover

/-!
# Runs of a service

A run begins with the service of a connection that just became ready. Callers
submit jobs and give up, admitted jobs enter the queue, jobs are taken from it
and sent or not, frames of the peer are taken, jobs run out of time, and all
jobs end at once; all this in any order. A run keeps an account of the jobs and
of their permits.
-/

namespace PlcLink

/-- What can happen to a service. -/
inductive ServiceMove (Ticket : Type)
  | submit (job : Job Ticket)
  | enqueue (ticket : Ticket)
  | giveUp (ticket : Ticket)
  | lapse (now : Nat)
  | dispatch (now : Nat)
  | sendFailed (reference : UInt16)
  | receive (frame : Except Error Frame)
  | expire (now : Nat)
  | close
  | tearDown

variable {Ticket : Type}

namespace ServiceMove

/-- The ticket of the job that comes, if one does. -/
def came : ServiceMove Ticket -> Multiset Ticket
  | submit job => {job.ticket}
  | _ => 0

/-- The ticket of the caller that gives up, if one does. -/
def left : ServiceMove Ticket -> List Ticket
  | giveUp ticket => [ticket]
  | _ => []

theorem nodup_came (move : ServiceMove Ticket) : move.came.Nodup := by
  cases move with
  | submit job => exact Multiset.nodup_singleton _
  | _ => exact Multiset.nodup_zero

end ServiceMove

/-- Make a move and hand out the outcomes of the jobs that it ends. A job that
is refused, or taken from an empty queue, is no move. -/
def Service.perform? [DecidableEq Ticket] (service : Service Ticket) :
    ServiceMove Ticket -> Option (Service Ticket × List (Outcome Ticket))
  | .submit job => (service.submit job).map (·, [])
  | .enqueue ticket => some (service.enqueue ticket, [])
  | .giveUp ticket => some (service.giveUp ticket, [])
  | .lapse now => some (service.lapse now)
  | .dispatch now =>
      (service.dispatch? now).map fun (service, dispatch) =>
        (service, dispatch.outcomes)
  | .sendFailed reference => some (service.sendFailed reference)
  | .receive frame =>
      let (service, reception) := service.receive frame
      some (service, reception.outcomes)
  | .expire now =>
      let (service, expired) := service.expire now
      some (service, expired.map Prod.snd)
  | .close => some service.close
  | .tearDown => some service.tearDown

/-- A service under way, and the account of its jobs and permits. -/
structure ServiceRun (Ticket : Type) where
  service : Service Ticket
  /-- The tickets of all jobs there have been. -/
  submitted : Multiset Ticket
  /-- Callers that gave up. -/
  gone : List Ticket
  /-- The outcomes that left the service, the oldest first. -/
  told : List (Outcome Ticket)
  /-- By ticket, the permits that jobs were given. -/
  granted : Multiset Ticket
  /-- By ticket, the permits that jobs gave back. -/
  returned : Multiset Ticket

namespace ServiceRun

/-- Nothing happened yet. -/
def start (context : Context) (queueCapacity grace ceiling : Nat) :
    ServiceRun Ticket :=
  { service := .start context queueCapacity grace ceiling
    submitted := 0
    gone := []
    told := []
    granted := 0
    returned := 0 }

variable [DecidableEq Ticket]

/-- The run after a move that led to a service and to outcomes. A permit is
granted when a job comes to hold one, and given back when it no longer does. -/
def settle (run : ServiceRun Ticket) (move : ServiceMove Ticket)
    (service : Service Ticket) (outcomes : List (Outcome Ticket)) :
    ServiceRun Ticket :=
  { service
    submitted := move.came + run.submitted
    gone := move.left ++ run.gone
    told := run.told ++ outcomes
    granted := run.granted + (service.holders - run.service.holders)
    returned := run.returned + (run.service.holders - service.holders) }

/-- Make a move, if it can be made. Every job has a ticket of its own. -/
def step? (run : ServiceRun Ticket) (move : ServiceMove Ticket) :
    Option (ServiceRun Ticket) :=
  if ∀ ticket ∈ move.came, ticket ∉ run.submitted then
    (run.service.perform? move).map fun (service, outcomes) =>
      run.settle move service outcomes
  else
    none

/-- Make moves one after the other. -/
def play? (run : ServiceRun Ticket) :
    List (ServiceMove Ticket) -> Option (ServiceRun Ticket)
  | [] => some run
  | move :: moves => (run.step? move).bind fun next => next.play? moves

theorem step?_eq_some {run : ServiceRun Ticket} {move : ServiceMove Ticket}
    {after : Service Ticket} {outcomes : List (Outcome Ticket)}
    (fresh : ∀ ticket ∈ move.came, ticket ∉ run.submitted)
    (performed : run.service.perform? move = some (after, outcomes)) :
    run.step? move = some (run.settle move after outcomes) := by
  rw [step?, if_pos fresh, performed]
  rfl

theorem play?_singleton (run : ServiceRun Ticket) (move : ServiceMove Ticket) :
    run.play? [move] = run.step? move := by
  rw [play?]
  exact Option.bind_fun_some _

/-! ## What every move keeps -/

omit [DecidableEq Ticket] in
/-- What holds of the account of a run at any time. -/
structure Kept (context : Context) (run : ServiceRun Ticket) : Prop where
  context_eq : run.service.context = context
  nodup : run.submitted.Nodup
  /-- A job is in one place, has ended once, or was forgotten. -/
  places : ∃ forgotten : Multiset Ticket,
    outcomeTickets run.told + forgotten + run.service.tickets = run.submitted
      ∧ ∀ ticket ∈ forgotten, ticket ∈ run.gone
  absent_gone : ∀ ticket ∈ run.service.absent, ticket ∈ run.gone
  balance : run.service.permits + run.service.holders.card = context.window
  granted_eq : run.granted = run.returned + run.service.holders
  /-- A job that waits was never given a permit. -/
  waiting_le : jobTickets run.service.waiting + run.granted ≤ run.submitted

omit [DecidableEq Ticket] in
theorem kept_start (context : Context) (queueCapacity grace ceiling : Nat) :
    Kept context
      (start context queueCapacity grace ceiling : ServiceRun Ticket) := by
  have noHolders :
      (start context queueCapacity grace ceiling
        : ServiceRun Ticket).service.holders = 0 := by
    simp [start, Service.start, Service.holders]
  refine
    { context_eq := rfl
      nodup := Multiset.nodup_zero
      places := ⟨0, ?_, ?_⟩
      absent_gone := fun ticket isAbsent => absurd isAbsent List.not_mem_nil
      balance := ?_
      granted_eq := ?_
      waiting_le := le_refl _ }
  · rw [Service.tickets_eq, noHolders]
    rfl
  · exact fun ticket member => absurd member (Multiset.notMem_zero ticket)
  · rw [noHolders]
    rfl
  · rw [noHolders]
    rfl

section

variable {context : Context} {run : ServiceRun Ticket}
  {move : ServiceMove Ticket} {service after : Service Ticket}
  {outcomes : List (Outcome Ticket)}

/-- What a turnover leaves in order. -/
theorem Kept.settle (kept : run.Kept context)
    (fresh : ∀ ticket ∈ move.came, ticket ∉ run.submitted)
    (turnover :
      run.service.Turnover service move.came outcomes move.left) :
    (run.settle move service outcomes).Kept context := by
  obtain ⟨earlier, earlierPlaces, earlierGone⟩ := kept.places
  obtain ⟨later, laterPlaces, laterGone⟩ := turnover.places
  have isGone : ∀ ticket,
      ticket ∈ run.service.absent ∨ ticket ∈ move.left →
        ticket ∈ move.left ++ run.gone := by
    rintro ticket (isAbsent | hasLeft)
    · exact List.mem_append_right _ (kept.absent_gone ticket isAbsent)
    · exact List.mem_append_left _ hasLeft
  refine
    { context_eq := turnover.context_eq.trans kept.context_eq
      nodup := ?_
      places := ⟨earlier + later, ?_, ?_⟩
      absent_gone := fun ticket isAbsent =>
        isGone ticket (turnover.absent_sub ticket isAbsent)
      balance := turnover.balance.trans kept.balance
      granted_eq := ?_
      waiting_le := ?_ }
  · exact Multiset.nodup_add.2
      ⟨move.nodup_came, kept.nodup, Multiset.disjoint_left.2 (fresh _)⟩
  · change outcomeTickets (run.told ++ outcomes) + (earlier + later)
      + service.tickets = move.came + run.submitted
    rw [outcomeTickets_append, ← earlierPlaces, add_left_comm move.came,
      ← laterPlaces]
    abel
  · intro ticket member
    obtain isEarlier | isLater := Multiset.mem_add.1 member
    · exact List.mem_append_right _ (earlierGone ticket isEarlier)
    · exact isGone ticket (laterGone ticket isLater)
  · change run.granted + (service.holders - run.service.holders)
      = run.returned + (run.service.holders - service.holders)
        + service.holders
    rw [kept.granted_eq]
    ext ticket
    simp only [Multiset.count_add, Multiset.count_sub]
    omega
  · change jobTickets service.waiting
        + (run.granted + (service.holders - run.service.holders))
      ≤ move.came + run.submitted
    rw [Multiset.le_iff_count]
    intro ticket
    -- A job that comes to hold a permit has just come, or it waited.
    have places := congrArg (Multiset.count ticket) laterPlaces
    have waiting := Multiset.le_iff_count.1 turnover.waiting_le ticket
    have earlierWaiting := Multiset.le_iff_count.1 kept.waiting_le ticket
    rw [service.tickets_eq, run.service.tickets_eq] at places
    simp only [Multiset.count_add, Multiset.count_sub] at *
    omega

theorem turnover_perform?
    (performed : service.perform? move = some (after, outcomes)) :
    service.Turnover after move.came outcomes move.left := by
  cases move with
  | submit job =>
      obtain ⟨later, submitted, same⟩ := Option.map_eq_some_iff.1 performed
      cases same
      exact Service.turnover_submit submitted
  | enqueue ticket =>
      cases performed
      exact service.turnover_enqueue ticket
  | giveUp ticket =>
      cases performed
      exact service.turnover_giveUp ticket
  | lapse now =>
      cases performed
      exact service.turnover_lapse now
  | dispatch now =>
      obtain ⟨⟨later, dispatch⟩, dispatched, same⟩ :=
        Option.map_eq_some_iff.1 performed
      cases same
      exact Service.turnover_dispatch dispatched
  | sendFailed reference =>
      cases performed
      exact service.turnover_sendFailed reference
  | receive frame =>
      cases performed
      exact service.turnover_receive frame
  | expire now =>
      cases performed
      exact service.turnover_expire now
  | close =>
      cases performed
      exact service.turnover_close
  | tearDown =>
      cases performed
      exact service.turnover_tearDown

theorem Kept.step {next : ServiceRun Ticket} (kept : run.Kept context)
    (stepped : run.step? move = some next) : next.Kept context := by
  unfold step? at stepped
  split at stepped
  · rename_i fresh
    obtain ⟨⟨service, outcomes⟩, performed, rfl⟩ :=
      Option.map_eq_some_iff.1 stepped
    exact kept.settle fresh (turnover_perform? performed)
  · cases stepped

theorem Kept.play {moves : List (ServiceMove Ticket)} {last : ServiceRun Ticket}
    (kept : run.Kept context) (played : run.play? moves = some last) :
    last.Kept context := by
  induction moves generalizing run with
  | nil =>
      cases Option.some.inj played
      exact kept
  | cons move moves inductionHypothesis =>
      obtain ⟨next, stepped, played⟩ := Option.bind_eq_some_iff.1 played
      exact inductionHypothesis (kept.step stepped) played

omit [DecidableEq Ticket] in
theorem Kept.nodup_told (kept : run.Kept context) :
    (outcomeTickets run.told).Nodup := by
  obtain ⟨forgotten, places, -⟩ := kept.places
  refine Multiset.nodup_of_le ?_ kept.nodup
  rw [← places, add_assoc]
  exact Multiset.le_add_right _ _

omit [DecidableEq Ticket] in
theorem Kept.disjoint_told (kept : run.Kept context) :
    Disjoint (outcomeTickets run.told) run.service.tickets := by
  obtain ⟨forgotten, places, -⟩ := kept.places
  have distinct := kept.nodup
  rw [← places] at distinct
  exact (Multiset.disjoint_add_left.1
    (Multiset.nodup_add.1 distinct).2.2).1

/-- A job whose caller waits is in the service or has its outcome. -/
theorem Kept.count_eq_one (kept : run.Kept context) {ticket : Ticket}
    (isSubmitted : ticket ∈ run.submitted) (waits : ticket ∉ run.gone) :
    run.service.tickets.count ticket
      + (outcomeTickets run.told).count ticket = 1 := by
  obtain ⟨forgotten, places, gone⟩ := kept.places
  have once := Multiset.count_eq_one_of_mem kept.nodup isSubmitted
  have remembered : forgotten.count ticket = 0 :=
    Multiset.count_eq_zero.2 fun isForgotten => waits (gone ticket isForgotten)
  rw [← places, Multiset.count_add, Multiset.count_add] at once
  omega

end

/-! ## The window -/

/-- The permits of a run are those of a window. -/
structure KeepsWindow (run : ServiceRun Ticket)
    (window : Nat) : Prop where
  /-- Permits are free, or jobs hold them that are admitted, queued or
  pending. -/
  permits_eq :
    run.service.permits + run.service.admitted.length
        + run.service.queue.length + run.service.table.size
      = window
  size_le : run.service.table.size ≤ window
  /-- No job is given two permits. -/
  granted_nodup : run.granted.Nodup
  /-- A job gives its permit back once, when it leaves and not before. -/
  count_returned : ∀ ticket ∈ run.granted,
    run.returned.count ticket
      = if ticket ∈ run.service.holders then 0 else 1
  returned_le : run.returned ≤ run.granted
  /-- What was granted and not given back is missing from the free permits. -/
  free_eq :
    run.service.permits + run.granted.card = window + run.returned.card
  /-- A job that ended holds no permit. -/
  not_mem_holders : ∀ outcome ∈ run.told,
    outcome.ticket ∉ run.service.holders
  /-- When all jobs end at once, all permits are free. -/
  tearDown_permits : run.service.tearDown.1.permits = window

theorem Kept.keeps_window {context : Context} {run : ServiceRun Ticket}
    (kept : run.Kept context) : run.KeepsWindow context.window := by
  have balance := kept.balance
  rw [Service.card_holders] at balance
  have granted : run.granted.Nodup :=
    Multiset.nodup_of_le
      ((Multiset.le_add_left _ _).trans kept.waiting_le) kept.nodup
  refine
    { permits_eq := by omega
      size_le := by omega
      granted_nodup := granted
      count_returned := ?_
      returned_le := ?_
      free_eq := ?_
      not_mem_holders := ?_
      tearDown_permits := ?_ }
  · intro ticket isGranted
    have once := Multiset.count_eq_one_of_mem granted isGranted
    rw [kept.granted_eq, Multiset.count_add] at once
    split
    · rename_i holds
      have held := Multiset.count_pos.2 holds
      omega
    · rename_i holdsNot
      rwa [Multiset.count_eq_zero_of_notMem holdsNot, add_zero] at once
  · rw [kept.granted_eq]
    exact Multiset.le_add_right _ _
  · rw [kept.granted_eq, Multiset.card_add, ← kept.balance]
    omega
  · intro outcome isTold holds
    have inService : outcome.ticket ∈ run.service.tickets := by
      rw [Service.tickets_eq]
      exact Multiset.mem_add.2 (.inr holds)
    exact Multiset.disjoint_left.1 kept.disjoint_told
      (mem_outcomeTickets.2 ⟨outcome, isTold, rfl⟩) inService
  · have turnover := run.service.turnover_tearDown.balance
    rw [Service.holders_tearDown, Multiset.card_zero, add_zero] at turnover
    exact turnover.trans kept.balance

end ServiceRun

namespace Word

theorem toNat_min (first second : UInt16) :
    (min first second).toNat = min first.toNat second.toNat := by
  change (if first ≤ second then first else second).toNat = _
  split
  · rename_i le
    exact (Nat.min_eq_left (UInt16.le_iff_toNat_le.1 le)).symm
  · rename_i notLe
    rw [UInt16.le_iff_toNat_le] at notLe
    exact (Nat.min_eq_right (by omega)).symm

theorem toNat_max (first second : UInt16) :
    (max first second).toNat = max first.toNat second.toNat := by
  change (if first ≤ second then second else first).toNat = _
  split
  · rename_i le
    exact (Nat.max_eq_right (UInt16.le_iff_toNat_le.1 le)).symm
  · rename_i notLe
    rw [UInt16.le_iff_toNat_le] at notLe
    exact (Nat.max_eq_left (by omega)).symm

end Word

namespace Context

/-- The window is the least number of jobs that either side wants or accepts,
and at least one. -/
theorem window_negotiate {tsaps : TsapPair} {frameSize : Nat}
    {asked granted : Setup} {context : Context}
    (negotiated : negotiate tsaps frameSize asked granted = .ok context) :
    context.window
      = max 1
        (min (min asked.calling granted.calling)
          (min asked.called granted.called)).toNat := by
  unfold negotiate at negotiated
  dsimp only at negotiated
  split at negotiated
  · cases negotiated
  · cases negotiated
    simp only [window, Word.toNat_min, Word.toNat_max]
    have one : (1 : UInt16).toNat = 1 := rfl
    omega

end Context

namespace ServiceRun

variable [DecidableEq Ticket]

/-- However its moves are ordered, a run keeps the window that both sides
agreed on. -/
theorem keepsWindow {tsaps : TsapPair} {frameSize : Nat}
    {asked granted : Setup} {context : Context}
    (negotiated :
      Context.negotiate tsaps frameSize asked granted = .ok context)
    {queueCapacity grace ceiling : Nat}
    {moves : List (ServiceMove Ticket)} {run : ServiceRun Ticket}
    (played :
      (start context queueCapacity grace ceiling).play? moves = some run) :
    context.window
        = max 1
          (min (min asked.calling granted.calling)
            (min asked.called granted.called)).toNat
      ∧ run.KeepsWindow context.window :=
  ⟨Context.window_negotiate negotiated,
    ((kept_start context queueCapacity grace ceiling).play played).keeps_window⟩

/-! ## A window of two -/

namespace WindowOfTwo

def asked : Setup :=
  { calling := 3, called := 3, pduSize := 480 }

def grant : Setup :=
  { calling := 2, called := 5, pduSize := 240 }

def context : Context :=
  { tsaps := .ofWords 0x0100 0x0102
    frameSize := 128
    pduSize := 240
    calling := 2
    called := 3 }

def job (ticket : Nat) : Job Nat :=
  { ticket
    pdu :=
      { header := .ofLengths .job 0 2 0, parameter := [0x04, 0], data := [] }
    deadline := 100 }

def reply (reference : UInt16) : Pdu :=
  { header := .ofLengths .ackData reference 2 0
    parameter := [0x04, 0]
    data := [] }

/-- Of five jobs one is answered, two are given up, one cannot be sent and one
is left to the end. -/
def moves : List (ServiceMove Nat) :=
  [.submit (job 0), .submit (job 1), .submit (job 2), .submit (job 3),
    .submit (job 4), .giveUp 3, .enqueue 0, .dispatch 0, .enqueue 1,
    .receive (do Frame.ofData (<- (reply 1).encode) true),
    .giveUp 1, .dispatch 0, .enqueue 2, .dispatch 0, .sendFailed 2]

end WindowOfTwo

open WindowOfTwo in
theorem keepsWindow_two :
    Context.negotiate (.ofWords 0x0100 0x0102) 128 asked grant = .ok context
      ∧ ∃ run,
        (start context 4 10 64).play? moves = some run
          ∧ run.told.map Outcome.ticket = [0, 2]
          ∧ run.service.permits = 1
          ∧ run.service.admitted.map Job.ticket = [4]
          ∧ run.KeepsWindow 2 := by
  have negotiated : Context.negotiate (.ofWords 0x0100 0x0102) 128 asked grant
      = .ok context := by
    decide
  have ended :
      ((start context 4 10 64).play? moves).any
        (fun run =>
          run.told.map Outcome.ticket = [0, 2]
            ∧ run.service.permits = 1
            ∧ run.service.admitted.map Job.ticket = [4]) = true := by
    decide +kernel
  obtain ⟨run, played, ended⟩ := (Option.any_eq_true _ _).1 ended
  obtain ⟨told, permits, admitted⟩ := of_decide_eq_true ended
  exact ⟨negotiated, run, played, told, permits, admitted,
    (keepsWindow negotiated played).2⟩

end ServiceRun
end PlcLink
