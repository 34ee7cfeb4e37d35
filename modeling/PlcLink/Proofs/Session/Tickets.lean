import Mathlib
import PlcLink.Session.Service
import PlcLink.Proofs.Session.JobTable

/-!
# Where the jobs of a service are

A job is in one place at a time: it waits for a permit, it is admitted, it is in
the queue, or it is in the table. Whatever a service does, a job that leaves
these places leaves with an outcome or because its caller gave up.
-/

namespace PlcLink

variable {Ticket : Type}

/-- The tickets of jobs. -/
def jobTickets (jobs : List (Job Ticket)) : Multiset Ticket :=
  (jobs.map Job.ticket : List Ticket)

/-- The tickets of jobs that ended. -/
def outcomeTickets (outcomes : List (Outcome Ticket)) : Multiset Ticket :=
  (outcomes.map Outcome.ticket : List Ticket)

@[simp] theorem jobTickets_nil : jobTickets ([] : List (Job Ticket)) = 0 := rfl

@[simp] theorem jobTickets_cons (job : Job Ticket) (jobs : List (Job Ticket)) :
    jobTickets (job :: jobs) = {job.ticket} + jobTickets jobs := rfl

@[simp] theorem jobTickets_append (first second : List (Job Ticket)) :
    jobTickets (first ++ second) = jobTickets first + jobTickets second := by
  simp [jobTickets]

theorem jobTickets_perm {first second : List (Job Ticket)}
    (perm : first.Perm second) : jobTickets first = jobTickets second :=
  Multiset.coe_eq_coe.2 (perm.map _)

theorem jobTickets_filter (keep : Job Ticket -> Bool)
    (jobs : List (Job Ticket)) :
    jobTickets (jobs.filter keep)
        + jobTickets (jobs.filter fun job => !keep job)
      = jobTickets jobs := by
  rw [← jobTickets_append]
  exact jobTickets_perm (List.filter_append_perm keep jobs)

theorem jobTickets_eraseP_le (isAsked : Job Ticket -> Bool)
    (jobs : List (Job Ticket)) :
    jobTickets (jobs.eraseP isAsked) ≤ jobTickets jobs :=
  Multiset.coe_le.2 ((List.eraseP_sublist.map _).subperm)

/-- A job found among the first of a list is the one that is erased. -/
theorem jobTickets_eraseP {isAsked : Job Ticket -> Bool} {job : Job Ticket}
    (count : Nat) (jobs : List (Job Ticket))
    (found : (jobs.take count).find? isAsked = some job) :
    {job.ticket} + jobTickets (jobs.eraseP isAsked) = jobTickets jobs := by
  induction jobs generalizing count with
  | nil => simp at found
  | cons first others inductionHypothesis =>
      cases count with
      | zero => simp at found
      | succ count =>
          rw [List.take_succ_cons, List.find?_cons] at found
          cases asked : isAsked first with
          | true =>
              rw [asked] at found
              cases Option.some.inj found
              rw [List.eraseP_cons_of_pos asked, jobTickets_cons]
          | false =>
              rw [asked] at found
              rw [List.eraseP_cons_of_neg (by simp [asked]), jobTickets_cons,
                jobTickets_cons, ← inductionHypothesis count found]
              abel

@[simp] theorem outcomeTickets_nil :
    outcomeTickets ([] : List (Outcome Ticket)) = 0 := rfl

@[simp] theorem outcomeTickets_cons (outcome : Outcome Ticket)
    (outcomes : List (Outcome Ticket)) :
    outcomeTickets (outcome :: outcomes)
      = {outcome.ticket} + outcomeTickets outcomes := rfl

@[simp] theorem outcomeTickets_append (first second : List (Outcome Ticket)) :
    outcomeTickets (first ++ second)
      = outcomeTickets first + outcomeTickets second := by
  simp [outcomeTickets]

theorem mem_outcomeTickets {ticket : Ticket} {outcomes : List (Outcome Ticket)} :
    ticket ∈ outcomeTickets outcomes ↔
      ∃ outcome ∈ outcomes, outcome.ticket = ticket := by
  simp [outcomeTickets]

theorem eq_of_outcomeTickets_nodup {outcomes : List (Outcome Ticket)}
    (nodup : (outcomeTickets outcomes).Nodup)
    {first second : Outcome Ticket}
    (firstMember : first ∈ outcomes) (secondMember : second ∈ outcomes)
    (same : first.ticket = second.ticket) : first = second :=
  List.inj_on_of_nodup_map (Multiset.coe_nodup.1 nodup) firstMember
    secondMember same

theorem outcomeTickets_map_failure (error : Error) (jobs : List (Job Ticket)) :
    outcomeTickets (jobs.map (Service.failure error)) = jobTickets jobs := by
  rw [outcomeTickets, jobTickets, List.map_map]
  rfl

namespace JobTable

/-- The tickets of a table from which jobs were struck out. -/
theorem Strikes.tickets_eq {before after : JobTable Ticket}
    {ended : List (UInt16 × Ticket)} (strikes : Strikes before after ended) :
    (before.tickets : Multiset Ticket)
      = (ended.map Prod.snd : List Ticket) + (after.tickets : Multiset Ticket) :=
  Multiset.coe_eq_coe.2 strikes.tickets_perm

theorem tickets_register {table : JobTable Ticket} {reference : UInt16}
    (free : table.find? reference = none) (ticket : Ticket) (deadline : Nat) :
    ((table.register reference ticket deadline).tickets : Multiset Ticket)
      = {ticket} + (table.tickets : Multiset Ticket) :=
  (strikes_register table free ticket deadline).tickets_eq

end JobTable

/-- The outcomes of taking a job from the queue. -/
def Dispatch.outcomes : Dispatch Ticket -> List (Outcome Ticket)
  | .refused outcome => [outcome]
  | .skipped | .sending _ _ => []

namespace Service

/-- The tickets of all jobs of a service. -/
def tickets (service : Service Ticket) : Multiset Ticket :=
  jobTickets service.waiting + jobTickets service.admitted
    + jobTickets service.queue + service.table.tickets

theorem mem_tickets_of_find? {service : Service Ticket}
    {reference : UInt16} {ticket : Ticket}
    (found : service.table.find? reference = some ticket) :
    ticket ∈ service.tickets := by
  rw [tickets]
  exact Multiset.mem_add.2
    (.inr (Multiset.mem_coe.2 (JobTable.mem_tickets.2 ⟨reference, found⟩)))

/-- What a permit that is given back leaves as it is. -/
theorem release_frame (service : Service Ticket) :
    service.release.tickets = service.tickets
      ∧ service.release.table = service.table
      ∧ service.release.reassembler = service.reassembler
      ∧ service.release.queue = service.queue := by
  unfold release
  split
  · rename_i job waiting isWaiting
    refine ⟨?_, rfl, rfl, rfl⟩
    simp only [tickets, isWaiting, jobTickets_append, jobTickets_cons,
      jobTickets_nil]
    abel
  · exact ⟨rfl, rfl, rfl, rfl⟩

theorem releaseMany_frame (count : Nat) (service : Service Ticket) :
    (releaseMany count service).tickets = service.tickets
      ∧ (releaseMany count service).table = service.table
      ∧ (releaseMany count service).reassembler = service.reassembler := by
  induction count generalizing service with
  | zero => exact ⟨rfl, rfl, rfl⟩
  | succ count inductionHypothesis =>
      obtain ⟨tickets, table, reassembler, -⟩ := service.release_frame
      obtain ⟨laterTickets, laterTable, laterReassembler⟩ :=
        inductionHypothesis service.release
      exact ⟨laterTickets.trans tickets, laterTable.trans table,
        laterReassembler.trans reassembler⟩

variable {service after : Service Ticket}

theorem submit_frame {job : Job Ticket}
    (submitted : service.submit job = some after) :
    after.tickets = {job.ticket} + service.tickets
      ∧ after.table = service.table
      ∧ after.reassembler = service.reassembler := by
  unfold submit at submitted
  split at submitted
  · cases submitted
  · split at submitted
    · cases submitted
      refine ⟨?_, rfl, rfl⟩
      simp only [tickets, jobTickets_append, jobTickets_cons, jobTickets_nil]
      abel
    · cases submitted
      refine ⟨?_, rfl, rfl⟩
      simp only [tickets, jobTickets_append, jobTickets_cons, jobTickets_nil]
      abel

/-- The tickets of a service whose queue was not looked at. -/
theorem tickets_of_queue {job : Job Ticket} {queue : List (Job Ticket)}
    (isQueue : service.queue = job :: queue) :
    service.tickets = {job.ticket} + tickets { service with queue } := by
  simp only [tickets, isQueue, jobTickets_cons]
  abel

section

variable [DecidableEq Ticket]

theorem enqueue_frame (service : Service Ticket) (ticket : Ticket) :
    (service.enqueue ticket).tickets = service.tickets
      ∧ (service.enqueue ticket).table = service.table
      ∧ (service.enqueue ticket).reassembler = service.reassembler := by
  unfold enqueue
  dsimp only
  split
  · rename_i job found
    refine ⟨?_, rfl, rfl⟩
    simp only [tickets, jobTickets_append, jobTickets_cons, jobTickets_nil,
      ← jobTickets_eraseP _ _ found]
    abel
  · exact ⟨rfl, rfl, rfl⟩

theorem giveUp_frame (service : Service Ticket) (ticket : Ticket) :
    (service.giveUp ticket).tickets ≤ service.tickets
      ∧ (service.giveUp ticket).table = service.table
      ∧ (service.giveUp ticket).reassembler = service.reassembler := by
  unfold giveUp
  dsimp only
  split
  · refine ⟨?_, rfl, rfl⟩
    have fewer := jobTickets_eraseP_le (fun job => job.ticket == ticket)
      service.waiting
    simp only [tickets]
    gcongr
  · split
    · have fewer := jobTickets_eraseP_le (fun job => job.ticket == ticket)
        service.admitted
      obtain ⟨released, table, reassembler, -⟩ := release_frame
        { service with
          admitted := service.admitted.eraseP
            fun job => job.ticket == ticket }
      refine ⟨?_, table, reassembler⟩
      rw [released]
      simp only [tickets]
      gcongr
    · exact ⟨le_refl _, rfl, rfl⟩

/-- Every job that was found in the table is found there still. -/
structure Keeps (before after : Service Ticket) : Prop where
  found : ∀ reference ticket,
    before.table.find? reference = some ticket →
      after.table.find? reference = some ticket
  reassembler_eq : after.reassembler = before.reassembler

/-- A job that is taken from the queue ends, goes into the table, or is
forgotten because its caller gave up. -/
theorem dispatch_cases {now : Nat} {dispatch : Dispatch Ticket}
    (dispatched : service.dispatch? now = some (after, dispatch)) :
    ∃ job queue table,
      service.queue = job :: queue
        ∧ table.pending = service.table.pending
        ∧ ((after = release { service with queue, table }
            ∧ (job.ticket ∈ service.absent ∧ dispatch = .skipped
              ∨ ∃ error, dispatch = .refused (failure error job)))
          ∨ ∃ reference datagrams,
            table.find? reference = none
              ∧ after =
                { service with
                  queue
                  table := table.register reference job.ticket job.deadline }
              ∧ dispatch = .sending reference datagrams) := by
  unfold dispatch? at dispatched
  split at dispatched
  · cases dispatched
  · rename_i job queue isQueue
    refine ⟨job, queue, ?_⟩
    dsimp only at dispatched
    split at dispatched
    · rename_i isAbsent
      cases dispatched
      exact
        ⟨service.table, isQueue, rfl, .inl ⟨rfl, .inl ⟨isAbsent, rfl⟩⟩⟩
    · split at dispatched
      · cases dispatched
        exact ⟨service.table, isQueue, rfl, .inl ⟨rfl, .inr ⟨_, rfl⟩⟩⟩
      · have pending := JobTable.pending_allocate service.table now
        split at dispatched
        · rename_i table allocated
          rw [allocated] at pending
          cases dispatched
          exact ⟨table, isQueue, pending, .inl ⟨rfl, .inr ⟨_, rfl⟩⟩⟩
        · rename_i reference table allocated
          rw [allocated] at pending
          split at dispatched
          · cases dispatched
            exact ⟨table, isQueue, pending, .inl ⟨rfl, .inr ⟨_, rfl⟩⟩⟩
          · cases dispatched
            have free := (JobTable.allocate_some
              (congrArg Prod.fst allocated)).2
            rw [JobTable.find?, ← pending] at free
            exact ⟨table, isQueue, pending,
              .inr ⟨reference, _, free, rfl, rfl⟩⟩

theorem dispatch_frame {now : Nat} {dispatch : Dispatch Ticket}
    (dispatched : service.dispatch? now = some (after, dispatch)) :
    outcomeTickets dispatch.outcomes + after.tickets ≤ service.tickets
      ∧ service.Keeps after
      ∧ after.queue.length < service.queue.length := by
  obtain ⟨job, queue, table, isQueue, pending, cases⟩ :=
    dispatch_cases dispatched
  have sameTickets : table.tickets = service.table.tickets := by
    rw [JobTable.tickets, JobTable.tickets, pending]
  have sameFound : ∀ reference, table.find? reference
      = service.table.find? reference := by
    intro reference
    rw [JobTable.find?, JobTable.find?, pending]
  have rest : service.tickets
      = {job.ticket} + tickets { service with queue, table } := by
    rw [tickets_of_queue isQueue]
    simp only [tickets, sameTickets]
  have shorter : queue.length < service.queue.length := by
    rw [isQueue]
    exact Nat.lt_succ_self _
  rw [rest]
  obtain ⟨rfl, ended⟩ | ⟨reference, datagrams, free, rfl, rfl⟩ := cases
  · obtain ⟨released, sameTable, reassembler, sameQueue⟩ :=
      release_frame { service with queue, table }
    refine ⟨?_, ⟨?_, reassembler⟩, by rw [sameQueue]; exact shorter⟩
    · rw [released]
      obtain ⟨-, rfl⟩ | ⟨error, rfl⟩ := ended
      · exact add_le_add_left (Multiset.zero_le _) _
      · exact le_refl _
    · intro reference ticket found
      rw [sameTable, sameFound, found]
  · refine ⟨?_, ⟨?_, rfl⟩, shorter⟩
    · simp only [Dispatch.outcomes, outcomeTickets_nil, zero_add, tickets,
        JobTable.tickets_register free]
      apply le_of_eq
      abel
    · intro other ticket found
      rw [← sameFound] at found
      rw [JobTable.find?_register, if_neg, found]
      rintro rfl
      rw [free] at found
      cases found

end

/-- Jobs that lapse end; the others stay. -/
theorem lapse_frame (service : Service Ticket) (now : Nat) :
    outcomeTickets (service.lapse now).2 + (service.lapse now).1.tickets
        = service.tickets
      ∧ (service.lapse now).1.table = service.table
      ∧ (service.lapse now).1.reassembler = service.reassembler := by
  unfold lapse
  dsimp only
  obtain ⟨released, table, reassembler⟩ := releaseMany_frame
    (service.admitted.filter fun job => job.deadline ≤ now).length
    { service with
      waiting := service.waiting.filter fun job => !(job.deadline ≤ now)
      admitted := service.admitted.filter fun job => !(job.deadline ≤ now) }
  refine ⟨?_, table, reassembler⟩
  rw [released, outcomeTickets_map_failure, jobTickets_append]
  simp only [tickets]
  rw [← jobTickets_filter (fun job => job.deadline ≤ now) service.waiting,
    ← jobTickets_filter (fun job => job.deadline ≤ now) service.admitted]
  abel

/-- Jobs that expire leave the table and end. -/
theorem expire_frame (service : Service Ticket) (now : Nat) :
    outcomeTickets ((service.expire now).2.map Prod.snd)
          + (service.expire now).1.tickets
        = service.tickets
      ∧ JobTable.Strikes service.table (service.expire now).1.table
        (service.table.expire now).2
      ∧ (service.expire now).1.reassembler = service.reassembler := by
  have strikes := service.table.strikes_expire now
  have parts : service.expire now
      = (releaseMany (service.table.timeOut now).2.length
          { service with table := (service.table.timeOut now).1 },
        (service.table.timeOut now).2) := rfl
  obtain ⟨released, table, reassembler⟩ := releaseMany_frame
    (service.table.timeOut now).2.length
    { service with table := (service.table.timeOut now).1 }
  rw [parts]
  dsimp only
  refine ⟨?_, ?_, reassembler⟩
  · rw [released, outcomeTickets, JobTable.map_ticket_timeOut]
    have ended := strikes.tickets_eq
    simp only [tickets]
    rw [ended]
    change _ + (_ + ((service.table.expire now).1.tickets : Multiset Ticket)) = _
    abel
  · rw [table]
    exact strikes

/-! ## Jobs that end without a reply -/

theorem result_failure {error : Error} {jobs : List (Job Ticket)}
    {outcome : Outcome Ticket} (isFailure : outcome ∈ jobs.map (failure error)) :
    ∃ error, outcome.result = .error error := by
  obtain ⟨job, -, rfl⟩ := List.mem_map.1 isFailure
  exact ⟨error, rfl⟩

/-- Jobs that run out of time end with errors. -/
theorem result_of_late (service : Service Ticket) (now : Nat) :
    ∀ outcome ∈ (service.lapse now).2
        ++ ((service.lapse now).1.expire now).2.map Prod.snd,
      ∃ error, outcome.result = .error error := by
  intro outcome isLate
  obtain lapsed | expired := List.mem_append.1 isLate
  · exact result_failure lapsed
  · exact JobTable.result_timeOut expired

/-- Jobs that are not sent end with errors. -/
theorem result_of_dispatch [DecidableEq Ticket] {now : Nat}
    {dispatch : Dispatch Ticket} {outcome : Outcome Ticket}
    (dispatched : service.dispatch? now = some (after, dispatch))
    (isRefused : outcome ∈ dispatch.outcomes) :
    ∃ error, outcome.result = .error error := by
  obtain ⟨job, queue, table, -, -,
    ⟨-, ⟨-, rfl⟩ | ⟨error, rfl⟩⟩ | ⟨_, _, -, -, rfl⟩⟩ :=
    dispatch_cases dispatched
  · cases isRefused
  · obtain rfl := List.mem_singleton.1 isRefused
    exact ⟨error, rfl⟩
  · cases isRefused

end Service
end PlcLink
