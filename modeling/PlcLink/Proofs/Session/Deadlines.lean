import PlcLink.Proofs.Session.Quarantine

/-!
# Deadlines of pending jobs

The deadlines that a job table keeps and its pending jobs agree in one direction
only: every pending job has its deadline kept, while deadlines of jobs that
ended otherwise stay until their time comes. That is enough for no deadline to
be missed, and the jobs' own deadlines keep any from being called too early.
-/

namespace PlcLink
namespace JobTable

variable {Ticket : Type} {table : JobTable Ticket}

/-- The deadline of every pending job is kept under its reference. -/
def Armed (table : JobTable Ticket) : Prop :=
  ∀ (reference : UInt16) (job : PendingJob Ticket),
    table.pending[reference]? = some job ->
      (job.deadline, reference) ∈ table.deadlines

/-! ## The next deadline -/

/-- The next deadline is the earliest of those that are kept. -/
theorem nextDeadline?_eq_some_iff {deadline : Nat} :
    table.nextDeadline? = some deadline
      ↔ (∃ reference, (deadline, reference) ∈ table.deadlines)
        ∧ ∀ entry ∈ table.deadlines, deadline ≤ entry.1 := by
  rw [nextDeadline?, List.min?_eq_some_iff, List.forall_mem_map]
  apply and_congr_left'
  simp

theorem exists_nextDeadline? {entry : Nat × UInt16}
    (kept : entry ∈ table.deadlines) :
    ∃ deadline, table.nextDeadline? = some deadline := by
  apply Option.isSome_iff_exists.1
  apply List.isSome_min?_of_mem
  exact List.mem_map_of_mem kept

/-- No pending job has a deadline before the next one. -/
theorem Armed.nextDeadline?_le (armed : table.Armed)
    {reference : UInt16} {job : PendingJob Ticket}
    (pending : table.pending[reference]? = some job) :
    ∃ next, table.nextDeadline? = some next
      ∧ ∀ (other : UInt16) (otherJob : PendingJob Ticket),
        table.pending[other]? = some otherJob -> next ≤ otherJob.deadline := by
  obtain ⟨next, isNext⟩ := exists_nextDeadline? (armed reference job pending)
  refine ⟨next, isNext, ?_⟩
  intro other otherJob otherPending
  apply (nextDeadline?_eq_some_iff.1 isNext).2 (otherJob.deadline, other)
  exact armed other otherJob otherPending

/-! ## Jobs that run out of time -/

/-- Of the given references, those end whose jobs have a deadline that came. -/
theorem mem_expireEach {now : Nat} {references : List UInt16}
    {reference : UInt16} {ticket : Ticket} :
    (reference, ticket) ∈ (expireEach now references table).2
      ↔ reference ∈ references
        ∧ ∃ job, table.pending[reference]? = some job
          ∧ job.deadline ≤ now ∧ job.ticket = ticket := by
  induction references generalizing table with
  | nil => simp [expireEach]
  | cons first references inductionHypothesis =>
      simp only [expireEach]
      split
      · rename_i firstJob firstPending
        split
        · rename_i came
          rw [List.mem_cons, inductionHypothesis]
          simp only [getElem?_pending_remove]
          -- The first reference has no job any more when the others are
          -- looked at.
          by_cases same : reference = first
          · subst same
            simp [firstPending, came, eq_comm]
          · simp [same]
        · rename_i notYet
          rw [inductionHypothesis, List.mem_cons]
          by_cases same : reference = first
          · subst same
            simp [firstPending, notYet]
          · simp [same]
      · rename_i absent
        rw [inductionHypothesis, List.mem_cons]
        by_cases same : reference = first
        · subst same
          simp [absent]
        · simp [same]

@[simp] theorem deadlines_expireEach (now : Nat) (references : List UInt16)
    (table : JobTable Ticket) :
    (expireEach now references table).1.deadlines = table.deadlines := by
  induction references generalizing table with
  | nil => rfl
  | cons reference references inductionHypothesis =>
      simp only [expireEach]
      split
      · split
        · exact inductionHypothesis _
        · exact inductionHypothesis _
      · exact inductionHypothesis _

theorem deadlines_expire (table : JobTable Ticket) (now : Nat) :
    (table.expire now).1.deadlines
      = table.deadlines.filter fun entry => now < entry.1 :=
  deadlines_expireEach now (table.due now) _

theorem mem_due {now : Nat} {reference : UInt16} :
    reference ∈ table.due now
      ↔ ∃ deadline ≤ now, (deadline, reference) ∈ table.deadlines := by
  simp [due, and_comm]

/-- The jobs end whose deadlines came, and no others. -/
theorem Armed.mem_expire (armed : table.Armed) {now : Nat}
    {reference : UInt16} {ticket : Ticket} :
    (reference, ticket) ∈ (table.expire now).2
      ↔ ∃ job, table.pending[reference]? = some job
        ∧ job.deadline ≤ now ∧ job.ticket = ticket := by
  rw [expire, mem_expireEach, and_iff_right_of_imp]
  rintro ⟨job, pending, came, -⟩
  apply mem_due.2
  exact ⟨job.deadline, came, armed reference job pending⟩

/-- The jobs stay whose deadlines are still to come. -/
theorem Armed.pending_expire (armed : table.Armed) (now : Nat)
    (reference : UInt16) :
    (table.expire now).1.pending[reference]?
      = table.pending[reference]?.filter fun job => now < job.deadline := by
  have ended : reference ∈ (table.expire now).2.map Prod.fst
      ↔ ∃ job, table.pending[reference]? = some job ∧ job.deadline ≤ now := by
    simp [armed.mem_expire]
  rw [(strikes_expire table now).pending_eq]
  cases pending : table.pending[reference]? with
  | none => simp
  | some job =>
      rw [pending] at ended
      by_cases came : job.deadline ≤ now
      · rw [if_pos (ended.2 ⟨job, rfl, came⟩), Option.filter_some,
          if_neg (by simpa using came)]
      · rw [if_neg, Option.filter_some, if_pos (by simpa using came)]
        intro member
        obtain ⟨other, same, otherCame⟩ := ended.1 member
        cases same
        exact came otherCame

theorem lt_of_nextDeadline?_expire {now next : Nat}
    (isNext : (table.expire now).1.nextDeadline? = some next) :
    now < next := by
  obtain ⟨⟨reference, kept⟩, -⟩ := nextDeadline?_eq_some_iff.1 isNext
  rw [deadlines_expire] at kept
  simpa using (List.mem_filter.1 kept).2

/-! ## What the operations keep -/

theorem armed_empty (grace : Nat) : (empty grace : JobTable Ticket).Armed := by
  intro reference job pending
  simp [empty] at pending

/-- A table with fewer jobs and the same deadlines is armed, too. -/
theorem Armed.of_pending (armed : table.Armed) {after : JobTable Ticket}
    (fewer : ∀ (reference : UInt16) (job : PendingJob Ticket),
      after.pending[reference]? = some job ->
        table.pending[reference]? = some job)
    (sameDeadlines : after.deadlines = table.deadlines) : after.Armed := by
  intro reference job pending
  rw [sameDeadlines]
  exact armed reference job (fewer reference job pending)

theorem Armed.allocate (armed : table.Armed) (now : Nat) :
    (table.allocate now).2.Armed := by
  apply armed.of_pending
  · intro reference job pending
    rwa [pending_allocate] at pending
  · rw [snd_allocate]
    rfl

theorem Armed.register (armed : table.Armed) (reference : UInt16)
    (ticket : Ticket) (deadline : Nat) :
    (table.register reference ticket deadline).Armed := by
  intro other job pending
  rw [getElem?_pending_register] at pending
  split at pending
  · rename_i same
    cases pending
    rw [same]
    exact List.mem_cons_self
  · apply List.mem_cons_of_mem
    exact armed other job pending

theorem pending_of_without {reference other : UInt16}
    {job : PendingJob Ticket}
    (pending : (table.without reference).pending[other]? = some job) :
    table.pending[other]? = some job := by
  unfold without at pending
  split at pending
  · rw [getElem?_pending_remove] at pending
    split at pending
    · cases pending
    · exact pending
  · exact pending

theorem Armed.without (armed : table.Armed) (reference : UInt16) :
    (table.without reference).Armed := by
  apply armed.of_pending
  · intro other job
    exact pending_of_without
  · unfold JobTable.without
    split <;> rfl

/-- The deadlines that are forgotten when time passes are none of a job that
stays. -/
theorem Armed.expire (armed : table.Armed) (now : Nat) :
    (table.expire now).1.Armed := by
  intro reference job pending
  rw [armed.pending_expire, Option.filter_eq_some_iff] at pending
  rw [deadlines_expire, List.mem_filter]
  exact ⟨armed reference job pending.1, pending.2⟩

theorem armed_clear (table : JobTable Ticket) : table.clear.Armed := by
  intro reference job pending
  simp [clear] at pending

end JobTable

namespace TableRun

variable {grace : Nat} {run : TableRun} {steps : List TableStep}
  {next : TableStep}

/-! ## What one step does to the table -/

/-- What a step can make of the table of a run. -/
inductive TableChange (run : TableRun) : TableStep -> JobTable Nat -> Prop
  | entered (now deadline : Nat) (reference : UInt16)
      (handedOut : (run.table.allocate now).1 = some reference) :
      TableChange run (.enter now deadline)
        ((run.table.allocate now).2.register reference
          run.references.length deadline)
  | allocated (now : Nat) (next : TableStep) :
      TableChange run next (run.table.allocate now).2
  | without (reference : UInt16) (next : TableStep) :
      TableChange run next (run.table.without reference)
  | expired (now : Nat) :
      TableChange run (.timeOut now) (run.table.expire now).1
  | cleared : TableChange run .drain run.table.clear

theorem tableChange_step (run : TableRun) (next : TableStep) :
    TableChange run next (run.step next).table := by
  cases next with
  | enter now deadline =>
      rw [step]
      split
      · rename_i reference table handedOut
        have entered := TableChange.entered now deadline reference
          (congrArg Prod.fst handedOut)
        rwa [handedOut] at entered
      · rename_i table handedOut
        have allocated : TableChange run (.enter now deadline) _ :=
          .allocated now _
        rwa [handedOut] at allocated
  | forgo now => exact .allocated now _
  | resolve reply =>
      rw [table_step_resolve]
      exact .without reply.reference _
  | fail reference error =>
      rw [table_step_fail]
      exact .without reference _
  | timeOut now => exact .expired now
  | drain => exact .cleared

theorem armed_step (armed : run.table.Armed) (next : TableStep) :
    (run.step next).table.Armed := by
  have change := tableChange_step run next
  generalize (run.step next).table = table at change ⊢
  cases change with
  | entered now deadline reference _ =>
      exact (armed.allocate now).register reference _ deadline
  | allocated now _ => exact armed.allocate now
  | without reference _ => exact armed.without reference
  | expired now => exact armed.expire now
  | cleared => exact JobTable.armed_clear run.table

theorem armed_play (grace : Nat) (steps : List TableStep) :
    (play grace steps).table.Armed := by
  induction steps using List.reverseRecOn with
  | nil => exact JobTable.armed_empty grace
  | append_singleton steps next inductionHypothesis =>
      rw [play_append_singleton]
      exact armed_step inductionHypothesis next

/-! ## The deadlines of jobs -/

/-- In a run, a job was registered under a reference and with a deadline. -/
def Registered (grace : Nat) (steps : List TableStep) (job : Nat)
    (reference : UInt16) (deadline : Nat) : Prop :=
  ∃ before now after,
    steps = before ++ .enter now deadline :: after
      ∧ ((play grace before).table.allocate now).1 = some reference
      ∧ (play grace before).references.length = job

theorem Registered.append_singleton {job deadline : Nat} {reference : UInt16}
    (registered : Registered grace steps job reference deadline)
    (next : TableStep) :
    Registered grace (steps ++ [next]) job reference deadline := by
  obtain ⟨before, now, after, rfl, handedOut, isJob⟩ := registered
  refine ⟨before, now, after ++ [next], ?_, handedOut, isJob⟩
  rw [List.append_assoc]
  rfl

/-- A step leaves a job as it is, strikes it out or registers it. -/
theorem pending_of_step {reference : UInt16} {job : PendingJob Nat}
    (pending : (run.step next).table.pending[reference]? = some job) :
    run.table.pending[reference]? = some job
      ∨ ∃ now, next = .enter now job.deadline
        ∧ (run.table.allocate now).1 = some reference
        ∧ run.references.length = job.ticket := by
  have change := tableChange_step run next
  generalize (run.step next).table = table at change pending
  cases change with
  | entered now deadline other handedOut =>
      rw [JobTable.getElem?_pending_register] at pending
      split at pending
      · rename_i same
        cases pending
        right
        exact ⟨now, rfl, same ▸ handedOut, rfl⟩
      · left
        rwa [JobTable.pending_allocate] at pending
  | allocated now _ =>
      left
      rwa [JobTable.pending_allocate] at pending
  | without other _ =>
      left
      exact JobTable.pending_of_without pending
  | expired now =>
      left
      rw [(JobTable.strikes_expire run.table now).pending_eq] at pending
      split at pending
      · cases pending
      · exact pending
  | cleared => simp [JobTable.clear] at pending

/-- A pending job has the reference and the deadline that it was registered
with. -/
theorem registered_of_pending {reference : UInt16} {job : PendingJob Nat}
    (pending : (play grace steps).table.pending[reference]? = some job) :
    Registered grace steps job.ticket reference job.deadline := by
  induction steps using List.reverseRecOn with
  | nil => simp [start, JobTable.empty] at pending
  | append_singleton steps next inductionHypothesis =>
      rw [play_append_singleton] at pending
      obtain earlier | ⟨now, rfl, handedOut, isJob⟩ := pending_of_step pending
      · exact (inductionHypothesis earlier).append_singleton next
      · exact ⟨steps, now, [], rfl, handedOut, isJob⟩

/-! ## Punctual tables -/

/-- How a table keeps to the deadlines of its jobs after the steps of a run. -/
structure Punctual (grace : Nat) (steps : List TableStep) : Prop where
  /-- A pending job has the deadline it was registered with, whichever jobs had
  its reference before. -/
  own : ∀ (reference : UInt16) (job : PendingJob Nat),
    (play grace steps).table.pending[reference]? = some job ->
      Registered grace steps job.ticket reference job.deadline
  /-- As long as a job is pending, there is a next deadline, and no pending job
  has an earlier one. -/
  next : ∀ (reference : UInt16) (job : PendingJob Nat),
    (play grace steps).table.pending[reference]? = some job ->
      ∃ next, (play grace steps).table.nextDeadline? = some next
        ∧ ∀ (other : UInt16) (otherJob : PendingJob Nat),
          (play grace steps).table.pending[other]? = some otherJob ->
            next ≤ otherJob.deadline
  /-- Just the jobs whose deadlines came time out. -/
  timesOut : ∀ (now : Nat) (reference : UInt16) (outcome : Outcome Nat),
    (reference, outcome) ∈ ((play grace steps).table.timeOut now).2
      ↔ ∃ job,
        (play grace steps).table.pending[reference]? = some job
          ∧ job.deadline ≤ now
          ∧ outcome = { ticket := job.ticket, result := .error .requestTimeout }
  /-- No reference is reported twice. -/
  once : ∀ now,
    (((play grace steps).table.timeOut now).2.map Prod.fst).Nodup
  /-- All other jobs stay as they are. -/
  stays : ∀ (now : Nat) (reference : UInt16),
    ((play grace steps).table.timeOut now).1.pending[reference]?
      = (play grace steps).table.pending[reference]?.filter
        fun job => now < job.deadline
  /-- What is next afterwards is still to come. -/
  later : ∀ now next,
    ((play grace steps).table.timeOut now).1.nextDeadline? = some next ->
      now < next

end TableRun
end PlcLink
