import PlcLink.Proofs.Session.JobTable

/-!
# Runs of the job table

A run begins with the table without jobs. Jobs are numbered in the order in
which they are registered, and a run records the reference of each and how it
ended. However the steps are ordered, every job is accounted for: it is pending
under its own reference or has ended once.
-/

namespace PlcLink

/-- What a session does with its job table. -/
inductive TableStep
  /-- Hand out a reference and register a job under it. -/
  | enter (now deadline : Nat)
  /-- Hand out a reference to a job that then cannot be written. -/
  | forgo (now : Nat)
  | resolve (reply : Pdu)
  | fail (reference : UInt16) (error : Error)
  | timeOut (now : Nat)
  | drain

/-- A job table under way. The ticket of a job is its number. -/
structure TableRun where
  table : JobTable Nat
  /-- The reference of each job registered so far. -/
  references : List UInt16
  /-- How jobs ended, the oldest ending first. -/
  endings : List (Outcome Nat)

namespace TableRun

/-- Nothing happened yet. -/
def start (grace : Nat) : TableRun :=
  { table := .empty grace, references := [], endings := [] }

/-- Put a table and the endings that led to it in place of the table. -/
def settle (run : TableRun) (table : JobTable Nat)
    (endings : List (Outcome Nat)) : TableRun :=
  { run with table, endings := run.endings ++ endings }

/-- Take a step. A job that is given no reference is not registered. -/
def step (run : TableRun) : TableStep -> TableRun
  | .enter now deadline =>
      match run.table.allocate now with
      | (some reference, table) =>
          { run with
            table :=
              table.register reference run.references.length deadline
            references := run.references ++ [reference] }
      | (none, table) => run.settle table []
  | .forgo now => run.settle (run.table.allocate now).2 []
  | .resolve reply =>
      match run.table.resolve reply with
      | (table, .delivered outcome) => run.settle table [outcome]
      | (table, .miss _) => run.settle table []
  | .fail reference error =>
      let (table, failed) := run.table.fail reference error
      run.settle table failed
  | .timeOut now =>
      let (table, expired) := run.table.timeOut now
      run.settle table (expired.map Prod.snd)
  | .drain =>
      let (table, drained) := run.table.drain
      run.settle table drained

/-- Take steps one after the other, beginning without jobs. -/
def play (grace : Nat) (steps : List TableStep) : TableRun :=
  steps.foldl step (start grace)

@[simp] theorem play_nil (grace : Nat) : play grace [] = start grace := rfl

@[simp] theorem play_append_singleton
    (grace : Nat) (steps : List TableStep) (next : TableStep) :
    play grace (steps ++ [next]) = (play grace steps).step next := by
  simp [play]

/-- The endings of one job. -/
def endingsOf (run : TableRun) (job : Nat) : List (Outcome Nat) :=
  run.endings.filter fun outcome => outcome.ticket == job

/-- A job is pending under exactly one reference and has not ended, or it is
pending under none and has ended exactly once. -/
def AccountsFor (run : TableRun) (job : Nat) : Prop :=
  (∃! reference, run.table.find? reference = some job)
      ∧ run.endingsOf job = []
    ∨ (∀ reference, run.table.find? reference ≠ some job)
      ∧ ∃ outcome, run.endingsOf job = [outcome]

/-! ## What one step does -/

/-- What a step can do to a run: it registers one more job under a free
reference, or it strikes jobs out and reports how they ended. -/
inductive Change (run : TableRun) : TableRun -> Prop
  | entered
      (table : JobTable Nat)
      (reference : UInt16)
      (deadline : Nat)
      (samePending : table.pending = run.table.pending)
      (nonzero : reference ≠ 0)
      (free : table.find? reference = none) :
      Change run
        { run with
          table := table.register reference run.references.length deadline
          references := run.references ++ [reference] }
  | struck
      (table : JobTable Nat)
      (ended : List (UInt16 × Nat))
      (endings : List (Outcome Nat))
      (strikes : run.table.Strikes table ended)
      (reported : endings.map Outcome.ticket = ended.map Prod.snd) :
      Change run (run.settle table endings)

theorem change_settle_allocate (run : TableRun) (now : Nat) :
    Change run (run.settle (run.table.allocate now).2 []) :=
  .struck _ [] [] (.nil (by simp)) rfl

theorem change_step (run : TableRun) (next : TableStep) :
    Change run (run.step next) := by
  cases next with
  | enter now deadline =>
      rcases allocated : run.table.allocate now with ⟨_ | reference, table⟩
      · have unchanged := change_settle_allocate run now
        simpa [step, allocated] using unchanged
      · have samePending := JobTable.pending_allocate run.table now
        obtain ⟨nonzero, free⟩ :=
          JobTable.allocate_some (congrArg Prod.fst allocated)
        rw [allocated] at samePending
        rw [← JobTable.find?_allocate run.table now, allocated] at free
        simp only [step, allocated]
        exact .entered table reference deadline samePending nonzero free
  | forgo now => exact change_settle_allocate run now
  | resolve reply =>
      cases found : run.table.find? reply.reference with
      | none =>
          rw [step, JobTable.resolve_of_find?_eq_none found]
          exact .struck _ [] [] (.nil fun _ => rfl) rfl
      | some job =>
          rw [step, JobTable.resolve_of_find?_eq_some found]
          exact .struck _ _ _ (JobTable.strikes_remove found) rfl
  | fail reference error =>
      cases found : run.table.find? reference with
      | none =>
          rw [step, JobTable.fail_of_find?_eq_none error found]
          exact .struck _ [] [] (.nil fun _ => rfl) rfl
      | some job =>
          rw [step, JobTable.fail_of_find?_eq_some error found]
          exact .struck _ _ _ (JobTable.strikes_remove found) rfl
  | timeOut now =>
      exact .struck _ _ _ (JobTable.strikes_expire run.table now)
        (JobTable.map_ticket_timeOut run.table now)
  | drain =>
      exact .struck _ _ _ (JobTable.strikes_clear run.table)
        (JobTable.map_ticket_drain run.table)

/-- A step never takes back that a job was registered under a reference. -/
theorem Change.references_grow {run next : TableRun}
    (change : Change run next) : run.references <+: next.references := by
  cases change with
  | entered => exact List.prefix_append _ _
  | struck => exact List.prefix_rfl

/-! ## What all runs keep -/

/-- What holds after every step. -/
structure Consistent (run : TableRun) : Prop where
  /-- A pending job is found under the reference it was registered under. -/
  registered : ∀ reference job, run.table.find? reference = some job ->
    run.references[job]? = some reference
  nonzero : ∀ reference ∈ run.references, reference ≠ 0
  /-- The pending jobs and the ended ones are the jobs there ever were. -/
  conserved : (List.range run.references.length).Perm
    (run.table.tickets ++ run.endings.map Outcome.ticket)

theorem consistent_start (grace : Nat) : (start grace).Consistent where
  registered := by simp [start]
  nonzero := by simp [start]
  conserved := by simp [start]

theorem Change.consistent {run next : TableRun}
    (change : Change run next) (consistent : run.Consistent) :
    next.Consistent := by
  obtain ⟨registered, nonzero, conserved⟩ := consistent
  cases change with
  | entered table reference deadline samePending notZero free =>
      refine ⟨?_, ?_, ?_⟩
      · intro other job found
        rw [JobTable.find?_register] at found
        split at found
        · rename_i same
          simp only [Option.some.injEq] at found
          simp [same, ← found]
        · rw [JobTable.find?, samePending, ← JobTable.find?] at found
          have earlier := registered other job found
          have inRange := (List.getElem?_eq_some_iff.1 earlier).1
          rwa [List.getElem?_append_left inRange]
      · intro other member
        rcases List.mem_append.1 member with earlier | last
        · exact nonzero other earlier
        · rw [List.mem_singleton] at last
          exact last ▸ notZero
      · have added := (JobTable.strikes_register table free
          run.references.length deadline).tickets_perm
        have same : table.tickets = run.table.tickets := by
          rw [JobTable.tickets, samePending, ← JobTable.tickets]
        rw [same] at added
        rw [List.length_append, List.length_singleton, List.range_succ]
        calc
          (List.range run.references.length
              ++ [run.references.length]).Perm
              (run.references.length
                :: List.range run.references.length) :=
            List.perm_append_singleton _ _
          _ |>.Perm (run.references.length
                :: (run.table.tickets
                  ++ run.endings.map Outcome.ticket)) :=
            conserved.cons _
          _ |>.Perm _ := added.symm.append_right _
  | struck table ended endings strikes reported =>
      refine ⟨?_, nonzero, ?_⟩
      · intro reference job found
        exact registered reference job (strikes.find?_some found)
      · refine conserved.trans ?_
        simp only [settle, List.map_append, reported]
        calc
          (run.table.tickets ++ run.endings.map Outcome.ticket).Perm
              ((ended.map Prod.snd ++ table.tickets)
                ++ run.endings.map Outcome.ticket) :=
            strikes.tickets_perm.append_right _
          _ |>.Perm (table.tickets
                ++ (run.endings.map Outcome.ticket
                  ++ ended.map Prod.snd)) := by
            rw [List.append_assoc]
            refine List.perm_append_comm.trans ?_
            rw [List.append_assoc]

/-- Every run is consistent. -/
theorem consistent_play (grace : Nat) (steps : List TableStep) :
    (play grace steps).Consistent := by
  induction steps using List.reverseRecOn with
  | nil => exact consistent_start grace
  | append_singleton steps next inductionHypothesis =>
      rw [play_append_singleton]
      exact (change_step _ next).consistent inductionHypothesis

/-! ## Accounting for jobs -/

variable {run : TableRun}

theorem Consistent.nodup (consistent : run.Consistent) :
    (run.table.tickets ++ run.endings.map Outcome.ticket).Nodup :=
  consistent.conserved.nodup_iff.1 List.nodup_range

/-- The reference of a pending job is the one it was registered under. -/
theorem Consistent.existsUnique_reference
    (consistent : run.Consistent) {job : Nat}
    (pending : job ∈ run.table.tickets) :
    ∃! reference, run.table.find? reference = some job := by
  obtain ⟨reference, found⟩ := JobTable.mem_tickets.1 pending
  refine ⟨reference, found, ?_⟩
  intro other alsoFound
  have first := consistent.registered reference job found
  have second := consistent.registered other job alsoFound
  rw [first] at second
  exact (Option.some.inj second).symm

theorem endingsOf_eq_nil_iff {job : Nat} :
    run.endingsOf job = [] ↔ job ∉ run.endings.map Outcome.ticket := by
  simp [endingsOf, List.filter_eq_nil_iff]

/-- Where no ticket occurs twice, a job that ended has one ending. -/
theorem exists_endingsOf_eq_singleton {job : Nat}
    (nodup : (run.endings.map Outcome.ticket).Nodup)
    (ended : job ∈ run.endings.map Outcome.ticket) :
    ∃ outcome, run.endingsOf job = [outcome] := by
  have once : ((run.endingsOf job).map Outcome.ticket).length = 1 := by
    rw [List.length_map, endingsOf, ← List.countP_eq_length_filter]
    have counted := List.count_eq_one_of_mem nodup ended
    rw [List.count, List.countP_map] at counted
    exact counted
  rw [List.length_map] at once
  exact List.length_eq_one_iff.1 once

theorem Consistent.accountsFor
    (consistent : run.Consistent) {job : Nat}
    (registered : job < run.references.length) : run.AccountsFor job := by
  obtain ⟨_, nodupEnded, disjoint⟩ :=
    List.nodup_append'.1 consistent.nodup
  have somewhere : job ∈ run.table.tickets
      ++ run.endings.map Outcome.ticket :=
    consistent.conserved.mem_iff.1 (List.mem_range.2 registered)
  rcases List.mem_append.1 somewhere with pending | ended
  · refine .inl ⟨consistent.existsUnique_reference pending, ?_⟩
    exact endingsOf_eq_nil_iff.2 (disjoint pending)
  · refine .inr ⟨?_, exists_endingsOf_eq_singleton nodupEnded ended⟩
    intro reference found
    exact disjoint (JobTable.mem_tickets.2 ⟨reference, found⟩) ended

/-! ## Replies -/

/-- A step reports only errors, unless it takes the reply to a pending job. -/
theorem mem_endings_step {next : TableStep} {outcome : Outcome Nat}
    (ended : outcome ∈ (run.step next).endings) :
    outcome ∈ run.endings
      ∨ (∃ error, outcome.result = .error error)
      ∨ ∃ reply, next = .resolve reply
        ∧ run.table.find? reply.reference = some outcome.ticket
        ∧ outcome.result = .ok reply := by
  cases next with
  | enter now deadline =>
      simp only [step] at ended
      split at ended
      · exact .inl ended
      · exact .inl (by simpa [settle] using ended)
  | forgo now => exact .inl (by simpa [step, settle] using ended)
  | resolve reply =>
      cases found : run.table.find? reply.reference with
      | none =>
          rw [step, JobTable.resolve_of_find?_eq_none found] at ended
          exact .inl (by simpa [settle] using ended)
      | some job =>
          rw [step, JobTable.resolve_of_find?_eq_some found] at ended
          rcases List.mem_append.1 ended with earlier | last
          · exact .inl earlier
          · obtain rfl := List.mem_singleton.1 last
            exact .inr (.inr ⟨reply, rfl, found, rfl⟩)
  | fail reference error =>
      rcases List.mem_append.1 ended with earlier | last
      · exact .inl earlier
      · exact .inr (.inl (JobTable.result_fail last))
  | timeOut now =>
      rcases List.mem_append.1 ended with earlier | last
      · exact .inl earlier
      · exact .inr (.inl (JobTable.result_timeOut last))
  | drain =>
      rcases List.mem_append.1 ended with earlier | last
      · exact .inl earlier
      · exact .inr (.inl (JobTable.result_drain last))

/-- A job ends with a reply only when a reply under its reference is taken
while the job is pending. -/
theorem exists_resolve_of_ok
    (grace : Nat) (steps : List TableStep) {outcome : Outcome Nat}
    {reply : Pdu}
    (ended : outcome ∈ (play grace steps).endings)
    (answered : outcome.result = .ok reply) :
    ∃ before after, steps = before ++ .resolve reply :: after
      ∧ (play grace before).table.find? reply.reference =
        some outcome.ticket := by
  induction steps using List.reverseRecOn with
  | nil => simp [start] at ended
  | append_singleton steps next inductionHypothesis =>
      rw [play_append_singleton] at ended
      rcases mem_endings_step ended with earlier | ⟨error, failed⟩ | taken
      · obtain ⟨before, after, split, found⟩ := inductionHypothesis earlier
        exact ⟨before, after ++ [next], by simp [split], found⟩
      · rw [answered] at failed
        simp at failed
      · obtain ⟨taken, rfl, found, result⟩ := taken
        rw [answered] at result
        obtain rfl := Except.ok.inj result
        exact ⟨steps, [], rfl, found⟩

/-- The record of references only grows. -/
theorem references_prefix_of_append
    (grace : Nat) (before after : List TableStep) :
    (play grace before).references <+:
      (play grace (before ++ after)).references := by
  induction after using List.reverseRecOn with
  | nil => simp
  | append_singleton after next inductionHypothesis =>
      rw [← List.append_assoc, play_append_singleton]
      exact inductionHypothesis.trans (change_step _ next).references_grow

/-! ## Jobs and their replies -/

/-- How the jobs of a run belong to references and to replies. -/
structure Correlated (grace : Nat) (steps : List TableStep) : Prop where
  /-- Every registered job is pending under one reference or ended once, and
  never both. -/
  accounted : ∀ job < (play grace steps).references.length,
    (play grace steps).AccountsFor job
  /-- A reference that is handed out is in range and no pending job has it, so
  that registering a job under it replaces none. -/
  fresh : ∀ (now : Nat) (reference : UInt16) (table : JobTable Nat),
    (play grace steps).table.allocate now = (some reference, table) ->
      table.find? reference = none
        ∧ 1 ≤ reference.toNat ∧ reference.toNat ≤ 65535
  /-- A pending job is found under the reference it was registered under, which
  is in range. -/
  pendingUnder : ∀ reference job,
    (play grace steps).table.find? reference = some job ->
      (play grace steps).references[job]? = some reference
        ∧ 1 ≤ reference.toNat ∧ reference.toNat ≤ 65535
  /-- Two pending jobs have different references. -/
  distinct : ∀ first second,
    first ∈ (play grace steps).table.tickets ->
    second ∈ (play grace steps).table.tickets ->
    (play grace steps).references[first]? =
      (play grace steps).references[second]? -> first = second
  /-- A job that ended with a reply did so when that reply was taken; the reply
  has the reference the job was registered under. -/
  answered : ∀ job reply,
    { ticket := job, result := .ok reply } ∈ (play grace steps).endings ->
      (play grace steps).references[job]? = some reply.reference
        ∧ ∃ before after, steps = before ++ .resolve reply :: after
          ∧ (play grace before).table.find? reply.reference = some job
  /-- A reply whose reference no pending job has is a miss and changes nothing
  in the table. -/
  missed : ∀ reply : Pdu,
    (play grace steps).table.find? reply.reference = none ->
      (play grace steps).table.resolve reply =
        ((play grace steps).table, .miss reply.reference)

/-- In whatever order jobs are registered and ended, each job keeps its own
reference and is answered by its own reply or not at all. -/
theorem correlated (grace : Nat) (steps : List TableStep) :
    Correlated grace steps := by
  have consistent := consistent_play grace steps
  have inRange : ∀ reference : UInt16, reference ≠ 0 ->
      1 ≤ reference.toNat ∧ reference.toNat ≤ 65535 := by
    intro reference nonzero
    have bound := reference.toNat_lt
    have positive : reference.toNat ≠ 0 := by
      intro zero
      exact nonzero (UInt16.toNat.inj zero)
    omega
  refine
    { accounted := fun job registered => consistent.accountsFor registered
      fresh := ?_
      pendingUnder := ?_
      distinct := ?_
      answered := ?_
      missed := fun reply => JobTable.resolve_of_find?_eq_none }
  · intro now reference table allocated
    obtain ⟨nonzero, free⟩ :=
      JobTable.allocate_some (congrArg Prod.fst allocated)
    rw [← JobTable.find?_allocate _ now, allocated] at free
    exact ⟨free, inRange reference nonzero⟩
  · intro reference job found
    have registered := consistent.registered reference job found
    exact ⟨registered, inRange reference
      (consistent.nonzero reference (List.mem_of_getElem? registered))⟩
  · intro first second firstPending secondPending same
    obtain ⟨reference, found⟩ := JobTable.mem_tickets.1 firstPending
    obtain ⟨other, otherFound⟩ := JobTable.mem_tickets.1 secondPending
    rw [consistent.registered _ _ found,
      consistent.registered _ _ otherFound] at same
    obtain rfl := Option.some.inj same
    rw [found] at otherFound
    exact Option.some.inj otherFound
  · intro job reply ended
    obtain ⟨before, after, split, found⟩ :=
      exists_resolve_of_ok grace steps ended rfl
    refine ⟨?_, before, after, split, found⟩
    have registered :=
      (consistent_play grace before).registered _ _ found
    have longer := references_prefix_of_append grace before
      (.resolve reply :: after)
    rw [← split] at longer
    obtain ⟨inRun, same⟩ := List.getElem?_eq_some_iff.1 registered
    rw [longer.getElem inRun] at same
    exact List.getElem?_eq_some_iff.2 ⟨_, same⟩

end TableRun
end PlcLink
