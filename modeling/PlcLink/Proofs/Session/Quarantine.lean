import PlcLink.Proofs.Session.JobRun
import PlcLink.Proofs.Session.References

/-!
# References in quarantine

As long as time does not run backwards, the quarantine of a job table is the
record of its timeouts: a reference is held for the grace after its job ran out
of time, whatever else happens in the meantime, and no longer.
-/

namespace PlcLink
namespace JobTable

variable {Ticket : Type}

/-! ## What the operations do to the quarantine -/

@[simp] theorem grace_expireEach (now : Nat) (references : List UInt16)
    (table : JobTable Ticket) :
    (expireEach now references table).1.grace = table.grace := by
  induction references generalizing table with
  | nil => rfl
  | cons reference references inductionHypothesis =>
      simp only [expireEach]
      split
      · split
        · exact inductionHypothesis _
        · exact inductionHypothesis _
      · exact inductionHypothesis _

/-- Every reference that is struck out is put into quarantine. -/
theorem quarantine_expireEach (now : Nat) (references : List UInt16)
    (table : JobTable Ticket) (other : UInt16) :
    (expireEach now references table).1.quarantine[other]?
      = if other ∈ (expireEach now references table).2.map Prod.fst then
          some (now + table.grace)
        else table.quarantine[other]? := by
  induction references generalizing table with
  | nil => rfl
  | cons reference references inductionHypothesis =>
      simp only [expireEach]
      split
      · split
        · rw [inductionHypothesis, List.map_cons]
          by_cases same : other = reference
          · subst same
            rw [if_pos List.mem_cons_self, Std.TreeMap.getElem?_insert_self]
            exact ite_self _
          · have different : reference ≠ other := Ne.symm same
            simp only [List.mem_cons, same, false_or]
            congr 1
            simp [different, Std.TreeMap.getElem?_insert]
        · exact inductionHypothesis table
      · exact inductionHypothesis table

/-- Forgetting the quarantines that are over does not touch those that go on. -/
theorem quarantined_release {table : JobTable Ticket} {time now : Nat}
    (notLater : time ≤ now) {reference : UInt16} :
    (table.release time).Quarantined now reference
      ↔ table.Quarantined now reference := by
  rw [Quarantined, Quarantined, getElem?_quarantine_release]
  constructor
  · rintro ⟨release, found, held⟩
    exact ⟨release, (Option.filter_eq_some_iff.1 found).1, held⟩
  · rintro ⟨release, found, held⟩
    exact ⟨release, Option.filter_eq_some_iff.2
      ⟨found, decide_eq_true (notLater.trans_lt held)⟩, held⟩

/-- The references whose jobs run out of time. -/
def expiring (table : JobTable Ticket) (now : Nat) : List UInt16 :=
  (table.expire now).2.map Prod.fst

/-- Of the quarantines that go on after jobs ran out of time, some begin with
it. -/
theorem quarantined_expire {table : JobTable Ticket} {time now : Nat}
    {reference : UInt16} :
    (table.expire time).1.Quarantined now reference
      ↔ if reference ∈ table.expiring time then
          now < time + table.grace
        else table.Quarantined now reference := by
  have struck := quarantine_expireEach time (table.due time)
    { table with
      deadlines := table.deadlines.filter fun entry => time < entry.1 }
    reference
  change (table.expire time).1.quarantine[reference]?
    = if reference ∈ table.expiring time then
        some (time + table.grace)
      else table.quarantine[reference]? at struck
  rw [Quarantined, struck]
  split <;> simp [Quarantined]

/-- Two tables hold the same references in quarantine, and will hold others
equally long. -/
def SameQuarantine (before after : JobTable Ticket) : Prop :=
  after.quarantine = before.quarantine ∧ after.grace = before.grace

theorem SameQuarantine.quarantined_iff {before after : JobTable Ticket}
    (same : SameQuarantine before after) {now : Nat} {reference : UInt16} :
    after.Quarantined now reference ↔ before.Quarantined now reference := by
  rw [Quarantined, Quarantined, same.1]

theorem sameQuarantine_allocate (table : JobTable Ticket) (now : Nat) :
    SameQuarantine (table.release now) (table.allocate now).2 := by
  rw [snd_allocate]
  exact ⟨rfl, rfl⟩

/-- The table without the job under a reference, if there is one. -/
def without (table : JobTable Ticket) (reference : UInt16) : JobTable Ticket :=
  if (table.find? reference).isSome then table.remove reference else table

theorem fst_resolve (table : JobTable Ticket) (reply : Pdu) :
    (table.resolve reply).1 = table.without reply.reference := by
  cases found : table.find? reply.reference with
  | none =>
      rw [resolve_of_find?_eq_none found, without, found]
      rfl
  | some ticket =>
      rw [resolve_of_find?_eq_some found, without, found]
      rfl

theorem fst_fail (table : JobTable Ticket) (reference : UInt16)
    (error : Error) :
    (table.fail reference error).1 = table.without reference := by
  cases found : table.find? reference with
  | none =>
      rw [fail_of_find?_eq_none error found, without, found]
      rfl
  | some ticket =>
      rw [fail_of_find?_eq_some error found, without, found]
      rfl

theorem sameQuarantine_without (table : JobTable Ticket)
    (reference : UInt16) : SameQuarantine table (table.without reference) := by
  unfold without
  split
  · exact ⟨rfl, rfl⟩
  · exact ⟨rfl, rfl⟩

theorem Strikes.find?_eq_none {before after : JobTable Ticket}
    {ended : List (UInt16 × Ticket)} (strikes : Strikes before after ended)
    {reference : UInt16} (absent : before.find? reference = none) :
    after.find? reference = none := by
  rw [strikes.find?_eq, absent, ite_self]

theorem find?_without_eq_none {table : JobTable Ticket}
    {reference : UInt16} (absent : table.find? reference = none)
    (other : UInt16) : (table.without other).find? reference = none := by
  unfold without
  split
  · rename_i isSome
    obtain ⟨ticket, found⟩ := Option.isSome_iff_exists.1 isSome
    exact (strikes_remove found).find?_eq_none absent
  · exact absent

end JobTable

/-! ## Times -/

/-- The time at which a step is taken, if it looks at the clock. -/
def TableStep.time? : TableStep -> Option Nat
  | enter now _ | forgo now | timeOut now => some now
  | resolve _ | fail _ _ | drain => none

namespace TableRun

/-- Time does not run backwards from step to step, nor from the last one to the
given time. -/
def Clocked (steps : List TableStep) (now : Nat) : Prop :=
  (steps.filterMap TableStep.time? ++ [now]).Pairwise (· ≤ ·)

section

variable {steps : List TableStep} {next : TableStep} {time now : Nat}

theorem Clocked.init (clocked : Clocked (steps ++ [next]) now) :
    Clocked steps now := by
  apply List.Pairwise.sublist _ clocked
  rw [List.filterMap_append]
  apply List.Sublist.append_right
  exact List.sublist_append_left _ _

theorem Clocked.last (clocked : Clocked (steps ++ [next]) now)
    (isTime : next.time? = some time) : Clocked steps time ∧ time ≤ now := by
  have times : (steps ++ [next]).filterMap TableStep.time?
      = steps.filterMap TableStep.time? ++ [time] := by
    rw [List.filterMap_append, List.filterMap_cons_some isTime,
      List.filterMap_nil]
  rw [Clocked, times, List.pairwise_append] at clocked
  obtain ⟨earlier, -, notLater⟩ := clocked
  exact ⟨earlier, notLater time (by simp) now (by simp)⟩

end

/-! ## Timeouts -/

variable {grace : Nat} {run : TableRun} {steps : List TableStep}
  {next : TableStep} {reference : UInt16} {time now : Nat}

/-- A step hands out a reference. -/
def HandsOut (run : TableRun) (reference : UInt16) : TableStep -> Prop
  | .enter now _ | .forgo now => (run.table.allocate now).1 = some reference
  | .resolve _ | .fail _ _ | .timeOut _ | .drain => False

/-- In a run, the job under a reference ran out of time at the given time. -/
inductive TimedOut (grace : Nat) (reference : UInt16) (time : Nat) :
    List TableStep -> Prop
  | last {steps : List TableStep}
      (expires : reference ∈ (play grace steps).table.expiring time) :
      TimedOut grace reference time (steps ++ [.timeOut time])
  | earlier {steps : List TableStep}
      (timedOut : TimedOut grace reference time steps) (next : TableStep) :
      TimedOut grace reference time (steps ++ [next])

/-- The job under a reference ran out of time, and the reference was not handed
out since. -/
inductive Rests (grace : Nat) (reference : UInt16) (time : Nat) :
    List TableStep -> Prop
  | begin {steps : List TableStep}
      (expires : reference ∈ (play grace steps).table.expiring time) :
      Rests grace reference time (steps ++ [.timeOut time])
  | goOn {steps : List TableStep} {next : TableStep}
      (rests : Rests grace reference time steps)
      (notHandedOut : ¬(play grace steps).HandsOut reference next) :
      Rests grace reference time (steps ++ [next])

theorem not_timedOut_nil : ¬TimedOut grace reference time [] := by
  intro timedOut
  generalize isNil : [] = whole at timedOut
  cases timedOut <;> simp at isNil

theorem timedOut_append_singleton :
    TimedOut grace reference time (steps ++ [next])
      ↔ TimedOut grace reference time steps
        ∨ next = .timeOut time
          ∧ reference ∈ (play grace steps).table.expiring time := by
  constructor
  · intro timedOut
    generalize isWhole : steps ++ [next] = whole at timedOut
    cases timedOut with
    | last expires =>
        obtain ⟨rfl, same⟩ := List.append_inj' isWhole rfl
        exact .inr ⟨List.singleton_inj.1 same, expires⟩
    | earlier timedOut =>
        obtain ⟨rfl, -⟩ := List.append_inj' isWhole rfl
        exact .inl timedOut
  · rintro (timedOut | ⟨rfl, expires⟩)
    · exact timedOut.earlier next
    · exact .last expires

theorem timedOut_append_of_ne (noTimeOut : ∀ other, next ≠ .timeOut other) :
    TimedOut grace reference time (steps ++ [next])
      ↔ TimedOut grace reference time steps := by
  rw [timedOut_append_singleton, or_iff_left]
  exact fun last => noTimeOut time last.1

theorem TimedOut.time_le (timedOut : TimedOut grace reference time steps)
    (clocked : Clocked steps now) : time ≤ now := by
  induction timedOut with
  | last => exact (clocked.last rfl).2
  | earlier _ _ inductionHypothesis => exact inductionHypothesis clocked.init

/-- No job ran out of time later than one that just did. -/
theorem TimedOut.le_last {other : Nat}
    (timedOut : TimedOut grace reference other (steps ++ [.timeOut time]))
    (clocked : Clocked steps time) : other ≤ time := by
  obtain earlier | ⟨same, -⟩ := timedOut_append_singleton.1 timedOut
  · exact earlier.time_le clocked
  · cases same
    exact Nat.le_refl _

/-! ## What one step does -/

theorem table_step_resolve (run : TableRun) (reply : Pdu) :
    (run.step (.resolve reply)).table
      = run.table.without reply.reference := by
  rw [← JobTable.fst_resolve, step]
  split <;> rename_i resolved <;> exact (congrArg Prod.fst resolved).symm

theorem table_step_fail (run : TableRun) (reference : UInt16)
    (error : Error) :
    (run.step (.fail reference error)).table
      = run.table.without reference :=
  run.table.fst_fail reference error

/-- What a step can do to the quarantine: jobs run out of time, quarantines that
are over are forgotten, or nothing happens to it. -/
inductive QuarantineChange (run : TableRun) (next : TableStep) : Prop
  | expired (time : Nat) (isTimeOut : next = .timeOut time)
      (same : (run.table.expire time).1.SameQuarantine (run.step next).table)
  | released (time : Nat) (isTime : next.time? = some time)
      (noTimeOut : ∀ other, next ≠ .timeOut other)
      (same : (run.table.release time).SameQuarantine (run.step next).table)
  | untouched (noTimeOut : ∀ other, next ≠ .timeOut other)
      (same : run.table.SameQuarantine (run.step next).table)

theorem quarantineChange_step (run : TableRun) (next : TableStep) :
    QuarantineChange run next := by
  cases next with
  | enter time deadline =>
      refine .released time rfl (by simp) ?_
      have allocated := run.table.sameQuarantine_allocate time
      rw [step]
      split <;> rename_i found <;> rw [found] at allocated <;> exact allocated
  | forgo time =>
      exact .released time rfl (by simp)
        (run.table.sameQuarantine_allocate time)
  | resolve reply =>
      refine .untouched (by simp) ?_
      rw [table_step_resolve]
      apply JobTable.sameQuarantine_without
  | fail reference error =>
      refine .untouched (by simp) ?_
      rw [table_step_fail]
      apply JobTable.sameQuarantine_without
  | timeOut time => exact .expired time rfl ⟨rfl, rfl⟩
  | drain => exact .untouched (by simp) ⟨rfl, rfl⟩

@[simp] theorem grace_step (run : TableRun) (next : TableStep) :
    (run.step next).table.grace = run.table.grace := by
  cases quarantineChange_step run next with
  | expired time _ same =>
      exact same.2.trans (JobTable.grace_expireEach time _ _)
  | released _ _ _ same => exact same.2
  | untouched _ same => exact same.2

/-- A reference that no job has gets none unless it is handed out. -/
theorem find?_step_eq_none (absent : run.table.find? reference = none)
    (notHandedOut : ¬run.HandsOut reference next) :
    (run.step next).table.find? reference = none := by
  cases next with
  | enter time deadline =>
      have unchanged := run.table.find?_allocate time reference
      rw [step]
      split <;> rename_i found
      · rw [found, absent] at unchanged
        rw [JobTable.find?_register, if_neg, unchanged]
        rintro rfl
        exact notHandedOut (congrArg Prod.fst found)
      · rw [found, absent] at unchanged
        exact unchanged
  | forgo time => exact (run.table.find?_allocate time reference).trans absent
  | resolve reply =>
      rw [table_step_resolve]
      exact JobTable.find?_without_eq_none absent _
  | fail other error =>
      rw [table_step_fail]
      exact JobTable.find?_without_eq_none absent _
  | timeOut time =>
      exact (JobTable.strikes_expire run.table time).find?_eq_none absent
  | drain => exact (JobTable.strikes_clear run.table).find?_eq_none absent

theorem exists_job_of_expiring
    (expires : reference ∈ run.table.expiring time) :
    ∃ job, run.table.find? reference = some job := by
  obtain ⟨⟨_, job⟩, struck, rfl⟩ := List.mem_map.1 expires
  exact ⟨job, (JobTable.strikes_expire run.table time).found _ struck⟩

/-! ## What all runs keep -/

@[simp] theorem grace_play (grace : Nat) (steps : List TableStep) :
    (play grace steps).table.grace = grace := by
  induction steps using List.reverseRecOn with
  | nil => rfl
  | append_singleton steps next inductionHypothesis =>
      rw [play_append_singleton, grace_step, inductionHypothesis]

/-- The quarantine is the record of the timeouts within the grace. -/
theorem quarantined_play_iff (clocked : Clocked steps now) :
    (play grace steps).table.Quarantined now reference
      ↔ ∃ time, TimedOut grace reference time steps ∧ now < time + grace := by
  induction steps using List.reverseRecOn with
  | nil => simp [start, JobTable.empty, JobTable.Quarantined, not_timedOut_nil]
  | append_singleton steps next inductionHypothesis =>
      specialize inductionHypothesis clocked.init
      rw [play_append_singleton]
      cases quarantineChange_step (play grace steps) next with
      | expired time isTimeOut same =>
          subst isTimeOut
          rw [same.quarantined_iff, JobTable.quarantined_expire, grace_play]
          by_cases expires : reference ∈ (play grace steps).table.expiring time
          · rw [if_pos expires]
            constructor
            · exact fun held => ⟨time, .last expires, held⟩
            · rintro ⟨other, timedOut, held⟩
              have notLater := timedOut.le_last (clocked.last rfl).1
              omega
          · rw [if_neg expires, inductionHypothesis]
            apply exists_congr
            intro other
            rw [timedOut_append_singleton, or_iff_left]
            rintro ⟨same, expiresNow⟩
            cases same
            exact expires expiresNow
      | released time isTime noTimeOut same =>
          rw [same.quarantined_iff,
            JobTable.quarantined_release (clocked.last isTime).2]
          simp only [inductionHypothesis, timedOut_append_of_ne noTimeOut]
      | untouched noTimeOut same =>
          rw [same.quarantined_iff]
          simp only [inductionHypothesis, timedOut_append_of_ne noTimeOut]

/-- No job has a reference that rests. -/
theorem Rests.absent (rests : Rests grace reference time steps) :
    (play grace steps).table.find? reference = none := by
  induction rests with
  | @begin steps expires =>
      rw [play_append_singleton]
      have strikes := JobTable.strikes_expire (play grace steps).table time
      exact (strikes.find?_eq reference).trans (if_pos expires)
  | goOn _ notHandedOut inductionHypothesis =>
      rw [play_append_singleton]
      exact find?_step_eq_none inductionHypothesis notHandedOut

theorem Rests.timedOut (rests : Rests grace reference time steps) :
    TimedOut grace reference time steps := by
  induction rests with
  | begin expires => exact .last expires
  | goOn _ _ inductionHypothesis => exact inductionHypothesis.earlier _

/-- The timeout after which a reference rests is its latest. -/
theorem Rests.latest (rests : Rests grace reference time steps)
    (clocked : Clocked steps now) {other : Nat}
    (timedOut : TimedOut grace reference other steps) : other ≤ time := by
  induction rests with
  | begin => exact timedOut.le_last (clocked.last rfl).1
  | goOn rests _ inductionHypothesis =>
      obtain timedOut | ⟨-, expires⟩ := timedOut_append_singleton.1 timedOut
      · exact inductionHypothesis clocked.init timedOut
      · obtain ⟨job, found⟩ := exists_job_of_expiring expires
        rw [rests.absent] at found
        cases found

/-- How references are handed out after the steps of a run, and how those are
treated whose jobs ran out of time. -/
structure Quarantining (grace : Nat) (steps : List TableStep) (now : Nat) :
    Prop where
  handsOut : ∀ reference,
    ((play grace steps).table.allocate now).1 = some reference
      ↔ (play grace steps).table.NextAvailable now reference
  handsOutNone :
    ((play grace steps).table.allocate now).1 = none
      ↔ ∀ reference ≠ 0, ¬(play grace steps).table.Available now reference
  /-- A reference is in quarantine for the grace after a timeout. -/
  quarantined_iff : ∀ reference,
    (play grace steps).table.Quarantined now reference
      ↔ ∃ time, TimedOut grace reference time steps ∧ now < time + grace
  /-- As long as it is, it is not handed out. -/
  withheld : ∀ reference time, TimedOut grace reference time steps ->
    now < time + grace ->
    ((play grace steps).table.allocate now).1 ≠ some reference
  /-- Until it is handed out again, replies under it are misses. -/
  missed : ∀ time (reply : Pdu), Rests grace reply.reference time steps ->
    (play grace steps).table.resolve reply
      = ((play grace steps).table, .miss reply.reference)
  /-- After the grace it is available. -/
  available : ∀ reference time, Rests grace reference time steps ->
    time + grace ≤ now -> (play grace steps).table.Available now reference

/-- As long as time does not run backwards, the next available reference is
handed out, and one whose job ran out of time is withheld for the grace and no
longer. -/
theorem quarantining (clocked : Clocked steps now) :
    Quarantining grace steps now where
  handsOut := fun _ => JobTable.allocate_eq_some_iff
  handsOutNone := JobTable.allocate_eq_none_iff
  quarantined_iff := fun _ => quarantined_play_iff clocked
  withheld := by
    intro reference time timedOut within handedOut
    obtain ⟨_, _, _, ⟨-, notHeld⟩, -⟩ :=
      JobTable.allocate_eq_some_iff.1 handedOut
    exact notHeld ((quarantined_play_iff clocked).2 ⟨time, timedOut, within⟩)
  missed := fun _ _ rests => JobTable.resolve_of_find?_eq_none rests.absent
  available := by
    intro reference time rests passed
    refine ⟨rests.absent, ?_⟩
    intro held
    obtain ⟨other, timedOut, within⟩ := (quarantined_play_iff clocked).1 held
    have notLater := rests.latest clocked timedOut
    omega

/-- A job that runs out of time at five, and one that cannot be written. -/
def lateSteps : List TableStep :=
  [.enter 0 5, .timeOut 5, .forgo 7]

/-- The reply that comes too late. -/
def lateReply : Pdu :=
  { header := .ofLengths .ackData 1 0 0, parameter := [], data := [] }

theorem quarantining_lateSteps :
    (((play 10 lateSteps).table.allocate 14).1 ≠ some 1
      ∧ (play 10 lateSteps).table.resolve lateReply
        = ((play 10 lateSteps).table, .miss 1))
    ∧ (play 10 lateSteps).table.Available 15 1 := by
  have begun : Rests 10 1 5 ([TableStep.enter 0 5] ++ [.timeOut 5]) :=
    .begin (by decide +kernel)
  have rests : Rests 10 1 5 lateSteps := by
    refine Rests.goOn begun ?_
    unfold HandsOut
    decide +kernel
  have early : Quarantining 10 lateSteps 14 :=
    quarantining (by unfold Clocked; decide)
  have late : Quarantining 10 lateSteps 15 :=
    quarantining (by unfold Clocked; decide)
  exact ⟨⟨early.withheld 1 5 rests.timedOut (by decide),
    early.missed 5 lateReply rests⟩, late.available 1 5 rests (by decide)⟩

end TableRun
end PlcLink
