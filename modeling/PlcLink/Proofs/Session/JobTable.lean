import Mathlib
import PlcLink.Session.Outcome

/-!
# Laws of the job table

What each operation does to the jobs under their references. Handing out a
reference touches no job, registering puts one job under a free reference, and
every other operation strikes jobs out.
-/

namespace PlcLink
namespace JobTable

variable {Ticket : Type} {table : JobTable Ticket}

/-! ## Jobs under their references -/

theorem getElem?_pending_register (table : JobTable Ticket)
    (reference : UInt16) (ticket : Ticket) (deadline : Nat)
    (other : UInt16) :
    (table.register reference ticket deadline).pending[other]?
      = if other = reference then some { ticket, deadline }
        else table.pending[other]? := by
  by_cases same : other = reference
  · simp [register, same]
  · have different : reference ≠ other := Ne.symm same
    simp [register, same, different, Std.TreeMap.getElem?_insert]

theorem getElem?_pending_remove (table : JobTable Ticket)
    (reference other : UInt16) :
    (table.remove reference).pending[other]?
      = if other = reference then none else table.pending[other]? := by
  by_cases same : other = reference
  · simp [remove, same]
  · simp [remove, same, Std.TreeMap.getElem?_erase, Ne.symm same]

/-! ## Finding jobs -/

@[simp] theorem find?_empty (grace : Nat) (reference : UInt16) :
    (empty grace : JobTable Ticket).find? reference = none := by
  simp [empty, find?]

theorem find?_eq_none_iff {reference : UInt16} :
    table.find? reference = none ↔ table.pending[reference]? = none := by
  simp [find?]

theorem find?_register
    (table : JobTable Ticket)
    (reference : UInt16)
    (ticket : Ticket)
    (deadline : Nat)
    (other : UInt16) :
    (table.register reference ticket deadline).find? other =
      if other = reference then some ticket else table.find? other := by
  rw [find?, getElem?_pending_register]
  split <;> rfl

/-- The jobs of the table under their references. -/
def entries (table : JobTable Ticket) : List (UInt16 × Ticket) :=
  table.pending.toList.map fun entry => (entry.1, entry.2.ticket)

theorem mem_entries {reference : UInt16} {ticket : Ticket} :
    (reference, ticket) ∈ table.entries ↔
      table.find? reference = some ticket := by
  simp only [entries, find?, List.mem_map, Option.map_eq_some_iff]
  constructor
  · rintro ⟨⟨key, job⟩, member, equal⟩
    simp only [Prod.mk.injEq] at equal
    obtain ⟨rfl, rfl⟩ := equal
    exact ⟨job, Std.TreeMap.mem_toList_iff_getElem?_eq_some.1 member, rfl⟩
  · rintro ⟨job, found, rfl⟩
    exact ⟨(reference, job),
      Std.TreeMap.mem_toList_iff_getElem?_eq_some.2 found, rfl⟩

theorem nodup_references (table : JobTable Ticket) :
    (table.entries.map Prod.fst).Nodup := by
  have keys : table.entries.map Prod.fst = table.pending.keys := by
    rw [← Std.TreeMap.map_fst_toList_eq_keys]
    simp [entries, Function.comp_def]
  rw [keys]
  exact Std.TreeMap.nodup_keys

theorem tickets_eq_map_entries (table : JobTable Ticket) :
    table.tickets = table.entries.map Prod.snd := by
  have values : table.pending.values =
      table.pending.foldr (fun _ job jobs => job :: jobs) [] := rfl
  rw [tickets, entries, values, Std.TreeMap.foldr_eq_foldr_toList]
  simp

/-- A table holds the tickets that can be found in it. -/
theorem mem_tickets {ticket : Ticket} :
    ticket ∈ table.tickets ↔
      ∃ reference, table.find? reference = some ticket := by
  rw [tickets_eq_map_entries]
  constructor
  · intro member
    obtain ⟨⟨reference, _⟩, found, rfl⟩ := List.mem_map.1 member
    exact ⟨reference, mem_entries.1 found⟩
  · rintro ⟨reference, found⟩
    exact List.mem_map.2 ⟨_, mem_entries.2 found, rfl⟩

/-- No ticket stands under two references if all tickets differ. -/
theorem reference_unique (distinct : table.tickets.Nodup)
    {first second : UInt16} {ticket : Ticket}
    (foundFirst : table.find? first = some ticket)
    (foundSecond : table.find? second = some ticket) : first = second := by
  rw [tickets_eq_map_entries] at distinct
  have same := List.inj_on_of_nodup_map distinct (mem_entries.2 foundFirst)
    (mem_entries.2 foundSecond) rfl
  exact congrArg Prod.fst same

@[simp] theorem tickets_empty (grace : Nat) :
    (empty grace : JobTable Ticket).tickets = [] := by
  simp [List.eq_nil_iff_forall_not_mem, mem_tickets]

/-! ## Handing out references -/

theorem following_ne_zero (reference : UInt16) : following reference ≠ 0 := by
  unfold following
  split
  · decide
  · rename_i notLast
    intro zero
    apply notLast
    have bound := reference.toNat_lt
    have sum := congrArg UInt16.toNat zero
    apply UInt16.toNat.inj
    simp only [UInt16.toNat_add, UInt16.toNat_one, UInt16.toNat_zero] at sum
    change reference.toNat = 65535
    omega

theorem firstFree?_some {isFree : UInt16 -> Bool} {reference : UInt16}
    (count : Nat) (last : UInt16)
    (found : firstFree? isFree count last = some reference) :
    isFree reference = true ∧ reference ≠ 0 := by
  induction count generalizing last with
  | zero => simp [firstFree?] at found
  | succ count inductionHypothesis =>
      simp only [firstFree?] at found
      split at found
      · rename_i free
        simp only [Option.some.injEq] at found
        subst found
        exact ⟨free, following_ne_zero last⟩
      · exact inductionHypothesis _ found

/-- Handing out a reference touches no job. -/
@[simp] theorem pending_allocate (table : JobTable Ticket) (now : Nat) :
    (table.allocate now).2.pending = table.pending := by
  simp only [allocate]
  split <;> rfl

@[simp] theorem find?_allocate
    (table : JobTable Ticket) (now : Nat) (reference : UInt16) :
    (table.allocate now).2.find? reference = table.find? reference := by
  simp [find?]

/-- A reference that is handed out is not zero, and no job has it. -/
theorem allocate_some {now : Nat} {reference : UInt16}
    (allocated : (table.allocate now).1 = some reference) :
    reference ≠ 0 ∧ table.find? reference = none := by
  simp only [allocate] at allocated
  split at allocated
  · rename_i found
    simp only [Option.some.injEq] at allocated
    subst allocated
    obtain ⟨free, nonzero⟩ := firstFree?_some _ _ found
    refine ⟨nonzero, ?_⟩
    simp only [isFree, Bool.and_eq_true, Bool.not_eq_true'] at free
    exact find?_eq_none_iff.2
      (Std.TreeMap.getElem?_eq_none_of_contains_eq_false free.1)
  · simp at allocated

/-! ## Striking jobs out -/

/-- One table is another without the given jobs, each under its reference. -/
structure Strikes
    (before after : JobTable Ticket)
    (ended : List (UInt16 × Ticket)) : Prop where
  nodup : (ended.map Prod.fst).Nodup
  found : ∀ entry ∈ ended, before.find? entry.1 = some entry.2
  pending_eq : ∀ reference : UInt16,
    after.pending[reference]? =
      if reference ∈ ended.map Prod.fst then none
      else before.pending[reference]?

namespace Strikes

variable {before after : JobTable Ticket} {ended : List (UInt16 × Ticket)}

theorem find?_eq (strikes : Strikes before after ended)
    (reference : UInt16) :
    after.find? reference =
      if reference ∈ ended.map Prod.fst then none
      else before.find? reference := by
  rw [find?, strikes.pending_eq]
  split <;> rfl

/-- What is still there was there before. -/
theorem find?_some (strikes : Strikes before after ended)
    {reference : UInt16} {ticket : Ticket}
    (found : after.find? reference = some ticket) :
    before.find? reference = some ticket := by
  rw [strikes.find?_eq] at found
  split at found
  · simp at found
  · exact found

/-- Striking nothing out. -/
theorem nil (same : ∀ reference : UInt16,
    after.pending[reference]? = before.pending[reference]?) :
    Strikes before after [] where
  nodup := List.nodup_nil
  found := by simp
  pending_eq := by simpa using same

/-- Striking one job out before others. -/
theorem cons {reference : UInt16} {ticket : Ticket}
    (found : before.find? reference = some ticket)
    (strikes : Strikes (before.remove reference) after ended) :
    Strikes before after ((reference, ticket) :: ended) := by
  have removed := getElem?_pending_remove before reference
  have absent : reference ∉ ended.map Prod.fst := by
    intro member
    obtain ⟨entry, member, equal⟩ := List.mem_map.1 member
    have still := strikes.found entry member
    simp [find?, removed, equal] at still
  refine ⟨?_, ?_, ?_⟩
  · simpa using ⟨by simpa using absent, strikes.nodup⟩
  · intro entry member
    rcases List.mem_cons.1 member with rfl | member
    · exact found
    · have still := strikes.found entry member
      rw [find?, removed] at still
      split at still
      · simp at still
      · exact still
  · intro other
    rw [strikes.pending_eq, removed]
    by_cases same : other = reference <;>
      by_cases struck : other ∈ ended.map Prod.fst <;>
        simp_all

/-- The struck jobs and those left are the jobs that were there. -/
theorem entries_perm (strikes : Strikes before after ended) :
    before.entries.Perm (ended ++ after.entries) := by
  have disjoint : List.Disjoint ended after.entries := by
    intro entry struck left
    have absent := mem_entries.1 (show (entry.1, entry.2) ∈ _ from left)
    rw [strikes.find?_eq, if_pos (List.mem_map_of_mem struck)] at absent
    simp at absent
  have nodup : (ended ++ after.entries).Nodup :=
    List.nodup_append'.2
      ⟨strikes.nodup.of_map _, after.nodup_references.of_map _, disjoint⟩
  refine (List.perm_ext_iff_of_nodup
    (before.nodup_references.of_map _) nodup).2 ?_
  rintro ⟨reference, ticket⟩
  rw [List.mem_append, mem_entries, mem_entries, strikes.find?_eq]
  by_cases struck : reference ∈ ended.map Prod.fst
  · obtain ⟨⟨_, other⟩, member, rfl⟩ := List.mem_map.1 struck
    have found := strikes.found _ member
    simp only at found
    simp only [struck, if_true, found, reduceCtorEq, or_false,
      Option.some.injEq]
    constructor
    · rintro rfl
      exact member
    · intro also
      have again := strikes.found _ also
      simp only [found, Option.some.injEq] at again
      exact again
  · simp only [struck, if_false]
    constructor
    · exact Or.inr
    · rintro (member | found)
      · exact absurd (List.mem_map_of_mem member) struck
      · exact found

theorem tickets_perm (strikes : Strikes before after ended) :
    before.tickets.Perm (ended.map Prod.snd ++ after.tickets) := by
  rw [tickets_eq_map_entries, tickets_eq_map_entries, ← List.map_append]
  exact strikes.entries_perm.map _

end Strikes

/-! ## What the operations strike out -/

/-- Registering a job under a free reference is undone by striking it out. -/
theorem strikes_register
    (table : JobTable Ticket)
    {reference : UInt16}
    (free : table.find? reference = none)
    (ticket : Ticket)
    (deadline : Nat) :
    Strikes (table.register reference ticket deadline) table
      [(reference, ticket)] where
  nodup := by simp
  found := by simp [find?_register]
  pending_eq := by
    intro other
    rw [getElem?_pending_register]
    by_cases same : other = reference
    · subst same
      simpa using find?_eq_none_iff.1 free
    · simp [same]

theorem strikes_remove {reference : UInt16} {ticket : Ticket}
    (found : table.find? reference = some ticket) :
    Strikes table (table.remove reference) [(reference, ticket)] :=
  .cons found (.nil fun _ => rfl)

/-- A reply without a job is a miss and leaves the table as it is. -/
theorem resolve_of_find?_eq_none {reply : Pdu}
    (absent : table.find? reply.reference = none) :
    table.resolve reply = (table, .miss reply.reference) := by
  simp [resolve, take?, absent]

/-- A reply ends the job under its reference. -/
theorem resolve_of_find?_eq_some {reply : Pdu} {ticket : Ticket}
    (found : table.find? reply.reference = some ticket) :
    table.resolve reply =
      (table.remove reply.reference,
        .delivered { ticket, result := .ok reply }) := by
  simp [resolve, take?, found]

theorem fail_of_find?_eq_none {reference : UInt16} (error : Error)
    (absent : table.find? reference = none) :
    table.fail reference error = (table, []) := by
  simp [fail, take?, absent]

theorem fail_of_find?_eq_some
    {reference : UInt16} {ticket : Ticket} (error : Error)
    (found : table.find? reference = some ticket) :
    table.fail reference error =
      (table.remove reference, [{ ticket, result := .error error }]) := by
  simp [fail, take?, found]

theorem strikes_expireEach
    (now : Nat) (references : List UInt16) (table : JobTable Ticket) :
    Strikes table (expireEach now references table).1
      (expireEach now references table).2 := by
  induction references generalizing table with
  | nil => exact .nil fun _ => rfl
  | cons reference references inductionHypothesis =>
      simp only [expireEach]
      split
      · rename_i job pending
        split
        · -- Quarantine does not touch the jobs, so the step is a removal.
          refine .cons (by simp [find?, pending]) ?_
          obtain ⟨nodup, found, pendingEq⟩ := inductionHypothesis
            { table.remove reference with
              quarantine :=
                table.quarantine.insert reference (now + table.grace) }
          exact ⟨nodup, found, pendingEq⟩
        · exact inductionHypothesis table
      · exact inductionHypothesis table

/-- Running out of time strikes out the jobs it reports. -/
theorem strikes_expire (table : JobTable Ticket) (now : Nat) :
    Strikes table (table.expire now).1 (table.expire now).2 := by
  obtain ⟨nodup, found, pendingEq⟩ := strikes_expireEach now (table.due now)
    { table with
      deadlines := table.deadlines.filter fun entry => now < entry.1 }
  exact ⟨nodup, found, pendingEq⟩

theorem map_ticket_timeOut (table : JobTable Ticket) (now : Nat) :
    ((table.timeOut now).2.map Prod.snd).map Outcome.ticket =
      (table.expire now).2.map Prod.snd := by
  simp only [timeOut, List.map_map]
  rfl

/-- Clearing the table strikes out every job. -/
theorem strikes_clear (table : JobTable Ticket) :
    Strikes table table.clear table.entries where
  nodup := table.nodup_references
  found := fun _ member => mem_entries.1 member
  pending_eq := by
    intro reference
    have cleared : table.clear.pending[reference]? = none := by
      simp [clear]
    rw [cleared]
    split
    · rfl
    · rename_i absent
      symm
      rw [← find?_eq_none_iff, Option.eq_none_iff_forall_ne_some]
      intro ticket found
      exact absent
        (List.mem_map_of_mem (f := Prod.fst) (mem_entries.2 found))

theorem map_ticket_drain (table : JobTable Ticket) :
    table.drain.2.map Outcome.ticket = table.entries.map Prod.snd := by
  simp only [drain, List.map_map, ← tickets_eq_map_entries]
  exact List.map_id _

/-! ## What the operations report -/

theorem result_fail
    {reference : UInt16} {error : Error} {outcome : Outcome Ticket}
    (failed : outcome ∈ (table.fail reference error).2) :
    ∃ error, outcome.result = .error error := by
  simp only [fail] at failed
  split at failed
  · exact ⟨error, by simp [List.mem_singleton.1 failed]⟩
  · simp at failed

theorem result_timeOut {now : Nat} {outcome : Outcome Ticket}
    (expired : outcome ∈ (table.timeOut now).2.map Prod.snd) :
    ∃ error, outcome.result = .error error := by
  simp only [timeOut, List.map_map, List.mem_map] at expired
  obtain ⟨_, _, rfl⟩ := expired
  exact ⟨.requestTimeout, rfl⟩

theorem result_drain {outcome : Outcome Ticket}
    (drained : outcome ∈ table.drain.2) :
    ∃ error, outcome.result = .error error := by
  simp only [drain, List.mem_map] at drained
  obtain ⟨_, _, rfl⟩ := drained
  exact ⟨.notConnected, rfl⟩

end JobTable
end PlcLink
