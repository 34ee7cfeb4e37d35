import Std.Data.TreeMap
import PlcLink.Bytes

/-!
# Pending jobs

The job table maps references to the jobs that wait for a reply under them.
References are handed out cyclically from 1 to 65535. One whose job ran out of
time is quarantined, so that a late reply cannot be taken for another job's.

Deadlines are kept for every registration. Those of jobs that ended otherwise
become stale and are skipped when their time comes.
-/

namespace PlcLink

/-- A pending job, known by a ticket, and when it runs out of time. -/
structure PendingJob (Ticket : Type) where
  ticket : Ticket
  deadline : Nat
  deriving Repr

/-- The pending jobs of a session, by reference. -/
structure JobTable (Ticket : Type) where
  pending : Std.TreeMap UInt16 (PendingJob Ticket)
  /-- Deadlines of all registrations that are still to come, the latest
  registration first. -/
  deadlines : List (Nat × UInt16)
  /-- References that must not be used until the given time. -/
  quarantine : Std.TreeMap UInt16 Nat
  lastReference : UInt16
  /-- How long a reference stays in quarantine. -/
  grace : Nat

namespace JobTable

/-- The table without jobs. -/
def empty (grace : Nat) : JobTable Ticket :=
  { pending := ∅
    deadlines := []
    quarantine := ∅
    lastReference := 0
    grace }

/-- Number of pending jobs. -/
def size (table : JobTable Ticket) : Nat :=
  table.pending.size

/-- The reference after another one; zero is left out. -/
def following (reference : UInt16) : UInt16 :=
  if reference = 65535 then 1 else reference + 1

/-- The first reference after the given one that is free, looking no further
than `count` of them. -/
def firstFree? (isFree : UInt16 -> Bool) : Nat -> UInt16 -> Option UInt16
  | 0, _ => none
  | count + 1, reference =>
      let candidate := following reference
      if isFree candidate then some candidate
      else firstFree? isFree count candidate

/-- Forget quarantines that are over. -/
def release (table : JobTable Ticket) (now : Nat) : JobTable Ticket :=
  { table with
    quarantine := table.quarantine.filter fun _ release => now < release }

/-- Whether neither a job nor a quarantine holds a reference. -/
def isFree (table : JobTable Ticket) (reference : UInt16) : Bool :=
  !table.pending.contains reference && !table.quarantine.contains reference

/-- Hand out the next free reference, if there is one. -/
def allocate (table : JobTable Ticket) (now : Nat) :
    Option UInt16 × JobTable Ticket :=
  let table := table.release now
  match firstFree? table.isFree 65535 table.lastReference with
  | some reference =>
      (some reference, { table with lastReference := reference })
  | none => (none, table)

/-- Enter a job under a reference, in place of whatever was there. -/
def register
    (table : JobTable Ticket)
    (reference : UInt16)
    (ticket : Ticket)
    (deadline : Nat) : JobTable Ticket :=
  { table with
    pending := table.pending.insert reference { ticket, deadline }
    deadlines := (deadline, reference) :: table.deadlines }

/-- The ticket of the job under a reference. -/
def find? (table : JobTable Ticket) (reference : UInt16) : Option Ticket :=
  table.pending[reference]?.map PendingJob.ticket

/-- Strike out the job under a reference. -/
def remove (table : JobTable Ticket) (reference : UInt16) : JobTable Ticket :=
  { table with pending := table.pending.erase reference }

/-- Take the job under a reference out of the table, if there is one. -/
def take? (table : JobTable Ticket) (reference : UInt16) :
    Option (Ticket × JobTable Ticket) :=
  (table.find? reference).map fun ticket => (ticket, table.remove reference)

/-- The earliest deadline of all registrations, stale ones included. -/
def nextDeadline? (table : JobTable Ticket) : Option Nat :=
  (table.deadlines.map Prod.fst).min?

/-- Strike out the jobs under the given references whose own deadlines have
come, and put their references into quarantine. -/
def expireEach (now : Nat) :
    List UInt16 -> JobTable Ticket -> JobTable Ticket × List (UInt16 × Ticket)
  | [], table => (table, [])
  | reference :: references, table =>
      match table.pending[reference]? with
      | some entry =>
          if entry.deadline ≤ now then
            let struck :=
              { table.remove reference with
                quarantine :=
                  table.quarantine.insert reference (now + table.grace) }
            let (table, expired) := expireEach now references struck
            (table, (reference, entry.ticket) :: expired)
          else
            expireEach now references table
      | none => expireEach now references table

/-- References whose registered deadlines have come, by deadline and then in
order of registration. -/
def due (table : JobTable Ticket) (now : Nat) : List UInt16 :=
  let come := (table.deadlines.filter fun entry => entry.1 ≤ now).reverse
  (come.mergeSort fun first second => first.1 ≤ second.1).map Prod.snd

/-- Strike out every job that ran out of time. -/
def expire (table : JobTable Ticket) (now : Nat) :
    JobTable Ticket × List (UInt16 × Ticket) :=
  let waiting :=
    { table with
      deadlines := table.deadlines.filter fun entry => now < entry.1 }
  expireEach now (table.due now) waiting

/-- The tickets of all pending jobs. -/
def tickets (table : JobTable Ticket) : List Ticket :=
  table.pending.values.map PendingJob.ticket

/-- Strike out every job, and every deadline with them. -/
def clear (table : JobTable Ticket) : JobTable Ticket :=
  { table with pending := ∅, deadlines := [] }

end JobTable
end PlcLink
