import PlcLink.Error
import PlcLink.Session.JobTable

/-!
# Drills on the job table

A drill works one job table step by step. Waiters hold the jobs; a window
limits how many jobs may be pending. A waiter may stop listening, and is then
told nothing any more.
-/

namespace PlcLink
namespace Rehearsal

/-- What a waiter hears in the end. -/
inductive WaiterNews
  | reply (reference : UInt16)
  | failed (error : Error)
  /-- Another job took the reference. -/
  | dropped
  deriving DecidableEq, Repr

/-- A step of a drill. -/
inductive DrillStep
  | allocate (now count : Nat)
  | register (reference : UInt16) (deadline : Nat)
  /-- Register jobs without waiters, up to and including the last
  reference. -/
  | registerRange (first last : UInt16) (deadline : Nat)
  | giveUp (waiter : Nat)
  | resolve (reference : UInt16)
  | fail (reference : UInt16)
  | expire (now : Nat)
  | drain
  deriving DecidableEq, Repr

/-- What a step results in. -/
inductive DrillResult
  | nothing
  | allocated (reference? : Option UInt16)
  | waiter (index : Nat)
  | noPermit
  | delivered
  | miss (reference : UInt16)
  | expired (references : List UInt16)
  | drained (count : Nat)
  deriving DecidableEq, Repr

/-- A drill under way. A ticket is the number of a waiter, if there is one. -/
structure TableDrill where
  table : JobTable (Option Nat)
  window : Nat
  waiterCount : Nat
  /-- Waiters that stopped listening. -/
  deaf : List Nat

namespace TableDrill

/-- A drill on an empty table. -/
def start (window grace : Nat) : TableDrill :=
  { table := .empty grace, window, waiterCount := 0, deaf := [] }

/-- Jobs that may still be registered. -/
def permits (drill : TableDrill) : Nat :=
  drill.window - drill.table.size

/-- Tell the same to the waiters of the given tickets. -/
def tell (news : WaiterNews) (tickets : List (Option Nat)) :
    List (Nat × WaiterNews) :=
  tickets.filterMap fun ticket => ticket.map fun waiter => (waiter, news)

/-- Allocate references one after the other; the last one counts. -/
def allocateMany (now : Nat) :
    Nat -> Option UInt16 -> JobTable (Option Nat) ->
      Option UInt16 × JobTable (Option Nat)
  | 0, last?, table => (last?, table)
  | count + 1, _, table =>
      let (reference?, table) := table.allocate now
      allocateMany now count reference? table

/-- Register jobs without waiters as long as there are permits. -/
def registerEach (deadline : Nat) :
    List UInt16 -> TableDrill -> TableDrill × List (Nat × WaiterNews)
  | [], drill => (drill, [])
  | reference :: references, drill =>
      if drill.permits = 0 then
        (drill, [])
      else
        let replaced := tell .dropped (drill.table.find? reference).toList
        let (drill, later) :=
          registerEach deadline references
            { drill with table := drill.table.register reference none deadline }
        (drill, replaced ++ later)

/-- Take the job under a reference out of the table and tell its waiter. -/
def finish (drill : TableDrill) (reference : UInt16) (news : WaiterNews) :
    TableDrill × Option (List (Nat × WaiterNews)) :=
  match drill.table.take? reference with
  | some (ticket, table) => ({ drill with table }, some (tell news [ticket]))
  | none => (drill, none)

/-- Take a step; the news may be for waiters that do not listen. -/
def step (drill : TableDrill) :
    DrillStep -> TableDrill × DrillResult × List (Nat × WaiterNews)
  | .allocate now count =>
      let (reference?, table) := allocateMany now count none drill.table
      ({ drill with table }, .allocated reference?, [])
  | .register reference deadline =>
      if drill.permits = 0 then
        (drill, .noPermit, [])
      else
        let waiter := drill.waiterCount
        ({ drill with
           table := drill.table.register reference (some waiter) deadline
           waiterCount := waiter + 1 },
          .waiter waiter,
          tell .dropped (drill.table.find? reference).toList)
  | .registerRange first last deadline =>
      let references :=
        (List.range' first.toNat (last.toNat + 1 - first.toNat)).map
          UInt16.ofNat
      let (drill, news) := registerEach deadline references drill
      (drill, .nothing, news)
  | .giveUp waiter =>
      ({ drill with deaf := waiter :: drill.deaf }, .nothing, [])
  | .resolve reference =>
      match drill.finish reference (.reply reference) with
      | (drill, some news) => (drill, .delivered, news)
      | (drill, none) => (drill, .miss reference, [])
  | .fail reference =>
      let (drill, news?) := drill.finish reference (.failed .notConnected)
      (drill, .nothing, news?.getD [])
  | .expire now =>
      let (table, expired) := drill.table.expire now
      ({ drill with table }, .expired (expired.map Prod.fst),
        tell (.failed .requestTimeout) (expired.map Prod.snd))
  | .drain =>
      ({ drill with table := drill.table.clear },
        .drained drill.table.size,
        tell (.failed .notConnected) drill.table.tickets)

/-- What those waiters hear that listen, in order of their numbers. -/
def heard (drill : TableDrill) (news : List (Nat × WaiterNews)) :
    List (Nat × WaiterNews) :=
  (news.filter fun item => !drill.deaf.contains item.1).mergeSort
    fun first second => first.1 ≤ second.1

end TableDrill
end Rehearsal
end PlcLink
