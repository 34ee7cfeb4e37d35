import PlcLink.Pdu.Basic
import PlcLink.Session.JobTable

/-!
# How jobs end

A job ends with the reply under its reference or with an error. Here are the
ways in which jobs of the table end, each with the outcomes it gives.
-/

namespace PlcLink

/-- How a job ended. -/
structure Outcome (Ticket : Type) where
  ticket : Ticket
  result : Except Error Pdu

/-- What came of a reply. -/
inductive Resolution (Ticket : Type)
  | delivered (outcome : Outcome Ticket)
  /-- No pending job has the reference. -/
  | miss (reference : UInt16)

namespace JobTable

variable {Ticket : Type}

/-- End the job under the reference of a reply with the reply. -/
def resolve (table : JobTable Ticket) (reply : Pdu) :
    JobTable Ticket × Resolution Ticket :=
  match table.take? reply.reference with
  | some (ticket, table) =>
      (table, .delivered { ticket, result := .ok reply })
  | none => (table, .miss reply.reference)

/-- End the job under a reference with an error, if there is one. -/
def fail (table : JobTable Ticket) (reference : UInt16) (error : Error) :
    JobTable Ticket × List (Outcome Ticket) :=
  match table.take? reference with
  | some (ticket, table) => (table, [{ ticket, result := .error error }])
  | none => (table, [])

/-- End every job that ran out of time; each comes with its reference. -/
def timeOut (table : JobTable Ticket) (now : Nat) :
    JobTable Ticket × List (UInt16 × Outcome Ticket) :=
  let (table, expired) := table.expire now
  (table,
    expired.map fun (reference, ticket) =>
      (reference, { ticket, result := .error .requestTimeout }))

/-- End every job. -/
def drain (table : JobTable Ticket) :
    JobTable Ticket × List (Outcome Ticket) :=
  (table.clear,
    table.tickets.map fun ticket =>
      { ticket, result := .error .notConnected })

end JobTable
end PlcLink
