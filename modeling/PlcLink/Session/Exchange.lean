import PlcLink.Planning.Plan
import PlcLink.Settings.Basic
import PlcLink.UserData.Service

/-!
# Operations of a session

An operation takes one or more rounds of jobs. Between two rounds it is a value
that the replies, in the order of the jobs, carry on. Jobs of a round are
outstanding at the same time; in whatever order their replies come, they are
looked at in the order of the jobs.
-/

namespace PlcLink

/-- What a session can be asked for. -/
inductive Operation
  | submit (body : Body)
  | userData (request : Body)
  | read (specs : List VarSpec)
  | write (items : List WriteItem)
  deriving DecidableEq, Repr

/-- What an operation gives. -/
inductive Answer
  | pdu (pdu : Pdu)
  | bytes (bytes : Bytes)
  | results (results : List ReadResult)
  | codes (codes : List ReturnCode)
  deriving DecidableEq, Repr

/-- An operation that waits for the replies of a round. -/
inductive Exchange
  | single
  | reading (plan : ReadPlan)
  | writing (plan : WritePlan)
  /-- Gathering the units of a user-data reply, up to a ceiling. -/
  | gathering (ceiling : Nat) (gathered : Bytes)

/-- How an operation goes on. -/
inductive Progress
  | finished (result : Except Error Answer)
  | round (exchange : Exchange) (bodies : List Body)
  /-- It came to a fault, and gives nothing. -/
  | crashed (fault : Fault)

/-- How an operation goes on that was halted. -/
def Progress.ofHalt : Halt -> Progress
  | .refused error => finished (.error error)
  | .crashed fault => crashed fault

namespace Exchange

/-- A reply whose header reports no error. -/
def checked (reply : Except Error Pdu) : Except Error Pdu := do
  let pdu <- reply
  pdu.checkHeader
  return pdu

/-- The items of the reply to a batch of `count` pieces to read. -/
def readReply (count : Nat) (reply : Except Error Pdu) :
    Except Error (List DataItem) := do
  match <- (<- checked reply).decode with
  | .readResponse items =>
      if items.length = count then return items else .error .unexpectedPdu
  | _ => .error .unexpectedPdu

/-- The codes of the reply to a batch of `count` pieces to write. -/
def writeReply (count : Nat) (reply : Except Error Pdu) :
    Except Error (List ReturnCode) := do
  match <- (<- checked reply).decode with
  | .writeResponse codes =>
      if codes.length = count then return codes else .error .unexpectedPdu
  | _ => .error .unexpectedPdu

/-- Read the reply to each batch. The first that is wrong fails the
operation. -/
def readEach
    (read : Nat -> Except Error Pdu -> Except Error value)
    (batches : List (List piece))
    (replies : List (Except Error Pdu)) : Except Error (List value) :=
  (batches.zip replies).mapM fun (batch, reply) => read batch.length reply

/-- What one unit of a user-data reply adds, within the ceiling. -/
def unitData (ceiling : Nat) (gathered : Bytes) :
    Option DataItem -> Except Error Bytes
  | none => .ok gathered
  | some item =>
      if !item.returnCode.isSuccess then
        .error (.itemRejected item.returnCode)
      else if ceiling < gathered.length + item.data.length then
        .error (.protocolViolation .userDataCeiling)
      else
        .ok (gathered ++ item.data)

/-- Take one unit of a user-data reply. The last one ends the operation, and
any other is followed by a request for the next. -/
def gather (ceiling : Nat) (gathered : Bytes) (reply : Except Error Pdu) :
    Except Error Progress := do
  match <- (<- checked reply).decode with
  | .userData parameter item? => do
      parameter.checkError
      let gathered <- unitData ceiling gathered item?
      if parameter.isLast then
        return .finished (.ok (.bytes gathered))
      else
        return .round (gathering ceiling gathered)
          [UserData.continuationRequest parameter]
  | _ => .error .unexpectedPdu

/-- Carry on with the replies of a round. -/
def resume (exchange : Exchange) (replies : List (Except Error Pdu)) :
    Progress :=
  match exchange with
  | single =>
      .finished do
        return .pdu (<- checked (replies.headD (.error .notConnected)))
  | reading plan =>
      .finished do
        return .results
          (<- plan.merge (<- readEach readReply plan.batches replies))
  | writing plan =>
      .finished do
        return .codes
          (<- plan.merge (<- readEach writeReply plan.batches replies))
  | gathering ceiling gathered =>
      match gather ceiling gathered
          (replies.headD (.error .notConnected)) with
      | .ok progress => progress
      | .error error => .finished (.error error)

end Exchange

namespace Operation

/-- What limits the batches of a session. -/
def limits (settings : SessionSettings) (context : Context) : BatchLimits :=
  .ofPduSize context.pduSize settings.maxItemsPerRequest

/-- Begin an operation in a context. A job does not need one to be planned; a
list of variables does. -/
def start (settings : SessionSettings) (context? : Option Context) :
    Operation -> Progress
  | submit body => .round .single [body]
  | userData request =>
      .round (.gathering settings.maxReassemblyBytes []) [request]
  | read specs =>
      match context? with
      | none => .finished (.error .notConnected)
      | some context =>
          match ReadPlan.ofSpecs (limits settings context) specs with
          | .error halt => .ofHalt halt
          | .ok plan =>
              .round (.reading plan) (plan.batches.map .readRequest)
  | write items =>
      match context? with
      | none => .finished (.error .notConnected)
      | some context =>
          match WritePlan.ofItems (limits settings context) items with
          | .error halt => .ofHalt halt
          | .ok plan =>
              .round (.writing plan) (plan.batches.map .writeRequest)

end Operation
end PlcLink
