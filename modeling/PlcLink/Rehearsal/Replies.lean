import PlcLink.Planning.Plan

/-!
# Replies of a rehearsed controller

A rehearsed controller holds at every address the address itself, in a byte. It
answers every piece of a plan, and single answers can be changed.
-/

namespace PlcLink
namespace Rehearsal

/-- A change to the answer to one piece. -/
structure AnswerEdit where
  batch : Nat
  index : Nat
  returnCode? : Option ReturnCode
  variableType? : Option VariableType
  data? : Option Bytes
  /-- Whether only the return code is left. -/
  failed : Bool
  /-- Whether the answer is left out. -/
  dropped : Bool
  deriving DecidableEq, Repr

/-- The bytes that the variable holds. -/
def addressBytes (spec : VarSpec) : Bytes :=
  (List.range spec.byteLength).map
    fun place => UInt8.ofNat (spec.byteAddress.toNat + place)

/-- The answer to a piece that was read. -/
def readAnswer (spec : VarSpec) : DataItem :=
  .succeeded spec.transportSize.variableType (addressBytes spec)

/-- Change an answer. -/
def AnswerEdit.apply (edit : AnswerEdit) (item : DataItem) : DataItem :=
  let returnCode := edit.returnCode?.getD item.returnCode
  if edit.failed then
    .failed returnCode
  else
    { returnCode
      variableType := edit.variableType?.getD item.variableType
      data := edit.data?.getD item.data }

/-- The answers to the pieces of a batch, without those left out. The first
edit for a piece counts. -/
def answers
    (edits : List AnswerEdit)
    (answer : piece -> Option AnswerEdit -> value)
    (batch : Nat)
    (pieces : List piece) : List value :=
  pieces.zipIdx.filterMap fun (piece, index) =>
    let edit? := edits.find? fun edit =>
      edit.batch == batch && edit.index == index
    if edit?.any AnswerEdit.dropped then none
    else some (answer piece edit?)

/-- As many replies as are asked for; empty ones make up the number. -/
def resize (count? : Option Nat) (replies : List (List value)) :
    List (List value) :=
  match count? with
  | none => replies
  | some count =>
      replies.take count ++ List.replicate (count - replies.length) []

/-- The replies to all batches of a plan to read. -/
def readReplies
    (plan : ReadPlan)
    (edits : List AnswerEdit)
    (count? : Option Nat) : List (List DataItem) :=
  let answer := fun piece (edit? : Option AnswerEdit) =>
    match edit? with
    | some edit => edit.apply (readAnswer piece)
    | none => readAnswer piece
  resize count?
    (plan.batches.zipIdx.map fun (pieces, batch) =>
      answers edits answer batch pieces)

/-- The replies to all batches of a plan to write. -/
def writeReplies
    (plan : WritePlan)
    (edits : List AnswerEdit)
    (count? : Option Nat) : List (List ReturnCode) :=
  let answer := fun (_ : WriteItem) (edit? : Option AnswerEdit) =>
    (edit?.bind AnswerEdit.returnCode?).getD .success
  resize count?
    (plan.batches.zipIdx.map fun (pieces, batch) =>
      answers edits answer batch pieces)

end Rehearsal
end PlcLink
