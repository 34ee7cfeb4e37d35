import PlcLink.Planning.Batch

/-!
# Plans

A plan is the pieces of every variable asked for, the batches they travel in,
and the slot in which each piece travels. Merging the replies, one per batch,
gives back one result per variable: what was replied in the slots of its pieces.
-/

namespace PlcLink

/-- Pair the members of each group with values, taken in order. -/
def regroup : List (List member) -> List value -> List (List (member × value))
  | [], _ => []
  | group :: groups, values =>
      group.zip values :: regroup groups (values.drop group.length)

/-- A piece and the slot in which it travels. -/
abbrev Fragment (piece : Type) : Type :=
  piece × Slot

/-- The pieces of one variable with what was replied in their slots. -/
def answersTo (replies : List (List value)) (fragments : List (Fragment piece)) :
    List (piece × value) :=
  fragments.filterMap fun (piece, slot) =>
    (slot.find? replies).map fun value => (piece, value)

/-- What came of reading one variable. -/
structure ReadResult where
  returnCode : ReturnCode
  variableType : VariableType
  data : Bytes
  deriving DecidableEq, Repr

/-- How to read a list of variables. -/
structure ReadPlan where
  /-- The pieces of each variable. -/
  pieces : List (List VarSpec)
  /-- The pieces of each job. -/
  batches : List (List VarSpec)
  /-- The pieces of each variable with their slots among the batches. -/
  fragments : List (List (Fragment VarSpec))
  flatten_batches : batches.flatten = pieces.flatten

/-- How to write a list of items. -/
structure WritePlan where
  /-- The pieces of each item. -/
  pieces : List (List WriteItem)
  /-- The pieces of each job. -/
  batches : List (List WriteItem)
  /-- The pieces of each item with their slots among the batches. -/
  fragments : List (List (Fragment WriteItem))
  flatten_batches : batches.flatten = pieces.flatten

namespace ReadPlan

/-- Plan to read variables. -/
def ofSpecs (limits : BatchLimits) (specs : List VarSpec) :
    Guarded ReadPlan := do
  let pieces <- specs.mapM fun spec => spec.pieces limits.readChunk
  return {
    pieces
    batches := packReads limits pieces.flatten
    fragments := regroup pieces (readSlots limits pieces.flatten)
    flatten_batches := by simp [packReads, flatten_packBehind] }

/-- What came of reading one variable, given its pieces with the items that
answer them. The first item that failed stands for all; otherwise every item
must have the length of its piece. -/
def mergeOne (answers : List (VarSpec × DataItem)) :
    Except Error ReadResult :=
  match answers.find? fun answer => !answer.2.returnCode.isSuccess with
  | some (_, failed) =>
      .ok
        { returnCode := failed.returnCode
          variableType := failed.variableType
          data := [] }
  | none =>
      if answers.all fun answer =>
          answer.2.data.length == answer.1.byteLength then
        .ok
          { returnCode := .success
            variableType :=
              (answers.head?.map fun answer => answer.2.variableType).getD
                .null
            data := answers.flatMap fun answer => answer.2.data }
      else
        .error (.protocolViolation .readItemLength)

/-- What came of reading the variables, given one reply per batch. -/
def merge (plan : ReadPlan) (replies : List (List DataItem)) :
    Except Error (List ReadResult) :=
  if replies.length ≠ plan.batches.length then
    .error (.protocolViolation .readReplyCount)
  else if replies.map List.length ≠ plan.batches.map List.length then
    .error (.protocolViolation .readItemCount)
  else
    (plan.fragments.map (answersTo replies)).mapM mergeOne

end ReadPlan

namespace WritePlan

/-- Plan to write items. -/
def ofItems (limits : BatchLimits) (items : List WriteItem) :
    Guarded WritePlan := do
  let pieces <- items.mapM fun item => item.pieces limits.writeChunk
  return {
    pieces
    batches := packWrites limits pieces.flatten
    fragments := regroup pieces (writeSlots limits pieces.flatten)
    flatten_batches := by simp [packWrites, flatten_packBehind] }

/-- What came of writing one item: the first code that is no success. -/
def mergeOne (answers : List (WriteItem × ReturnCode)) : ReturnCode :=
  ((answers.map Prod.snd).find? fun code => !code.isSuccess).getD .success

/-- What came of writing the items, given one reply per batch. -/
def merge (plan : WritePlan) (replies : List (List ReturnCode)) :
    Except Error (List ReturnCode) :=
  if replies.map List.length ≠ plan.batches.map List.length then
    .error (.protocolViolation .writeReplyCount)
  else
    .ok ((plan.fragments.map (answersTo replies)).map mergeOne)

end WritePlan
end PlcLink
