import Mathlib
import PlcLink.Proofs.Planning.Addresses
import PlcLink.Proofs.Planning.Layout

/-!
# What merging gives

Merging fails only for replies of the wrong shape. Otherwise every variable
comes to what was replied in the slots of its own pieces: the first failure
among them, or all of their data.
-/

namespace PlcLink

section

variable {piece value : Type}

/-- Fragments with what was replied in their slots. -/
def Answered (replies : List (List value)) (fragments : List (Fragment piece))
    (answers : List (piece × value)) : Prop :=
  List.Forall₂
    (fun fragment answer =>
      answer.1 = fragment.1 ∧ fragment.2.find? replies = some answer.2)
    fragments answers

variable {replies : List (List value)} {fragments : List (Fragment piece)}
  {answers : List (piece × value)}

theorem answersTo_eq (answered : Answered replies fragments answers) :
    answersTo replies fragments = answers := by
  induction answered with
  | nil => rfl
  | @cons fragment answer fragments answers isAnswer _ inductionHypothesis =>
      obtain ⟨same, found⟩ := isAnswer
      rw [answersTo_cons found, inductionHypothesis, ← same]

theorem answered_answersTo
    (found : ∀ fragment ∈ fragments, (fragment.2.find? replies).isSome) :
    Answered replies fragments (answersTo replies fragments) := by
  induction fragments with
  | nil => exact .nil
  | cons fragment fragments inductionHypothesis =>
      obtain ⟨isFound, found⟩ := List.forall_mem_cons.1 found
      obtain ⟨answer, isAnswer⟩ := Option.isSome_iff_exists.1 isFound
      rw [answersTo_cons isAnswer]
      exact .cons ⟨rfl, isAnswer⟩ (inductionHypothesis found)

/-- The answers depend on nothing but what stands in the slots. -/
theorem answersTo_congr {others : List (List value)}
    (same : ∀ fragment ∈ fragments,
      fragment.2.find? replies = fragment.2.find? others) :
    answersTo replies fragments = answersTo others fragments := by
  apply List.filterMap_congr
  intro fragment member
  dsimp only
  rw [same fragment member]

/-- Replies of the right shape have something in every slot. -/
theorem LaidOut.answered {item : Type} {tiled : item -> List piece -> Prop}
    {items : List item} {batches : List (List piece)}
    {table : List (List (Fragment piece))}
    (laidOut : LaidOut tiled items batches table)
    (same : replies.map List.length = batches.map List.length) :
    ∀ fragments ∈ table,
      Answered replies fragments (answersTo replies fragments) := by
  intro fragments member
  apply answered_answersTo
  intro fragment isOne
  have stands := laidOut.stands fragment
    (List.mem_flatten_of_mem member isOne)
  have inBatches : fragment.2 ∈ Slot.all 0 batches :=
    Slot.mem_all.2 ⟨Nat.zero_le _, by
      rw [Nat.sub_zero, stands]
      rfl⟩
  rw [← Slot.all_congr same] at inBatches
  exact (Slot.mem_all.1 inBatches).2

/-- Two lists of lists have the same shape if they are as long as each other
and so are their members. -/
theorem map_length_eq_iff {batches : List (List piece)} :
    replies.map List.length = batches.map List.length ↔
      replies.length = batches.length
        ∧ ∀ pair ∈ replies.zip batches, pair.1.length = pair.2.length := by
  rw [← List.forall₂_eq_eq_eq, List.forall₂_map_left_iff,
    List.forall₂_map_right_iff, List.forall₂_iff_zip]
  simp only [Prod.forall]

end

/-! ## Merging by variables -/

/-- A way of merging that takes what was replied to the fragments of each
variable, and nothing else. -/
structure MergesEach {piece value result : Type} (batches : List (List piece))
    (table : List (List (Fragment piece)))
    (merge : List (List value) -> Except Error (List result))
    (misfit : List (piece × value) -> Prop)
    (comesTo : List (piece × value) -> result -> Prop) : Prop where
  /-- It fails only for replies of another shape than the batches, and for
  variables whose answers do not fit. -/
  fails_iff : ∀ replies,
    (∃ error, merge replies = .error error) ↔
      replies.length ≠ batches.length
        ∨ (∃ pair ∈ replies.zip batches, pair.1.length ≠ pair.2.length)
        ∨ ∃ fragments ∈ table, ∃ answers,
          Answered replies fragments answers ∧ misfit answers
  /-- Otherwise it has one result for each variable, in order. -/
  results : ∀ replies results, merge replies = .ok results ->
    List.Forall₂
      (fun fragments result => ∃ answers,
        Answered replies fragments answers ∧ comesTo answers result)
      table results
  /-- Replies that agree in the slots of a variable have the same result for
  it. -/
  isolated : ∀ replies results others otherResults,
    merge replies = .ok results -> merge others = .ok otherResults ->
      ∀ (place : Nat) (fragments : List (Fragment piece)),
        table[place]? = some fragments ->
        (∀ fragment ∈ fragments,
          fragment.2.find? replies = fragment.2.find? others) ->
        results[place]? = otherResults[place]?

section

variable {item piece value result : Type}
  {tiled : item -> List piece -> Prop} {items : List item}
  {batches : List (List piece)} {table : List (List (Fragment piece))}
  {merge : List (List value) -> Except Error (List result)}
  {mergeOne : List (piece × value) -> Except Error result}
  {misfit : List (piece × value) -> Prop}
  {comesTo : List (piece × value) -> result -> Prop}

/-- Merging the answers to each variable of a table is merging so, if the table
belongs to the batches and merging refuses replies of another shape. -/
theorem LaidOut.mergesEach (laidOut : LaidOut tiled items batches table)
    (misshapen : ∀ replies : List (List value),
      replies.map List.length ≠ batches.map List.length ->
        ∃ error, merge replies = .error error)
    (shaped : ∀ replies : List (List value),
      replies.map List.length = batches.map List.length ->
        merge replies = (table.map (answersTo replies)).mapM mergeOne)
    (fails_iff : ∀ answers,
      (∃ error, mergeOne answers = .error error) ↔ misfit answers)
    (comes : ∀ answers result, answers ≠ [] ->
      mergeOne answers = .ok result -> comesTo answers result)
    (nonempty : ∀ fragments ∈ table, fragments ≠ []) :
    MergesEach batches table merge misfit comesTo := by
  have each : ∀ replies results, merge replies = .ok results ->
      replies.map List.length = batches.map List.length
        ∧ List.Forall₂
          (fun fragments result =>
            mergeOne (answersTo replies fragments) = .ok result)
          table results := by
    intro replies results merged
    by_cases same : replies.map List.length = batches.map List.length
    · rw [shaped replies same] at merged
      exact ⟨same, List.forall₂_map_left_iff.1 (forall₂_of_mapM_eq_ok merged)⟩
    · obtain ⟨error, failed⟩ := misshapen replies same
      rw [failed] at merged
      cases merged
  constructor
  · intro replies
    by_cases same : replies.map List.length = batches.map List.length
    · have answered := laidOut.answered same
      obtain ⟨count, lengths⟩ := map_length_eq_iff.1 same
      have noOther : ¬∃ pair ∈ replies.zip batches,
          pair.1.length ≠ pair.2.length := by
        rintro ⟨pair, member, other⟩
        exact other (lengths pair member)
      rw [shaped replies same, exists_mapM_eq_error_iff]
      simp only [List.mem_map, exists_exists_and_eq_and, fails_iff, ne_eq,
        count, not_true_eq_false, noOther, false_or]
      constructor
      · rintro ⟨fragments, member, isMisfit⟩
        exact ⟨fragments, member, _, answered fragments member, isMisfit⟩
      · rintro ⟨fragments, member, answers, isAnswered, isMisfit⟩
        refine ⟨fragments, member, ?_⟩
        rwa [answersTo_eq isAnswered]
    · refine iff_of_true (misshapen replies same) ?_
      rw [map_length_eq_iff, not_and_or] at same
      refine same.imp_right fun other => .inl ?_
      push Not at other
      exact other
  · intro replies results merged
    obtain ⟨same, each⟩ := each replies results merged
    apply forall₂_imp_of_mem each
    intro fragments member result isResult
    have answered := laidOut.answered same fragments member
    refine ⟨_, answered, comes _ _ ?_ isResult⟩
    intro isEmpty
    rw [isEmpty] at answered
    exact nonempty fragments member (List.forall₂_nil_right_iff.1 answered)
  · intro replies results others otherResults merged otherMerged place
      fragments isHere same
    obtain ⟨result, here, isResult⟩ :=
      exists_getElem?_of_forall₂ (each replies results merged).2 isHere
    obtain ⟨otherResult, there, isOther⟩ :=
      exists_getElem?_of_forall₂ (each others otherResults otherMerged).2
        isHere
    rw [← answersTo_congr same, isResult] at isOther
    rw [here, there, Except.ok.inj isOther]

end

/-! ## The first failure -/

section

variable {piece value : Type} {codeOf : value -> ReturnCode}
  {answers : List (piece × value)} {failed : value}

/-- All pieces were answered with success. -/
def AllSucceed (codeOf : value -> ReturnCode)
    (answers : List (piece × value)) : Prop :=
  ∀ answer ∈ answers, codeOf answer.2 = .success

/-- The first answer that is no success. -/
def FirstFailure (codeOf : value -> ReturnCode)
    (answers : List (piece × value)) (failed : value) : Prop :=
  ∃ before piece after,
    answers = before ++ (piece, failed) :: after
      ∧ AllSucceed codeOf before ∧ codeOf failed ≠ .success

theorem find?_failure_eq_none :
    answers.find? (fun answer => !(codeOf answer.2).isSuccess) = none ↔
      AllSucceed codeOf answers := by
  simp only [List.find?_eq_none, AllSucceed, Bool.not_eq_true',
    Bool.not_eq_false, ReturnCode.isSuccess_iff]

theorem firstFailure_of_find? {piece : piece}
    (found : answers.find? (fun answer => !(codeOf answer.2).isSuccess)
      = some (piece, failed)) :
    FirstFailure codeOf answers failed := by
  obtain ⟨fails, before, after, isSplit, succeed⟩ :=
    List.find?_eq_some_iff_append.1 found
  refine ⟨before, piece, after, isSplit, ?_, ?_⟩
  · intro answer member
    have succeeds := succeed answer member
    rwa [Bool.not_not, ReturnCode.isSuccess_iff] at succeeds
  · intro succeeds
    rw [succeeds] at fails
    cases fails

end

/-! ## Merging replies to reads -/

namespace ReadPlan

variable {answers : List (VarSpec × DataItem)} {result : ReadResult}

/-- What the answers to the pieces of a variable come to. -/
inductive ComesTo (answers : List (VarSpec × DataItem)) : ReadResult -> Prop
  | failure {failed : DataItem}
      (first : FirstFailure DataItem.returnCode answers failed) :
      ComesTo answers
        { returnCode := failed.returnCode
          variableType := failed.variableType
          data := [] }
  | joined {first : VarSpec × DataItem} {others : List (VarSpec × DataItem)}
      (isFirst : answers = first :: others)
      (succeed : AllSucceed DataItem.returnCode answers)
      (lengths : ∀ answer ∈ answers,
        answer.2.data.length = answer.1.byteLength) :
      ComesTo answers
        { returnCode := .success
          variableType := first.2.variableType
          data := answers.flatMap fun answer => answer.2.data }

/-- Answers that all succeeded, one of them with data of another length than
planned. -/
def Misfit (answers : List (VarSpec × DataItem)) : Prop :=
  AllSucceed DataItem.returnCode answers
    ∧ ∃ answer ∈ answers, answer.2.data.length ≠ answer.1.byteLength

theorem mergeOne_eq_error_iff :
    (∃ error, mergeOne answers = .error error) ↔ Misfit answers := by
  unfold mergeOne
  split
  · rename_i failed found
    constructor
    · rintro ⟨error, isError⟩
      cases isError
    · rintro ⟨succeed, -⟩
      rw [find?_failure_eq_none.2 succeed] at found
      cases found
  · rename_i found
    have succeed := find?_failure_eq_none.1 found
    split
    · rename_i lengths
      constructor
      · rintro ⟨error, isError⟩
        cases isError
      · rintro ⟨-, answer, member, other⟩
        have same := eq_of_beq (List.all_eq_true.1 lengths answer member)
        exact absurd same other
    · rename_i lengths
      simp only [List.all_eq_true, beq_iff_eq, not_forall, exists_prop]
        at lengths
      exact iff_of_true ⟨_, rfl⟩ ⟨succeed, lengths⟩

theorem comesTo_of_mergeOne (nonempty : answers ≠ [])
    (merged : mergeOne answers = .ok result) : ComesTo answers result := by
  unfold mergeOne at merged
  split at merged
  · rename_i piece failed found
    cases merged
    exact .failure (firstFailure_of_find? found)
  · rename_i found
    split at merged
    · rename_i lengths
      cases merged
      obtain ⟨first, others, rfl⟩ := List.exists_cons_of_ne_nil nonempty
      refine .joined rfl (find?_failure_eq_none.1 found) ?_
      intro answer member
      exact eq_of_beq (List.all_eq_true.1 lengths answer member)
    · cases merged

end ReadPlan

/-! ## Merging replies to writes -/

/-- What the answers to the pieces of an item come to. -/
inductive WritePlan.ComesTo (answers : List (WriteItem × ReturnCode)) :
    ReturnCode -> Prop
  | failure {failed : ReturnCode} (first : FirstFailure id answers failed) :
      ComesTo answers failed
  | success (succeed : AllSucceed id answers) : ComesTo answers .success

theorem WritePlan.comesTo_mergeOne (answers : List (WriteItem × ReturnCode)) :
    ComesTo answers (mergeOne answers) := by
  have search : (answers.map Prod.snd).find? (fun code => !code.isSuccess)
      = (answers.find? fun answer => !(id answer.2).isSuccess).map Prod.snd :=
    List.find?_map ..
  rw [mergeOne, search]
  cases found : answers.find? (fun answer => !(id answer.2).isSuccess) with
  | none => exact .success (find?_failure_eq_none.1 found)
  | some answer => exact .failure (firstFailure_of_find? found)

/-! ## Planned pieces in order -/

namespace VarSpec

/-- Pieces that a variable is cut into, each behind the bytes of those before
it. -/
structure CutInOrder (maxBytes : Nat) (spec : VarSpec)
    (pieces : List VarSpec) : Prop where
  cut : spec.pieces maxBytes = .ok pieces
  inOrder : ∀ index piece, pieces[index]? = some piece ->
    piece.start = spec.place pieces index

theorem cutInOrder {maxBytes : Nat} {spec : VarSpec} {pieces : List VarSpec}
    (cut : spec.pieces maxBytes = .ok pieces) :
    spec.CutInOrder maxBytes pieces :=
  ⟨cut, exact_pieces cut⟩

end VarSpec

/-- Pieces of an item that follow the pieces of its variable. -/
def WriteItem.CutInOrder (maxBytes : Nat) (item : WriteItem)
    (pieces : List WriteItem) : Prop :=
  item.spec.CutInOrder maxBytes (pieces.map WriteItem.spec)

theorem LaidOut.fragments_ne_nil {item piece : Type}
    {tiled : item -> List piece -> Prop} {items : List item}
    {batches : List (List piece)} {table : List (List (Fragment piece))}
    (laidOut : LaidOut tiled items batches table)
    (nonempty : ∀ item pieces, tiled item pieces -> pieces ≠ []) :
    ∀ fragments ∈ table, fragments ≠ [] := by
  rintro _ member rfl
  have rows := forall_mem_of_forall₂ laidOut.pieces_tile
    fun item _ pieces tiled => nonempty item pieces tiled
  exact rows [] (List.mem_map_of_mem member) rfl

/-! ## Plans -/

namespace ReadPlan

variable {limits : BatchLimits} {specs : List VarSpec} {plan : ReadPlan}

/-- Merging with a plan to read takes each variable by itself. -/
theorem mergesEach (planned : ofSpecs limits specs = .ok plan) :
    MergesEach plan.batches plan.fragments plan.merge Misfit ComesTo := by
  refine (laidOut planned).mergesEach ?_ ?_
    (fun _ => mergeOne_eq_error_iff) (fun _ _ => comesTo_of_mergeOne)
    ((laidOut planned).fragments_ne_nil fun _ _ => VarSpec.pieces_ne_nil)
  · intro replies misshapen
    by_cases count : replies.length = plan.batches.length
    · refine ⟨.protocolViolation .readItemCount, ?_⟩
      rw [merge, if_neg (not_not.2 count), if_pos misshapen]
    · exact ⟨_, if_pos count⟩
  · intro replies same
    have count : replies.length = plan.batches.length :=
      (map_length_eq_iff.1 same).1
    rw [merge, if_neg (not_not.2 count), if_neg (not_not.2 same)]

end ReadPlan

namespace WritePlan

variable {limits : BatchLimits} {items : List WriteItem} {plan : WritePlan}

/-- Merging with a plan to write takes each item by itself, and fails only for
replies of another shape. -/
theorem mergesEach (planned : ofItems limits items = .ok plan) :
    MergesEach plan.batches plan.fragments plan.merge (fun _ => False)
      ComesTo := by
  have shaped : ∀ replies : List (List ReturnCode),
      replies.map List.length = plan.batches.map List.length ->
        plan.merge replies
          = (plan.fragments.map (answersTo replies)).mapM fun answers =>
              .ok (mergeOne answers) := by
    intro replies same
    rw [merge, if_neg (not_not.2 same)]
    exact (List.mapM_pure (m := Except Error)).symm
  refine (laidOut planned).mergesEach ?_ shaped ?_ ?_ ?_
  · intro replies misshapen
    exact ⟨_, if_pos misshapen⟩
  · intro answers
    constructor
    · rintro ⟨error, failed⟩
      cases failed
    · exact False.elim
  · intro answers result _ merged
    cases merged
    exact comesTo_mergeOne answers
  · apply (laidOut planned).fragments_ne_nil
    rintro item pieces cut rfl
    obtain ⟨_, isCut, rfl⟩ := WriteItem.exists_pieces_spec cut
    exact VarSpec.pieces_ne_nil isCut rfl

end WritePlan

/-- With any plan, merging fails only for replies of another shape than the
batches, and for variables all of whose pieces succeeded and one of which came
with another length than planned. Otherwise each variable comes to what was
replied to its own pieces. -/
theorem BatchLimits.merges_each (limits : BatchLimits) :
    (∀ specs plan, ReadPlan.ofSpecs limits specs = .ok plan ->
      LaidOut (VarSpec.CutInOrder limits.readChunk) specs plan.batches
          plan.fragments
        ∧ MergesEach plan.batches plan.fragments plan.merge ReadPlan.Misfit
          ReadPlan.ComesTo)
    ∧ ∀ items plan, WritePlan.ofItems limits items = .ok plan ->
      LaidOut (WriteItem.CutInOrder limits.writeChunk) items plan.batches
          plan.fragments
        ∧ MergesEach plan.batches plan.fragments plan.merge (fun _ => False)
          WritePlan.ComesTo := by
  constructor
  · intro specs plan planned
    refine ⟨?_, ReadPlan.mergesEach planned⟩
    exact (ReadPlan.laidOut planned).imp fun _ _ => VarSpec.cutInOrder
  · intro items plan planned
    refine ⟨?_, WritePlan.mergesEach planned⟩
    apply (WritePlan.laidOut planned).imp
    intro item pieces cut
    obtain ⟨_, isCut, rfl⟩ := WriteItem.exists_pieces_spec cut
    exact VarSpec.cutInOrder isCut

/-- Replies in which the second of three pieces to read fails. -/
def ReadPlan.nestedReplies : List (List DataItem) :=
  [[.succeeded .byteWordDoubleWord (List.replicate 222 7)],
    [.failed .addressOutOfRange, .succeeded .integer [1, 2, 3, 4]]]

/-- The failure of a piece is that of its variable, and of no other. -/
def ReadPlan.nestedResults : List ReadResult :=
  [{ returnCode := .addressOutOfRange, variableType := .null, data := [] },
    { returnCode := .success
      variableType := .integer
      data := [1, 2, 3, 4] }]

theorem BatchLimits.merges_each_nested :
    (∃ plan,
      ReadPlan.ofSpecs (.ofPduSize 240 20) ReadPlan.nestedSpecs = .ok plan
        ∧ plan.merge ReadPlan.nestedReplies = .ok ReadPlan.nestedResults
        ∧ List.Forall₂
          (fun fragments result => ∃ answers,
            Answered ReadPlan.nestedReplies fragments answers
              ∧ ReadPlan.ComesTo answers result)
          plan.fragments ReadPlan.nestedResults
        ∧ ∃ error, plan.merge ReadPlan.nestedReplies.tail = .error error)
    ∧ ∃ plan,
      WritePlan.ofItems (.ofPduSize 240 20) WritePlan.adjacentItems = .ok plan
        ∧ plan.merge [[.success], [.accessDenied, .success]]
          = .ok [.accessDenied, .success]
        ∧ ∃ error, plan.merge [[.success, .success]] = .error error := by
  obtain ⟨reads, writes⟩ := merges_each (.ofPduSize 240 20)
  have reading : (ReadPlan.ofSpecs (.ofPduSize 240 20)
      ReadPlan.nestedSpecs).map (fun plan =>
        (plan.batches.length, plan.merge ReadPlan.nestedReplies))
      = .ok (2, .ok ReadPlan.nestedResults) := by
    decide +kernel
  have writing : (WritePlan.ofItems (.ofPduSize 240 20)
      WritePlan.adjacentItems).map (fun plan =>
        (plan.batches.length,
          plan.merge [[.success], [.accessDenied, .success]]))
      = .ok (2, .ok [.accessDenied, .success]) := by
    decide +kernel
  obtain ⟨readPlan, readPlanned, shape⟩ := exists_of_map_eq_ok reading
  obtain ⟨readCount, readMerged⟩ := Prod.mk.inj shape
  obtain ⟨writePlan, writePlanned, shape⟩ := exists_of_map_eq_ok writing
  obtain ⟨writeCount, writeMerged⟩ := Prod.mk.inj shape
  obtain ⟨-, readsEach⟩ := reads _ _ readPlanned
  obtain ⟨-, writesEach⟩ := writes _ _ writePlanned
  refine ⟨⟨readPlan, readPlanned, readMerged, ?_, ?_⟩,
    writePlan, writePlanned, writeMerged, ?_⟩
  · exact readsEach.results _ _ readMerged
  · apply (readsEach.fails_iff _).2
    rw [readCount]
    exact .inl (by decide)
  · apply (writesEach.fails_iff _).2
    rw [writeCount]
    exact .inl (by decide)

end PlcLink
