import Mathlib
import PlcLink.Proofs.Planning.Memory
import PlcLink.Proofs.Planning.Slots

/-!
# What planned reads give

If every piece of a plan is answered with the bytes that a controller's memory
holds in its place, merging the answers gives the bytes of the variables
themselves.
-/

namespace PlcLink
namespace Memory

/-- Bytes of a block from an address on. -/
def get (memory : Memory) (area : Area) (block : UInt16)
    (start length : Nat) : Bytes :=
  (List.range' start length).map (memory area block)

/-- The bytes of a variable. -/
def read (memory : Memory) (spec : VarSpec) : Bytes :=
  memory.get spec.area spec.blockNumber spec.start spec.byteLength

/-- An item that carries the bytes of a piece, under any variable type. -/
structure Answers (memory : Memory) (piece : VarSpec) (item : DataItem) :
    Prop where
  succeeded : item.returnCode = .success
  data_eq : item.data = memory.read piece

/-- The item of the given variable type that carries the bytes of a piece. -/
def answer (memory : Memory) (variableType : VariableType)
    (piece : VarSpec) : DataItem :=
  { returnCode := .success, variableType, data := memory.read piece }

theorem answers_batches (memory : Memory) (variableType : VariableType)
    (batches : List (List VarSpec)) :
    List.Forall₂ (List.Forall₂ memory.Answers) batches
      (batches.map (List.map (memory.answer variableType))) := by
  rw [List.forall₂_map_right_iff, List.forall₂_same]
  intro batch _
  rw [List.forall₂_map_right_iff, List.forall₂_same]
  exact fun piece _ => ⟨rfl, rfl⟩

@[simp] theorem length_get (memory : Memory) (area : Area) (block : UInt16)
    (start length : Nat) :
    (memory.get area block start length).length = length := by
  rw [get, List.length_map, List.length_range']

@[simp] theorem length_read (memory : Memory) (spec : VarSpec) :
    (memory.read spec).length = spec.byteLength :=
  memory.length_get _ _ _ _

/-- Bytes that follow others are read with them. -/
theorem get_append (memory : Memory) (area : Area) (block : UInt16)
    (start first second : Nat) :
    memory.get area block start first
        ++ memory.get area block (start + first) second
      = memory.get area block start (first + second) := by
  rw [get, get, get, ← List.map_append, List.range'_append_1]

/-- Pieces that follow one another hold the bytes between their ends. -/
theorem flatMap_read {spec : VarSpec} {pieces : List VarSpec}
    {first last : Nat}
    (consecutive : VarSpec.Consecutive spec first pieces last)
    (memory : Memory) :
    pieces.flatMap memory.read
      = memory.get spec.area spec.blockNumber first (last - first) := by
  induction consecutive with
  | done place =>
      rw [Nat.sub_self]
      rfl
  | @piece piece others stop area_eq block_eq follow inductionHypothesis =>
      have bound := follow.le
      have split : stop - piece.start
          = piece.byteLength + (stop - piece.stop) := by
        unfold VarSpec.stop at bound ⊢
        omega
      rw [List.flatMap_cons, inductionHypothesis, split, ← get_append, read,
        area_eq, block_eq]
      rfl

end Memory

namespace VarSpec

/-- A variable that is cut has at least one piece. -/
theorem pieces_ne_nil {spec : VarSpec} {maxBytes : Nat}
    {pieces : List VarSpec} (cut : spec.pieces maxBytes = .ok pieces) :
    pieces ≠ [] := by
  obtain ⟨-, ⟨-, -, rfl⟩ | ⟨-, -, rfl⟩⟩ := pieces_eq_ok cut
  · exact List.cons_ne_nil _ _
  · rw [runs]
    split
    · exact List.cons_ne_nil _ _
    · exact List.cons_ne_nil _ _

end VarSpec

namespace ReadPlan

variable {memory : Memory}

/-- Where the pieces of a variable begin among those of all variables. -/
def offset (plan : ReadPlan) (place : Nat) : Nat :=
  (plan.pieces.take place).flatten.length

theorem flatMap_data {pieces : List VarSpec} {items : List DataItem}
    (answered : List.Forall₂ memory.Answers pieces items) :
    ((pieces.zip items).flatMap fun answer => answer.2.data)
      = pieces.flatMap memory.read := by
  induction answered with
  | nil => rfl
  | cons answers _ inductionHypothesis =>
      rw [List.zip_cons_cons, List.flatMap_cons, List.flatMap_cons,
        inductionHypothesis, answers.data_eq]

/-- Answers that all succeeded merge to their bytes, under the variable type of
the first. -/
theorem mergeOne_zip {first : VarSpec} {others : List VarSpec}
    {item : DataItem} {items : List DataItem}
    (answered :
      List.Forall₂ memory.Answers (first :: others) (item :: items)) :
    mergeOne ((first :: others).zip (item :: items))
      = .ok
        { returnCode := .success
          variableType := item.variableType
          data := (first :: others).flatMap memory.read } := by
  have each : ∀ answer ∈ (first :: others).zip (item :: items),
      memory.Answers answer.1 answer.2 :=
    fun answer member => List.forall₂_zip answered member
  have noneFailed : ((first :: others).zip (item :: items)).find?
      (fun answer => !answer.2.returnCode.isSuccess) = none := by
    refine List.find?_eq_none.2 fun answer member => ?_
    rw [(each answer member).succeeded]
    decide
  have lengths : ((first :: others).zip (item :: items)).all
      (fun answer => answer.2.data.length == answer.1.byteLength) = true := by
    refine List.all_eq_true.2 fun answer member => ?_
    rw [(each answer member).data_eq, Memory.length_read]
    exact beq_self_eq_true _
  unfold mergeOne
  rw [noneFailed]
  dsimp only
  rw [if_pos lengths, flatMap_data answered]
  rfl

/-- The pieces of the first group are paired with the first values. -/
theorem regroup_cons {member value : Type} (group : List member)
    (groups : List (List member)) (values : List value) :
    regroup (group :: groups) values
      = group.zip (values.take group.length)
        :: regroup groups (values.drop group.length) := by
  have bounded : (group.zip values).length ≤ group.length := by
    rw [List.length_zip]
    exact Nat.min_le_left _ _
  have same : group.zip values = group.zip (values.take group.length) := by
    rw [← List.take_of_length_le bounded, List.zip, List.take_zipWith,
      List.take_length]
  rw [regroup, same]

/-- What came of reading each variable, if its pieces were answered. -/
theorem exists_results {chunk : Nat} {specs : List VarSpec}
    {groups : List (List VarSpec)} {items : List DataItem}
    (cut : List.Forall₂ (fun spec pieces => spec.pieces chunk = .ok pieces)
      specs groups)
    (answered : List.Forall₂ memory.Answers groups.flatten items) :
    ∃ results,
      (regroup groups items).mapM mergeOne = .ok results
        ∧ results.length = specs.length
        ∧ ∀ place spec, specs[place]? = some spec →
          ∃ first others item,
            spec.pieces chunk = .ok (first :: others)
              ∧ groups.flatten[(groups.take place).flatten.length]?
                = some first
              ∧ items[(groups.take place).flatten.length]? = some item
              ∧ results[place]?
                = some
                  { returnCode := .success
                    variableType := item.variableType
                    data := memory.read spec } := by
  -- The answers to the first variable are a prefix of all answers, as long as
  -- its pieces, and the induction goes on behind it.
  induction cut generalizing items with
  | nil => exact ⟨[], rfl, rfl, by simp⟩
  | @cons spec group specs groups isCut cut inductionHypothesis =>
      obtain ⟨first, others, rfl⟩ :=
        List.exists_cons_of_ne_nil (VarSpec.pieces_ne_nil isCut)
      have own := List.forall₂_take (first :: others).length answered
      have rest := List.forall₂_drop (first :: others).length answered
      rw [List.flatten_cons, List.take_left] at own
      rw [List.flatten_cons, List.drop_left] at rest
      obtain ⟨results, merged, count, each⟩ := inductionHypothesis rest
      cases ownItems : items.take (first :: others).length with
      | nil =>
          rw [ownItems] at own
          cases own
      | cons item later =>
          rw [ownItems] at own
          have bytes : (first :: others).flatMap memory.read
              = memory.read spec := by
            rw [Memory.flatMap_read (VarSpec.consecutive_pieces isCut),
              VarSpec.stop, Nat.add_sub_cancel_left]
            rfl
          have mergedOwn := mergeOne_zip own
          rw [bytes] at mergedOwn
          refine
            ⟨{ returnCode := .success
               variableType := item.variableType
               data := memory.read spec } :: results, ?_, ?_, ?_⟩
          · rw [regroup_cons, ownItems, List.mapM_cons, mergedOwn, merged]
            rfl
          · rw [List.length_cons, List.length_cons, count]
          · intro place other isOther
            cases place with
            | zero =>
                cases Option.some.inj isOther
                refine ⟨first, others, item, isCut, rfl, ?_, rfl⟩
                have head := congrArg List.head? ownItems
                rwa [List.head?_take, if_neg (by simp),
                  List.head?_eq_getElem?] at head
            | succ place =>
                obtain ⟨otherFirst, otherRest, answer, otherCut, found,
                  isAnswer, result⟩ := each place other isOther
                refine
                  ⟨otherFirst, otherRest, answer, otherCut, ?_, ?_, result⟩
                · rw [List.take_succ_cons, List.flatten_cons,
                    List.flatten_cons, List.length_append,
                    List.getElem?_append_right (Nat.le_add_right _ _),
                    Nat.add_sub_cancel_left, found]
                · rw [List.take_succ_cons, List.flatten_cons,
                    List.length_append, ← List.getElem?_drop, isAnswer]

variable {limits : BatchLimits} {specs : List VarSpec} {plan : ReadPlan}

theorem cut_of_ofSpecs (planned : ofSpecs limits specs = .ok plan) :
    List.Forall₂ (fun spec pieces => spec.pieces limits.readChunk = .ok pieces)
      specs plan.pieces := by
  obtain ⟨pieces, cut, isPlan⟩ := exists_of_bind_eq_ok planned
  cases Except.ok.inj isPlan
  exact forall₂_of_mapM_eq_ok cut

/-- If every piece is answered with the bytes of a memory, merging gives those
of each variable, under the variable type that came with its first piece. -/
theorem merge_answers
    (planned : ofSpecs limits specs = .ok plan)
    (memory : Memory) {replies : List (List DataItem)}
    (answered :
      List.Forall₂ (List.Forall₂ memory.Answers) plan.batches replies) :
    ∃ results,
      plan.merge replies = .ok results
        ∧ results.length = specs.length
        ∧ ∀ place spec, specs[place]? = some spec →
          ∃ first others item,
            spec.pieces limits.readChunk = .ok (first :: others)
              ∧ plan.batches.flatten[plan.offset place]? = some first
              ∧ replies.flatten[plan.offset place]? = some item
              ∧ results[place]?
                = some
                  { returnCode := .success
                    variableType := item.variableType
                    data := memory.read spec } := by
  have replyCount : replies.length = plan.batches.length :=
    answered.length_eq.symm
  have itemCounts : replies.map List.length
      = plan.batches.map List.length := by
    rw [← List.forall₂_eq_eq_eq, List.forall₂_map_left_iff,
      List.forall₂_map_right_iff]
    exact answered.flip.imp fun _ _ batch => batch.length_eq.symm
  have inOrder := List.rel_flatten answered
  rw [plan.flatten_batches] at inOrder
  obtain ⟨results, merged, count, each⟩ :=
    exists_results (cut_of_ofSpecs planned) inOrder
  refine ⟨results, ?_, count, ?_⟩
  · rw [merge, if_neg (not_not.2 replyCount), if_neg (not_not.2 itemCounts),
      map_answersTo planned itemCounts, merged]
  · rw [plan.flatten_batches]
    exact each

/-- Two variables, the first of which takes two batches and holds the second. -/
def nestedSpecs : List VarSpec :=
  [.elements .dataBlock 250 0 .byte 300, .elements .dataBlock 250 290 .int 2]

theorem merge_answers_nested :
    ∃ plan,
      ofSpecs (.ofPduSize 240 20) nestedSpecs = .ok plan
        ∧ plan.batches.map List.length = [1, 2]
        ∧ ∀ memory : Memory, ∃ results,
          plan.merge
              (plan.batches.map
                (List.map (memory.answer .byteWordDoubleWord)))
            = .ok results
          ∧ results.length = 2
          ∧ (results[1]?).map ReadResult.data
            = some (memory.get .dataBlock 250 290 4) := by
  have shape :
      (ofSpecs (.ofPduSize 240 20) nestedSpecs).map
        (fun plan => plan.batches.map List.length) = .ok [1, 2] := by
    decide +kernel
  obtain ⟨plan, planned, lengths⟩ := exists_of_map_eq_ok shape
  refine ⟨plan, planned, lengths, ?_⟩
  intro memory
  obtain ⟨results, merged, count, each⟩ :=
    merge_answers planned memory
      (memory.answers_batches _ plan.batches)
  obtain ⟨first, others, item, -, -, -, second⟩ := each 1 _ rfl
  refine ⟨results, merged, count, ?_⟩
  rw [second]
  rfl

end ReadPlan
end PlcLink
