import Mathlib
import PlcLink.Planning.Plan
import PlcLink.Proofs.Failure

/-!
# Slots of packed pieces

The slots that are noted while pieces are packed are those of the batches that
come of it, each once and in order. So the replies in the slots of a variable's
pieces are those to its pieces, wherever the batches were cut.
-/

namespace PlcLink
namespace Slot

variable {value : Type}

/-- The slots of batches, in order, with so many batches ahead of them. -/
def all (ahead : Nat) : List (List value) -> List Slot
  | [] => []
  | batch :: batches =>
      (List.range batch.length).map (Slot.mk ahead) ++ all (ahead + 1) batches

theorem all_cons (ahead : Nat) (batch : List value)
    (batches : List (List value)) :
    all ahead (batch :: batches)
      = (List.range batch.length).map (Slot.mk ahead)
        ++ all (ahead + 1) batches := rfl

/-- Which slots there are depends on the lengths of the batches alone. -/
theorem all_congr {other : Type} {ahead : Nat} {batches : List (List value)}
    {others : List (List other)}
    (same : batches.map List.length = others.map List.length) :
    all ahead batches = all ahead others := by
  induction batches generalizing ahead others with
  | nil =>
      obtain rfl := List.map_eq_nil_iff.1 same.symm
      rfl
  | cons batch batches inductionHypothesis =>
      obtain ⟨second, rest, rfl, length, lengths⟩ :=
        List.map_eq_cons_iff.1 same.symm
      rw [all_cons, all_cons, length, inductionHypothesis lengths.symm]

/-- What stands in the slots is what the batches hold. -/
theorem map_find?_all (ahead batches : List (List value)) :
    (all ahead.length batches).map (fun slot => slot.find? (ahead ++ batches))
      = batches.flatten.map some := by
  induction batches generalizing ahead with
  | nil => rfl
  | cons batch batches inductionHypothesis =>
      have inBatch : (List.range batch.length).map
          ((fun slot => slot.find? (ahead ++ batch :: batches))
            ∘ Slot.mk ahead.length)
          = batch.map some := by
        apply List.ext_getElem
        · simp
        · intro index inRange inBatch
          simp only [List.length_map] at inBatch
          simp [find?, inBatch]
      have behind := inductionHypothesis (ahead ++ [batch])
      rw [List.length_append, List.length_singleton, List.append_assoc,
        List.singleton_append] at behind
      rw [all_cons, List.map_append, List.map_map, inBatch, behind,
        List.flatten_cons, List.map_append]

theorem mem_all {ahead : Nat} {batches : List (List value)} {slot : Slot} :
    slot ∈ all ahead batches ↔
      ahead ≤ slot.batch
        ∧ ({ slot with batch := slot.batch - ahead }.find? batches).isSome := by
  induction batches generalizing ahead with
  | nil => simp [all, find?]
  | cons batch batches inductionHypothesis =>
      rw [all_cons, List.mem_append, inductionHypothesis, List.mem_map]
      obtain ⟨place, index⟩ := slot
      simp only [List.mem_range, mk.injEq]
      obtain before | rfl | behind := Nat.lt_trichotomy place ahead
      · constructor
        · rintro (⟨_, _, rfl, _⟩ | ⟨beyond, _⟩) <;> omega
        · rintro ⟨notBefore, _⟩
          omega
      · simp [find?]
      · have further : place - ahead = place - (ahead + 1) + 1 := by omega
        have reached : ahead + 1 ≤ place ∧ ahead ≤ place := by omega
        simp [find?, further, reached, behind.ne]

theorem nodup_all (ahead : Nat) (batches : List (List value)) :
    (all ahead batches).Nodup := by
  induction batches generalizing ahead with
  | nil => exact List.nodup_nil
  | cons batch batches inductionHypothesis =>
      rw [all_cons, List.nodup_append']
      refine ⟨?_, inductionHypothesis (ahead + 1), ?_⟩
      · exact List.nodup_range.map fun _ _ same => congrArg Slot.index same
      · intro slot inBatch inOthers
        obtain ⟨index, -, rfl⟩ := List.mem_map.1 inBatch
        have further : ahead + 1 ≤ ahead := (mem_all.1 inOthers).1
        omega

end Slot

section

variable {piece value : Type} {fits : BatchSize -> piece -> Bool}
  {add : BatchSize -> piece -> BatchSize}

/-- The slots of the pieces in the batch begun and those noted behind them are
all slots of the batches. -/
theorem range_append_slotsBehind (ahead : Nat) (begun : List piece)
    (size : BatchSize) (others : List piece) :
    (List.range begun.length).map (Slot.mk ahead)
        ++ slotsBehind fits add { batch := ahead, index := begun.length } size
          others
      = Slot.all ahead (packBehind fits add begun size others) := by
  induction others generalizing ahead begun size with
  | nil =>
      rw [slotsBehind, packBehind, List.append_nil]
      cases begun with
      | nil => rfl
      | cons first rest => exact (List.append_nil _).symm
  | cons next others inductionHypothesis =>
      have isEmpty : begun.isEmpty = (begun.length == 0) := by
        cases begun <;> rfl
      rw [slotsBehind, packBehind, isEmpty]
      split
      · rw [← inductionHypothesis ahead (begun ++ [next]), List.length_append,
          List.length_singleton, List.range_succ, List.map_append,
          List.append_assoc]
        rfl
      · rw [Slot.all_cons, ← inductionHypothesis (ahead + 1) [next]]
        rfl

/-- The slots that are noted while pieces are packed are those of the
batches. -/
theorem slotsBehind_eq_all (pieces : List piece) :
    slotsBehind fits add .first .empty pieces
      = Slot.all 0 (packBehind fits add [] .empty pieces) :=
  range_append_slotsBehind 0 [] .empty pieces

/-- Grouping changes nothing in the order. -/
theorem flatten_regroup {member : Type} (groups : List (List member))
    (values : List value) :
    (regroup groups values).flatten = groups.flatten.zip values := by
  induction groups generalizing values with
  | nil => rfl
  | cons group groups inductionHypothesis =>
      rw [regroup, List.flatten_cons, List.flatten_cons, inductionHypothesis]
      induction group generalizing values with
      | nil => rfl
      | cons first rest extend =>
          cases values with
          | nil => simp
          | cons value values =>
              rw [List.zip_cons_cons, List.cons_append, List.cons_append,
                List.zip_cons_cons, ← extend, List.length_cons,
                List.drop_succ_cons]

/-- Members that are paired with values are still there in their groups. -/
theorem map_fst_regroup {member : Type} (groups : List (List member))
    {values : List value} (enough : groups.flatten.length ≤ values.length) :
    (regroup groups values).map (List.map Prod.fst) = groups := by
  induction groups generalizing values with
  | nil => rfl
  | cons group groups inductionHypothesis =>
      rw [List.flatten_cons, List.length_append] at enough
      rw [regroup, List.map_cons, List.map_fst_zip (by omega),
        inductionHypothesis (by rw [List.length_drop]; omega)]

theorem answersTo_cons {replies : List (List value)}
    {fragment : Fragment piece} {fragments : List (Fragment piece)}
    {answer : value} (found : fragment.2.find? replies = some answer) :
    answersTo replies (fragment :: fragments)
      = (fragment.1, answer) :: answersTo replies fragments := by
  simp [answersTo, found]

theorem answersTo_zip {replies : List (List value)} {pieces : List piece}
    {slots : List Slot} {values : List value}
    (found : slots.map (fun slot => slot.find? replies) = values.map some) :
    answersTo replies (pieces.zip slots) = pieces.zip values := by
  induction pieces generalizing slots values with
  | nil => rfl
  | cons piece pieces inductionHypothesis =>
      cases slots with
      | nil =>
          obtain rfl := List.map_eq_nil_iff.1 found.symm
          rfl
      | cons slot slots =>
          obtain ⟨value, rest, rfl, isValue, areRest⟩ :=
            List.map_eq_cons_iff.1 found.symm
          rw [List.zip_cons_cons, answersTo_cons isValue.symm,
            inductionHypothesis areRest.symm, List.zip_cons_cons]

theorem map_answersTo_regroup {replies : List (List value)}
    (groups : List (List piece)) {slots : List Slot} {values : List value}
    (found : slots.map (fun slot => slot.find? replies) = values.map some) :
    (regroup groups slots).map (answersTo replies) = regroup groups values := by
  induction groups generalizing slots values with
  | nil => rfl
  | cons group groups inductionHypothesis =>
      have behind : (slots.drop group.length).map
          (fun slot => slot.find? replies)
          = (values.drop group.length).map some := by
        rw [List.map_drop, found, List.map_drop]
      rw [regroup, List.map_cons, answersTo_zip found,
        inductionHypothesis behind, regroup]

/-- If every batch is answered by as many values as it has pieces, the values
in the slots of the groups are the values in order. -/
theorem map_answersTo_slotsBehind {groups : List (List piece)}
    {replies : List (List value)}
    (same : replies.map List.length
      = (packBehind fits add [] .empty groups.flatten).map List.length) :
    (regroup groups (slotsBehind fits add .first .empty groups.flatten)).map
        (answersTo replies)
      = regroup groups replies.flatten := by
  apply map_answersTo_regroup
  rw [slotsBehind_eq_all, ← Slot.all_congr same]
  exact Slot.map_find?_all [] replies

end

/-- If every batch is answered by as many items as it has pieces, the answers to
the pieces of the variables are the items in order. -/
theorem ReadPlan.map_answersTo {limits : BatchLimits} {specs : List VarSpec}
    {plan : ReadPlan} (planned : ofSpecs limits specs = .ok plan)
    {replies : List (List DataItem)}
    (same : replies.map List.length = plan.batches.map List.length) :
    plan.fragments.map (answersTo replies)
      = regroup plan.pieces replies.flatten := by
  obtain ⟨pieces, -, isPlan⟩ := exists_of_bind_eq_ok planned
  cases Except.ok.inj isPlan
  exact map_answersTo_slotsBehind same

end PlcLink
