import Mathlib
import PlcLink.Proofs.Session.Groups

/-!
# The ceiling and PDUs in a single payload

A PDU in a single payload is taken as it is. Beside this stands joining that
holds such a PDU to the ceiling like any other. The two go through the same
states, and what comes of a payload differs only where it is a whole PDU beyond
the ceiling: it is completed by the one and dropped by the other. So a PDU
beyond the ceiling is dropped however it is cut, unless it is not cut at all.
-/

namespace PlcLink
namespace Reassembler

/-! ## Joining without exception -/

/-- Take in one payload, and put it behind those of a PDU that was begun, or
behind nothing. -/
def pushChecked (reassembler : Reassembler) (payload : Bytes) (isLast : Bool) :
    Reassembler × Reassembled :=
  match reassembler.state with
  | .dropping => reassembler.push payload isLast
  | .between => reassembler.extend [] payload isLast
  | .gathering begun => reassembler.extend begun payload isLast

/-- Take in payloads one after the other, without exception. -/
def pushAllChecked (reassembler : Reassembler) :
    List (Bytes × Bool) -> Reassembler × List Reassembled
  | [] => (reassembler, [])
  | (payload, isLast) :: parts =>
      let (next, outcome) := reassembler.pushChecked payload isLast
      let (final, outcomes) := next.pushAllChecked parts
      (final, outcome :: outcomes)

/-- Whether payloads end where a PDU ends, so that the next one begins
another. -/
def EndsPdu (parts : List (Bytes × Bool)) : Prop :=
  ∀ part ∈ parts.getLast?, part.2 = true

variable {ceiling : Nat} {reassembler : Reassembler} {payload pdu : Bytes}
  {isLast : Bool} {part : Bytes × Bool} {parts : List (Bytes × Bool)}

/-! ## One payload -/

theorem push_whole (between : reassembler.state = .between)
    (payload : Bytes) :
    reassembler.push payload true = (reassembler, .complete payload) := by
  unfold push
  rw [between]
  rfl

/-- Without exception, a whole PDU is completed just if it is within the
ceiling. -/
theorem pushChecked_whole (between : reassembler.state = .between)
    (payload : Bytes) :
    reassembler.pushChecked payload true
      = (reassembler,
        if reassembler.ceiling < payload.length then
          .overflow payload.length
        else
          .complete payload) := by
  obtain ⟨ceiling, state⟩ := reassembler
  cases between
  unfold pushChecked extend
  simp only [List.length_nil, Nat.zero_add, List.nil_append, if_true]
  split <;> rfl

/-- What is no whole PDU is treated alike. -/
theorem pushChecked_eq_push
    (notWhole : ¬(reassembler.state = .between ∧ isLast = true)) :
    reassembler.pushChecked payload isLast
      = reassembler.push payload isLast := by
  unfold pushChecked push
  cases state : reassembler.state with
  | dropping => rfl
  | gathering begun => rfl
  | between =>
      have begins : ¬isLast = true := fun isLast => notWhole ⟨state, isLast⟩
      exact (if_neg begins).symm

theorem fst_pushChecked (reassembler : Reassembler) (payload : Bytes)
    (isLast : Bool) :
    (reassembler.pushChecked payload isLast).1
      = (reassembler.push payload isLast).1 := by
  by_cases whole : reassembler.state = .between ∧ isLast = true
  · obtain ⟨between, rfl⟩ := whole
    rw [push_whole between, pushChecked_whole between]
  · rw [pushChecked_eq_push whole]

/-- What comes of a payload differs just if it is a whole PDU beyond the
ceiling. -/
theorem snd_push_ne_iff (reassembler : Reassembler) (payload : Bytes)
    (isLast : Bool) :
    (reassembler.push payload isLast).2
        ≠ (reassembler.pushChecked payload isLast).2
      ↔ reassembler.state = .between ∧ isLast = true
        ∧ reassembler.ceiling < payload.length := by
  by_cases whole : reassembler.state = .between ∧ isLast = true
  · obtain ⟨between, rfl⟩ := whole
    rw [push_whole between, pushChecked_whole between]
    dsimp only
    split
    · rename_i beyond
      exact iff_of_true Reassembled.noConfusion ⟨between, rfl, beyond⟩
    · rename_i fits
      exact iff_of_false (fun differs => differs rfl)
        fun whole => fits whole.2.2
  · rw [pushChecked_eq_push whole]
    simp only [ne_eq, not_true_eq_false, false_iff]
    rintro ⟨between, isLast, -⟩
    exact whole ⟨between, isLast⟩

theorem length_le_of_extend {begun : Bytes}
    (completed :
      (reassembler.extend begun payload isLast).2 = .complete pdu) :
    pdu.length ≤ reassembler.ceiling := by
  unfold extend at completed
  dsimp only at completed
  split at completed
  · cases completed
  · rename_i fits
    split at completed
    · cases completed
      rw [List.length_append]
      exact Nat.not_lt.1 fits
    · cases completed

/-- Without exception, every PDU is within the ceiling. -/
theorem length_le_of_pushChecked
    (completed :
      (reassembler.pushChecked payload isLast).2 = .complete pdu) :
    pdu.length ≤ reassembler.ceiling := by
  unfold pushChecked at completed
  cases state : reassembler.state with
  | dropping =>
      rw [state] at completed
      unfold push at completed
      rw [state] at completed
      cases completed
  | between =>
      rw [state] at completed
      exact length_le_of_extend completed
  | gathering begun =>
      rw [state] at completed
      exact length_le_of_extend completed

/-! ## Runs -/

theorem fst_pushAllChecked (reassembler : Reassembler)
    (parts : List (Bytes × Bool)) :
    (reassembler.pushAllChecked parts).1 = (reassembler.pushAll parts).1 := by
  induction parts generalizing reassembler with
  | nil => rfl
  | cons part parts inductionHypothesis =>
      rw [pushAllChecked, pushAll]
      dsimp only
      rw [fst_pushChecked, inductionHypothesis]

/-- A payload that is not the last of its PDU leaves something to wait for. -/
theorem state_push_begun (reassembler : Reassembler) (payload : Bytes) :
    (reassembler.push payload false).1.state ≠ .between := by
  have extended : ∀ begun,
      (reassembler.extend begun payload false).1.state ≠ .between := by
    intro begun
    unfold extend
    dsimp only
    split <;> simp
  unfold push
  cases reassembler.state with
  | dropping => simp
  | between => exact extended []
  | gathering begun => exact extended begun

/-- A reassembler stands between two PDUs just if the payloads so far end where
a PDU ends. -/
theorem state_pushAll_empty (ceiling : Nat) (parts : List (Bytes × Bool)) :
    ((empty ceiling).pushAll parts).1.state = .between ↔ EndsPdu parts := by
  induction parts using List.reverseRecOn with
  | nil =>
      simp only [EndsPdu, List.getLast?_nil]
      exact ⟨fun _ _ member => (nomatch member), fun _ => rfl⟩
  | append_singleton parts part _ =>
      obtain ⟨payload, isLast⟩ := part
      simp only [EndsPdu, List.getLast?_concat, Option.mem_some_iff,
        forall_eq', fst_pushAll_append]
      cases isLast with
      | true =>
          have ended := congrArg Reassembler.state
            (push_last ((empty ceiling).pushAll parts).1 payload)
          exact iff_of_true ended rfl
      | false =>
          exact iff_of_false
            (state_push_begun ((empty ceiling).pushAll parts).1 payload)
            Bool.false_ne_true

/-- Joining compared with joining without exception, at one payload behind
others. -/
structure Compares (ceiling : Nat) (before : List (Bytes × Bool))
    (payload : Bytes) (isLast : Bool)
    (reached reachedChecked : Reassembler) : Prop where
  sameBefore : reachedChecked = reached
  sameAfter : (reachedChecked.pushChecked payload isLast).1
    = (reached.push payload isLast).1
  /-- The outcomes differ just at a whole PDU beyond the ceiling. -/
  differs_iff :
    (reached.push payload isLast).2
        ≠ (reachedChecked.pushChecked payload isLast).2
      ↔ EndsPdu before ∧ isLast = true ∧ ceiling < payload.length
  /-- A whole PDU is completed, whatever its length. -/
  whole : EndsPdu before -> isLast = true ->
    (reached.push payload isLast).2 = .complete payload
  /-- Every other PDU is within the ceiling. -/
  within : ∀ pdu, (reached.push payload isLast).2 = .complete pdu ->
    pdu.length ≤ ceiling ∨ EndsPdu before ∧ isLast = true ∧ pdu = payload
  /-- Without exception, every PDU is. -/
  withinChecked : ∀ pdu,
    (reachedChecked.pushChecked payload isLast).2 = .complete pdu ->
      pdu.length ≤ ceiling

theorem compares (ceiling : Nat) (before : List (Bytes × Bool))
    (payload : Bytes) (isLast : Bool) :
    Compares ceiling before payload isLast
      ((empty ceiling).pushAll before).1
      ((empty ceiling).pushAllChecked before).1 := by
  rw [fst_pushAllChecked]
  have stands := state_pushAll_empty ceiling before
  have sameCeiling := ceiling_pushAll (empty ceiling) before
  generalize ((empty ceiling).pushAll before).1 = reached
    at stands sameCeiling
  have isCeiling : reached.ceiling = ceiling := sameCeiling
  have differs := snd_push_ne_iff reached payload isLast
  have checked : ∀ pdu,
      (reached.pushChecked payload isLast).2 = .complete pdu ->
        pdu.length ≤ ceiling := by
    intro pdu completed
    rw [← isCeiling]
    exact length_le_of_pushChecked completed
  have whole : EndsPdu before -> isLast = true ->
      (reached.push payload isLast).2 = .complete payload := by
    rintro ended rfl
    rw [push_whole (stands.2 ended)]
  rw [stands, isCeiling] at differs
  refine ⟨rfl, fst_pushChecked _ _ _, differs, whole, ?_, checked⟩
  intro pdu completed
  by_cases same : (reached.push payload isLast).2
      = (reached.pushChecked payload isLast).2
  · exact .inl (checked pdu (same ▸ completed))
  · obtain ⟨ended, isLast, -⟩ := differs.1 same
    have isWhole := (whole ended isLast).symm.trans completed
    exact .inr ⟨ended, isLast, (Reassembled.complete.inj isWhole).symm⟩

/-! ## One PDU in different pieces -/

theorem pdu?_of_overflowing {count place length : Nat} :
    (overflowing count place length).filterMap Reassembled.pdu? = [] := by
  rw [List.filterMap_eq_nil_iff]
  intro outcome member
  obtain isPending | rfl := List.mem_or_eq_of_mem_set member
  · rw [List.eq_of_mem_replicate isPending]
    rfl
  · rfl

/-- A PDU is completed if it is within the ceiling or not cut, and else it is
dropped. -/
theorem pdus_pushAll_marked {pieces : List Bytes} (nonempty : pieces ≠ []) :
    ((empty ceiling).pushAll (marked pieces)).2.filterMap Reassembled.pdu?
      = if pieces.flatten.length ≤ ceiling ∨ pieces.length = 1 then
          [pieces.flatten]
        else
          [] := by
  have answers : AnswersGroup ceiling pieces
      ((empty ceiling).pushAll (marked pieces)).2 := answersGroup nonempty
  split
  · rename_i fits
    rw [answers.completes fits, joining, List.filterMap_append]
    simp [Reassembled.pdu?]
  · rename_i exceeds
    push Not at exceeds
    have several : 2 ≤ pieces.length := by
      have positive := List.length_pos_iff.2 nonempty
      omega
    obtain ⟨place, -, outcomes⟩ := answers.overflows several exceeds.1
    rw [outcomes, pdu?_of_overflowing]

/-- A PDU in several pieces is treated alike. -/
theorem pushAllChecked_eq_pushAll (inGroup : InOneGroup (part :: parts))
    (notWhole : ¬(reassembler.state = .between ∧ part.2 = true)) :
    reassembler.pushAllChecked (part :: parts)
      = reassembler.pushAll (part :: parts) := by
  induction parts generalizing reassembler part with
  | nil =>
      rw [pushAllChecked, pushAll, pushChecked_eq_push notWhole]
      rfl
  | cons second rest inductionHypothesis =>
      obtain ⟨payload, isLast⟩ := part
      have begins : isLast = false := inGroup.head (List.cons_ne_nil _ _)
      subst begins
      have waits : ¬((reassembler.push payload false).1.state = .between
          ∧ second.2 = true) :=
        fun ended => state_push_begun reassembler payload ended.1
      rw [pushAllChecked, pushAll, pushChecked_eq_push notWhole]
      simp only [inductionHypothesis inGroup.tail waits]

/-- Without exception, it does not matter how a PDU is cut. -/
theorem pdus_pushAllChecked_marked {pieces : List Bytes}
    (nonempty : pieces ≠ []) :
    ((empty ceiling).pushAllChecked (marked pieces)).2.filterMap
        Reassembled.pdu?
      = if pieces.flatten.length ≤ ceiling then [pieces.flatten] else [] := by
  cases pieces with
  | nil => exact absurd rfl nonempty
  | cons piece others =>
      by_cases single : others = []
      · subst single
        have between : (empty ceiling).state = .between := rfl
        rw [marked, pushAllChecked, pushChecked_whole between,
          List.flatten_singleton]
        by_cases beyond : ceiling < piece.length
        · have isBeyond : (empty ceiling).ceiling < piece.length := beyond
          rw [if_pos isBeyond, if_neg (Nat.not_le.2 beyond)]
          rfl
        · have isWithin : ¬(empty ceiling).ceiling < piece.length := beyond
          rw [if_neg isWithin, if_pos (Nat.not_lt.1 beyond)]
          rfl
      · have several : (piece :: others).length ≠ 1 := by
          rw [List.length_cons, ne_eq, Nat.add_eq_right,
            List.length_eq_zero_iff]
          exact single
        have alike :
            (empty ceiling).pushAllChecked (marked (piece :: others))
              = (empty ceiling).pushAll (marked (piece :: others)) := by
          have inGroup := inOneGroup_marked (piece :: others)
          rw [marked_cons piece single] at inGroup ⊢
          exact pushAllChecked_eq_pushAll inGroup fun whole =>
            Bool.false_ne_true whole.2
        rw [alike, pdus_pushAll_marked nonempty]
        simp only [several, or_false]

/-- Every payload is treated as if joining made no exception, but for those that
are a whole PDU beyond the ceiling. Just these make PDUs beyond the ceiling
arrive, and so a PDU arrives if it is within the ceiling or if it is not cut. -/
theorem completes_whole_or_within (ceiling : Nat) :
    (∀ before payload isLast,
      Compares ceiling before payload isLast
        ((empty ceiling).pushAll before).1
        ((empty ceiling).pushAllChecked before).1)
      ∧ ∀ pieces : List Bytes, pieces ≠ [] ->
        ((empty ceiling).pushAll (marked pieces)).2.filterMap
            Reassembled.pdu?
          = (if pieces.flatten.length ≤ ceiling ∨ pieces.length = 1 then
              [pieces.flatten]
            else
              [])
        ∧ ((empty ceiling).pushAllChecked (marked pieces)).2.filterMap
            Reassembled.pdu?
          = if pieces.flatten.length ≤ ceiling then
              [pieces.flatten]
            else
              [] :=
  ⟨compares ceiling,
    fun _ nonempty =>
      ⟨pdus_pushAll_marked nonempty, pdus_pushAllChecked_marked nonempty⟩⟩

/-- A PDU of one byte too many arrives whole, and is dropped if it is cut. -/
theorem exists_complete_beyond :
    ∃ pdu : Bytes, 240 < pdu.length
      ∧ ((empty 240).pushAll [(pdu, true)]).2 = [.complete pdu]
      ∧ ((empty 240).pushAllChecked [(pdu, true)]).2
        = [.overflow pdu.length]
      ∧ ((empty 240).pushAll [(pdu.take 240, false), (pdu.drop 240, true)]).2
        = [.pending, .overflow pdu.length] :=
  ⟨List.replicate 241 0, by decide +kernel, rfl, by decide +kernel,
    by decide +kernel⟩

end Reassembler
end PlcLink
