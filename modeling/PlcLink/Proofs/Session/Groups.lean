import Mathlib
import PlcLink.Proofs.Session.Transfer

/-!
# Payloads in groups

The marks of payloads divide them into groups, one for each PDU. What comes of a
group is a matter of its own payloads only: together they are a PDU below the
ceiling, or the first of them that is beyond it makes the whole group useless.
-/

namespace PlcLink

/-! ## Lengths of groups -/

/-- Bytes of the payloads up to a place, with the one at that place. -/
def lengthUpTo (payloads : List Bytes) (place : Nat) : Nat :=
  (payloads.take (place + 1)).flatten.length

@[simp] theorem lengthUpTo_cons_zero (payload : Bytes)
    (payloads : List Bytes) :
    lengthUpTo (payload :: payloads) 0 = payload.length := by
  simp [lengthUpTo]

@[simp] theorem lengthUpTo_cons_succ (payload : Bytes)
    (payloads : List Bytes) (place : Nat) :
    lengthUpTo (payload :: payloads) (place + 1)
      = payload.length + lengthUpTo payloads place := by
  simp [lengthUpTo]

/-- The place at which payloads come to more bytes than the ceiling for the
first time. -/
structure FirstBeyond (ceiling : Nat) (payloads : List Bytes) (place : Nat) :
    Prop where
  inGroup : place < payloads.length
  beyond : ceiling < lengthUpTo payloads place
  notBefore : ∀ earlier < place, lengthUpTo payloads earlier ≤ ceiling

theorem FirstBeyond.zero {ceiling : Nat} {payload : Bytes}
    (beyond : ceiling < payload.length) (payloads : List Bytes) :
    FirstBeyond ceiling (payload :: payloads) 0 where
  inGroup := Nat.zero_lt_succ _
  beyond := by rwa [lengthUpTo_cons_zero]
  notBefore := by simp

theorem FirstBeyond.succ {ceiling place : Nat} {payload : Bytes}
    {payloads : List Bytes} (fits : payload.length ≤ ceiling)
    (first : FirstBeyond (ceiling - payload.length) payloads place) :
    FirstBeyond ceiling (payload :: payloads) (place + 1) where
  inGroup := Nat.succ_lt_succ first.inGroup
  beyond := by
    have beyond := first.beyond
    rw [lengthUpTo_cons_succ]
    omega
  notBefore := by
    intro earlier isEarlier
    cases earlier with
    | zero => rwa [lengthUpTo_cons_zero]
    | succ earlier =>
        have notBefore :=
          first.notBefore earlier (Nat.lt_of_succ_lt_succ isEarlier)
        rw [lengthUpTo_cons_succ]
        omega

namespace Reassembler

/-! ## Runs in parts -/

theorem snd_pushAll_append (reassembler : Reassembler)
    (first second : List (Bytes × Bool)) :
    (reassembler.pushAll (first ++ second)).2
      = (reassembler.pushAll first).2
        ++ ((reassembler.pushAll first).1.pushAll second).2 := by
  rw [pushAll_append]

theorem fst_pushAll_append (reassembler : Reassembler)
    (first second : List (Bytes × Bool)) :
    (reassembler.pushAll (first ++ second)).1
      = ((reassembler.pushAll first).1.pushAll second).1 := by
  rw [pushAll_append]

theorem ceiling_pushAll (reassembler : Reassembler)
    (parts : List (Bytes × Bool)) :
    (reassembler.pushAll parts).1.ceiling = reassembler.ceiling := by
  induction parts generalizing reassembler with
  | nil => rfl
  | cons part parts inductionHypothesis =>
      rw [pushAll]
      exact (inductionHypothesis _).trans (ceiling_push _ _ _)

/-- A last payload ends whatever went on before it. -/
theorem push_last (reassembler : Reassembler) (payload : Bytes) :
    (reassembler.push payload true).1 = empty reassembler.ceiling := by
  obtain ⟨ceiling, state⟩ := reassembler
  cases state with
  | between => rfl
  | dropping => rfl
  | gathering begun =>
      rw [push_gathering, extend]
      dsimp only
      split <;> rfl

theorem pushAll_last (reassembler : Reassembler)
    (before : List (Bytes × Bool)) (payload : Bytes) :
    (reassembler.pushAll (before ++ [(payload, true)])).1
      = empty reassembler.ceiling := by
  rw [fst_pushAll_append, ← ceiling_pushAll reassembler before]
  exact push_last _ payload

/-! ## One group -/

/-- Payloads of one group: only the last of them may be marked. -/
def InOneGroup (parts : List (Bytes × Bool)) : Prop :=
  ∀ part ∈ parts.dropLast, part.2 = false

/-- What comes of payloads of which one is beyond the ceiling, and the others
wait or are dropped. -/
def overflowing (count place length : Nat) : List Reassembled :=
  (List.replicate count .pending).set place (.overflow length)

variable {ceiling : Nat} {begun : Bytes} {part : Bytes × Bool}
  {parts : List (Bytes × Bool)}

theorem InOneGroup.tail (inGroup : InOneGroup (part :: parts)) :
    InOneGroup parts := by
  intro other member
  apply inGroup
  cases parts with
  | nil => cases member
  | cons second rest => exact List.mem_cons_of_mem _ member

theorem InOneGroup.head (inGroup : InOneGroup (part :: parts))
    (several : parts ≠ []) : part.2 = false := by
  apply inGroup
  rw [List.dropLast_cons_of_ne_nil several]
  exact List.mem_cons_self

theorem inOneGroup_begun (payloads : List Bytes) :
    InOneGroup (payloads.map fun payload => (payload, false)) := by
  intro part member
  obtain ⟨payload, -, rfl⟩ :=
    List.mem_map.1 (List.mem_of_mem_dropLast member)
  rfl

theorem inOneGroup_marked (payloads : List Bytes) :
    InOneGroup (marked payloads) := by
  induction payloads using marked.induct with
  | case1 => simp [InOneGroup, marked]
  | case2 last => simp [InOneGroup, marked]
  | case3 payload others several inductionHypothesis =>
      rw [marked_cons payload several, InOneGroup,
        List.dropLast_cons_of_ne_nil, List.forall_mem_cons]
      · exact ⟨rfl, inductionHypothesis⟩
      · intro isNil
        have payloads := map_fst_marked others
        rw [isNil] at payloads
        exact several payloads.symm

/-- The rest of a group that is dropped. -/
theorem pushAll_dropping (inGroup : InOneGroup parts) :
    (pushAll { ceiling, state := .dropping } parts).2
      = List.replicate parts.length .pending := by
  induction parts with
  | nil => rfl
  | cons part parts inductionHypothesis =>
      rw [List.length_cons, List.replicate_succ]
      cases parts with
      | nil => rfl
      | cons second rest =>
          obtain ⟨payload, isLast⟩ := part
          have notLast : isLast = false :=
            inGroup.head (List.cons_ne_nil _ _)
          subst notLast
          rw [← inductionHypothesis inGroup.tail]
          rfl

/-- The rest of a group that goes beyond the ceiling. -/
theorem pushAll_beyond (inGroup : InOneGroup parts)
    (begunFits : begun.length ≤ ceiling)
    (beyond :
      ceiling < begun.length + (parts.map Prod.fst).flatten.length) :
    ∃ place,
      FirstBeyond (ceiling - begun.length) (parts.map Prod.fst) place
        ∧ (pushAll { ceiling, state := .gathering begun } parts).2
          = overflowing parts.length place
            (begun.length + lengthUpTo (parts.map Prod.fst) place) := by
  induction parts generalizing begun with
  | nil =>
      simp only [List.map_nil, List.flatten_nil, List.length_nil] at beyond
      omega
  | cons part parts inductionHypothesis =>
      obtain ⟨payload, isLast⟩ := part
      simp only [List.map_cons, List.flatten_cons, List.length_append] at beyond
      by_cases here : ceiling < begun.length + payload.length
      · have firstBeyond : ceiling - begun.length < payload.length := by omega
        refine ⟨0, .zero firstBeyond _, ?_⟩
        have pushed : push { ceiling, state := .gathering begun } payload isLast
            = ({ ceiling, state := if isLast then .between else .dropping },
              .overflow (begun.length + payload.length)) := by
          rw [push_gathering, extend]
          exact if_pos here
        rw [pushAll, pushed, overflowing, List.map_cons, lengthUpTo_cons_zero,
          List.length_cons, List.replicate_succ, List.set_cons_zero]
        cases parts with
        | nil => rfl
        | cons second rest =>
            have notLast : isLast = false :=
              inGroup.head (List.cons_ne_nil _ _)
            subst notLast
            rw [← pushAll_dropping inGroup.tail]
            rfl
      · -- The group goes on, for what it holds is not beyond the ceiling yet.
        have payloadFits := Nat.not_lt.1 here
        have several : parts ≠ [] := by
          rintro rfl
          simp only [List.map_nil, List.flatten_nil, List.length_nil] at beyond
          omega
        have notLast : isLast = false := inGroup.head several
        subst notLast
        have stillFits : (begun ++ payload).length ≤ ceiling := by
          rw [List.length_append]
          exact payloadFits
        have stillBeyond : ceiling < (begun ++ payload).length
            + (parts.map Prod.fst).flatten.length := by
          rw [List.length_append]
          omega
        obtain ⟨place, first, outcomes⟩ :=
          inductionHypothesis inGroup.tail stillFits stillBeyond
        rw [List.length_append] at first outcomes
        refine ⟨place + 1, ?_, ?_⟩
        · apply FirstBeyond.succ
          · exact Nat.le_sub_of_add_le' payloadFits
          · rwa [Nat.sub_sub]
        · have pushed :
              push { ceiling, state := .gathering begun } payload false
                = ({ ceiling, state := .gathering (begun ++ payload) },
                  .pending) :=
            extend_of_le payloadFits false
          rw [pushAll, pushed]
          simp only [outcomes, overflowing, List.map_cons,
            lengthUpTo_cons_succ, List.length_cons, List.replicate_succ,
            List.set_cons_succ, Nat.add_assoc]

/-- A group that goes beyond the ceiling, unless it is a single payload. -/
theorem pushAll_empty_beyond (inGroup : InOneGroup parts)
    (notSingle : ∀ payload, parts ≠ [(payload, true)])
    (beyond : ceiling < (parts.map Prod.fst).flatten.length) :
    ∃ place,
      FirstBeyond ceiling (parts.map Prod.fst) place
        ∧ ((empty ceiling).pushAll parts).2
          = overflowing parts.length place
            (lengthUpTo (parts.map Prod.fst) place) := by
  cases parts with
  | nil => cases beyond
  | cons part parts =>
      obtain ⟨payload, isLast⟩ := part
      have notLast : isLast = false := by
        cases isLast with
        | false => rfl
        | true =>
            apply inGroup.head
            rintro rfl
            exact notSingle payload rfl
      subst notLast
      have nothing : ([] : Bytes).length ≤ ceiling := Nat.zero_le _
      obtain ⟨place, first, outcomes⟩ :=
        pushAll_beyond inGroup nothing (by simpa using beyond)
      refine ⟨place, first, ?_⟩
      rw [List.length_nil, Nat.zero_add] at outcomes
      exact outcomes

/-- The beginning of a group below the ceiling. -/
theorem pushAll_begun {payloads : List Bytes}
    (fits : begun.length + payloads.flatten.length ≤ ceiling) :
    (pushAll { ceiling, state := .gathering begun }
        (payloads.map fun payload => (payload, false))).2
      = List.replicate payloads.length .pending := by
  induction payloads generalizing begun with
  | nil => rfl
  | cons payload payloads inductionHypothesis =>
      rw [List.flatten_cons, List.length_append] at fits
      have pushed : push { ceiling, state := .gathering begun } payload false
          = ({ ceiling, state := .gathering (begun ++ payload) }, .pending) :=
        extend_of_le (by dsimp only; omega) false
      have restFits :
          (begun ++ payload).length + payloads.flatten.length ≤ ceiling := by
        rw [List.length_append]
        omega
      rw [List.map_cons, pushAll, pushed, List.length_cons,
        List.replicate_succ]
      simp only [inductionHypothesis restFits]

/-! ## Groups of payloads -/

/-- What comes of the payloads of one group. -/
structure AnswersGroup (ceiling : Nat) (payloads : List Bytes)
    (outcomes : List Reassembled) : Prop where
  /-- Below the ceiling, or in a single payload, the group is a PDU. -/
  completes : payloads.flatten.length ≤ ceiling ∨ payloads.length = 1 ->
    outcomes = joining payloads payloads.flatten
  /-- Beyond the ceiling it is dropped, with one report at the first payload
  that is beyond. -/
  overflows : 2 ≤ payloads.length -> ceiling < payloads.flatten.length ->
    ∃ place, FirstBeyond ceiling payloads place
      ∧ outcomes
        = overflowing payloads.length place (lengthUpTo payloads place)

/-- What comes of the payloads of a group that has not ended yet. -/
structure AnswersBegun (ceiling : Nat) (payloads : List Bytes)
    (outcomes : List Reassembled) : Prop where
  waits : payloads.flatten.length ≤ ceiling ->
    outcomes = List.replicate payloads.length .pending
  overflows : ceiling < payloads.flatten.length ->
    ∃ place, FirstBeyond ceiling payloads place
      ∧ outcomes
        = overflowing payloads.length place (lengthUpTo payloads place)

theorem length_marked (payloads : List Bytes) :
    (marked payloads).length = payloads.length := by
  rw [← List.length_map Prod.fst, map_fst_marked]

theorem answersGroup {payloads : List Bytes} (nonempty : payloads ≠ []) :
    AnswersGroup ceiling payloads
      ((empty ceiling).pushAll (marked payloads)).2 where
  completes := by
    intro fits
    rw [pushAll_marked nonempty fits]
  overflows := by
    intro several beyond
    obtain ⟨place, first, outcomes⟩ :=
      pushAll_empty_beyond (inOneGroup_marked payloads)
        (by
          intro payload single
          have length := length_marked payloads
          rw [single, List.length_singleton] at length
          omega)
        (by rwa [map_fst_marked])
    rw [map_fst_marked, length_marked] at outcomes
    rw [map_fst_marked] at first
    exact ⟨place, first, outcomes⟩

theorem answersBegun (payloads : List Bytes) :
    AnswersBegun ceiling payloads
      ((empty ceiling).pushAll
        (payloads.map fun payload => (payload, false))).2 where
  waits := by
    intro fits
    cases payloads with
    | nil => rfl
    | cons payload others =>
        have fitsBehind : ([] : Bytes).length
            + (payload :: others).flatten.length ≤ ceiling := by
          simpa using fits
        rw [← pushAll_begun fitsBehind]
        rfl
  overflows := by
    intro beyond
    have payloadsAgain :
        (payloads.map fun payload => (payload, false)).map Prod.fst
          = payloads := by
      rw [List.map_map]
      exact List.map_id payloads
    obtain ⟨place, first, outcomes⟩ :=
      pushAll_empty_beyond (inOneGroup_begun payloads)
        (by
          intro payload single
          have member : (payload, true)
              ∈ payloads.map fun payload => (payload, false) := by
            rw [single]
            exact List.mem_cons_self
          simp at member)
        (by rwa [payloadsAgain])
    rw [payloadsAgain, List.length_map] at outcomes
    rw [payloadsAgain] at first
    exact ⟨place, first, outcomes⟩

/-- Marked payloads fall into groups, and the last group may not have ended. -/
theorem exists_groups (parts : List (Bytes × Bool)) :
    ∃ (groups : List (List Bytes)) (begun : List Bytes),
      (∀ group ∈ groups, group ≠ [])
        ∧ parts = groups.flatMap marked
          ++ begun.map fun payload => (payload, false) := by
  induction parts with
  | nil => exact ⟨[], [], by simp, rfl⟩
  | cons part parts inductionHypothesis =>
      obtain ⟨payload, isLast⟩ := part
      obtain ⟨groups, begun, nonempty, rfl⟩ := inductionHypothesis
      cases isLast with
      | true =>
          refine ⟨[payload] :: groups, begun, ?_, rfl⟩
          exact List.forall_mem_cons.2 ⟨List.cons_ne_nil _ _, nonempty⟩
      | false =>
          cases groups with
          | nil => exact ⟨[], payload :: begun, nonempty, rfl⟩
          | cons group groups =>
              obtain ⟨several, others⟩ := List.forall_mem_cons.1 nonempty
              refine ⟨(payload :: group) :: groups, begun, ?_, ?_⟩
              · exact List.forall_mem_cons.2 ⟨List.cons_ne_nil _ _, others⟩
              · rw [List.flatMap_cons, List.flatMap_cons,
                  marked_cons payload several]
                rfl

theorem exists_marked_eq {payloads : List Bytes} (nonempty : payloads ≠ []) :
    ∃ before last, marked payloads = before ++ [(last, true)] := by
  induction payloads using marked.induct with
  | case1 => exact absurd rfl nonempty
  | case2 last => exact ⟨[], last, rfl⟩
  | case3 payload others several inductionHypothesis =>
      obtain ⟨before, last, split⟩ := inductionHypothesis several
      refine ⟨(payload, false) :: before, last, ?_⟩
      rw [marked_cons payload several, split]
      rfl

theorem fst_pushAll_marked {payloads : List Bytes}
    (nonempty : payloads ≠ []) :
    ((empty ceiling).pushAll (marked payloads)).1 = empty ceiling := by
  obtain ⟨before, last, split⟩ := exists_marked_eq nonempty
  rw [split, pushAll_last]
  rfl

/-- The groups of payloads are answered one by one. -/
theorem pushAll_groups {groups : List (List Bytes)}
    (nonempty : ∀ group ∈ groups, group ≠ []) (begun : List (Bytes × Bool)) :
    ((empty ceiling).pushAll (groups.flatMap marked ++ begun)).2
      = (groups.flatMap fun group => ((empty ceiling).pushAll (marked group)).2)
        ++ ((empty ceiling).pushAll begun).2 := by
  induction groups with
  | nil => rfl
  | cons group groups inductionHypothesis =>
      obtain ⟨groupNonempty, othersNonempty⟩ := List.forall_mem_cons.1 nonempty
      rw [List.flatMap_cons, List.flatMap_cons, List.append_assoc,
        List.append_assoc, snd_pushAll_append,
        fst_pushAll_marked groupNonempty, inductionHypothesis othersNonempty]

/-- However payloads are marked, each group of them is answered as if it were
the only one, and after a last payload nothing of the past is left. -/
theorem answers_groups (ceiling : Nat) (parts : List (Bytes × Bool)) :
    (∃ (groups : List (List Bytes)) (begun : List Bytes)
        (outcomes : List (List Reassembled)) (begunOutcomes : List Reassembled),
      (∀ group ∈ groups, group ≠ [])
        ∧ parts = groups.flatMap marked
          ++ begun.map (fun payload => (payload, false))
        ∧ ((empty ceiling).pushAll parts).2
          = outcomes.flatten ++ begunOutcomes
        ∧ List.Forall₂ (AnswersGroup ceiling) groups outcomes
        ∧ AnswersBegun ceiling begun begunOutcomes)
      ∧ ∀ payload,
        ((empty ceiling).pushAll (parts ++ [(payload, true)])).1
          = empty ceiling := by
  constructor
  · obtain ⟨groups, begun, nonempty, rfl⟩ := exists_groups parts
    refine
      ⟨groups, begun,
        groups.map fun group => ((empty ceiling).pushAll (marked group)).2, _,
        nonempty, rfl, ?_, ?_, answersBegun begun⟩
    · rw [pushAll_groups nonempty, List.flatMap_def]
    · rw [List.forall₂_map_right_iff, List.forall₂_same]
      intro group member
      exact answersGroup (nonempty group member)
  · intro payload
    exact pushAll_last _ parts payload

end Reassembler
end PlcLink
