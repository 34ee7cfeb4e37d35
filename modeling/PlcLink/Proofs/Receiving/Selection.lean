import Mathlib
import PlcLink.Framing.Search
import PlcLink.Proofs.Failure
import PlcLink.Proofs.Framing.Growth

/-!
# Guarded search for datagrams

Whoever owns the bytes of a buffer is found with a guard at every step, for
policies that do not reach beyond the numbers there are. The search goes by
places in the buffer and keeps the best candidates seen so far, and comes to the
same choice as looking at what lies behind each place.
-/

namespace PlcLink
namespace Guarded

/-! ## Markers -/

theorem add_size_eq {first second : Nat} (fits : first + second < 2 ^ 64) :
    add UInt64.size first second = .ok (first + second) :=
  add_eq fits

theorem extent_eq {marker : Marker} (fits : marker.extent < 2 ^ 64) :
    extent marker = .ok marker.extent :=
  add_size_eq fits

theorem differs_eq {marker : Marker} {buffer : Bytes}
    {place available : Nat}
    (isAvailable : available
      = min (buffer.length - place) marker.bytes.length)
    (fits : place + marker.bytes.length < 2 ^ 64) :
    differs marker buffer place available
      = .ok ((buffer.drop place).take available
          != marker.bytes.take available) := by
  unfold differs
  split
  · rename_i nothing
    rw [nothing]
    rfl
  · rw [add_size_eq (by omega), ok_bind, slice_eq (by omega) (by omega),
      ok_bind, before_eq (by omega), ok_bind, Nat.add_sub_cancel_left]
    rfl

theorem compareAt_eq {marker : Marker} {buffer : Bytes} {start : Nat}
    (fits : start + marker.extent < 2 ^ 64) :
    compareAt marker buffer start
      = .ok (marker.compare (buffer.drop start)) := by
  unfold Marker.extent at fits
  have length : (marker.window (buffer.drop start)).length
      = min (buffer.length - (start + marker.offset))
        marker.bytes.length := by
    rw [marker.length_window, List.length_drop]
    omega
  have window :
      (buffer.drop (start + marker.offset)).take
          (min (buffer.length - (start + marker.offset)) marker.bytes.length)
        = marker.window (buffer.drop start) := by
    unfold Marker.window
    rw [List.drop_drop, List.take_eq_take_iff, List.length_drop]
    omega
  rw [compareAt, add_size_eq (by omega), ok_bind]
  dsimp only
  rw [differs_eq rfl (by omega), ok_bind, Marker.compare_eq]
  simp only [bne_iff_ne, ne_eq, List.prefix_iff_eq_take, length, window]
  split
  · rfl
  · split <;> rfl

/-- What comparing several markers amounts to. -/
def verdict (states : List MatchState) : MatchState :=
  if .mismatch ∈ states then .mismatch
  else if .partialMatch ∈ states then .partialMatch
  else .full

theorem compareBegin_eq_verdict (policy : Policy) (buffer : Bytes) :
    policy.compareBegin buffer
      = verdict (policy.begins.map (·.compare buffer)) := rfl

theorem compareEach_eq {buffer : Bytes} {start : Nat}
    {markers : List Marker}
    (fits : ∀ marker ∈ markers, start + marker.extent < 2 ^ 64)
    {state : MatchState} (goesOn : state ≠ .mismatch) :
    compareEach buffer start state markers
      = .ok (verdict
          (state :: markers.map (·.compare (buffer.drop start)))) := by
  induction markers generalizing state with
  | nil =>
      cases state with
      | mismatch => exact absurd rfl goesOn
      | full => rfl
      | partialMatch => rfl
  | cons marker markers inductionHypothesis =>
      obtain ⟨firstFits, othersFit⟩ := List.forall_mem_cons.1 fits
      rw [compareEach, compareAt_eq firstFits, ok_bind, List.map_cons]
      cases compared : marker.compare (buffer.drop start) with
      | mismatch => simp [verdict]
      | partialMatch =>
          dsimp only
          rw [inductionHypothesis othersFit (by decide)]
          simp [verdict, goesOn.symm]
      | full =>
          dsimp only
          rw [inductionHypothesis othersFit goesOn]
          simp [verdict]

/-! ## Policies -/

theorem beginExtent_eq {policy : Policy}
    (fits : policy.beginExtent < 2 ^ 64) :
    beginExtent policy = .ok policy.beginExtent := by
  have extents : policy.begins.mapM extent
      = .ok (policy.begins.map Marker.extent) := by
    apply mapM_eq_ok_of_forall₂
    rw [List.forall₂_map_right_iff, List.forall₂_same]
    intro marker member
    apply extent_eq
    exact lt_of_le_of_lt (Policy.extent_le_beginExtent member) fits
  rw [beginExtent, extents]
  rfl

theorem compareBegin_eq {policy : Policy} {buffer : Bytes} {start : Nat}
    (fits : start + policy.beginExtent < 2 ^ 64) :
    compareEach buffer start .full policy.begins
      = .ok (policy.compareBegin (buffer.drop start)) := by
  rw [compareEach_eq _ (by decide), compareBegin_eq_verdict]
  · simp [verdict]
  · intro marker member
    have within := Policy.extent_le_beginExtent member
    omega

theorem announcedLength_eq (buffer : Bytes) :
    announcedLength buffer = .ok (Policy.announcedLength buffer) := by
  match buffer with
  | [] | [_] | [_, _] | [_, _, _] => rfl
  | _ :: _ :: high :: low :: _ =>
      rw [announcedLength, if_neg (by simp [Tpkt.headerLength])]
      rfl

/-- A search from the front of a buffer finds the first occurrence. -/
theorem findFrom?_eq {marker : Marker} {buffer : Bytes}
    (markerFits : marker.extent < 2 ^ 64)
    (bufferFits : buffer.length < 2 ^ 64) :
    findFrom? marker buffer 0 = .ok (marker.find? buffer) := by
  unfold Marker.extent at markerFits
  unfold findFrom? Marker.find?
  rw [add_size_eq (by omega), ok_bind, Nat.zero_add]
  split
  · rfl
  · rename_i nonempty
    have positive := List.length_pos_iff.2 nonempty
    rw [add_size_eq markerFits, ok_bind]
    cases found :
        firstOccurrence? marker.bytes (buffer.drop marker.offset) with
    | none =>
        split
        · rfl
        · rw [after_eq (by omega), ok_bind, found]
          rfl
    | some place =>
        have within := firstOccurrence?_bound found
        rw [List.length_drop] at within
        split
        · omega
        · rw [after_eq (by omega), ok_bind, found]
          dsimp only
          rw [add_size_eq (by omega)]
          rfl

theorem minimumSize_eq {policy : Policy}
    (fits : policy.minimumSize < 2 ^ 64) :
    minimumSize policy = .ok policy.minimumSize := by
  obtain ⟨reachFits, headerFits⟩ := Nat.max_lt.1 fits
  unfold minimumSize Policy.minimumSize
  rw [beginExtent_eq reachFits, Nat.max_comm]
  cases rule : policy.rule with
  | announced => rfl
  | endMarker =>
      rw [rule] at headerFits
      cases isEnd : policy.terminator? with
      | none => rfl
      | some marker =>
          rw [isEnd] at headerFits
          have extent : extent marker = .ok marker.extent :=
            extent_eq headerFits
          simp only [extent, ok_bind]
          rfl

theorem datagramLength_eq {policy : Policy} {buffer : Bytes}
    (fits : policy.minimumSize < 2 ^ 64)
    (bufferFits : buffer.length < 2 ^ 64) :
    datagramLength policy buffer = .ok (policy.datagramLength buffer) := by
  unfold datagramLength Policy.datagramLength
  cases rule : policy.rule with
  | announced => exact announcedLength_eq buffer
  | endMarker =>
      cases isEnd : policy.terminator? with
      | none => rfl
      | some marker =>
          have markerFits := (Nat.max_lt.1 fits).2
          rw [rule, isEnd] at markerFits
          dsimp only
          rw [findFrom?_eq markerFits bufferFits, ok_bind,
            Policy.delimitedLength]
          cases found : marker.find? buffer with
          | none => rfl
          | some place =>
              have within := Marker.find?_bound found
              dsimp only
              rw [add_size_eq (by omega)]
              rfl

end Guarded

/-! ## Choices -/

namespace Registry

/-- Of two policies the one that reaches further, and the first of equals. -/
def further? : Option Policy -> Option Policy -> Option Policy
  | none, second => second
  | some first, none => some first
  | some first, some second =>
      if first.beginExtent < second.beginExtent then some second
      else some first

@[simp] theorem further?_none (first : Option Policy) :
    further? first none = first := by
  cases first <;> rfl

theorem mem_or_mem_of_mem_further? {policy : Policy}
    {first second : Option Policy} (member : policy ∈ further? first second) :
    policy ∈ first ∨ policy ∈ second := by
  cases first with
  | none => exact .inr member
  | some first =>
      cases second with
      | none => exact .inl member
      | some second =>
          simp only [further?] at member
          split at member
          · exact .inr member
          · exact .inl member

theorem further?_assoc (first second third : Option Policy) :
    further? (further? first second) third
      = further? first (further? second third) := by
  cases first with
  | none => rfl
  | some first =>
      cases second with
      | none => rfl
      | some second =>
          cases third with
          | none => simp
          | some third =>
              by_cases secondFurther : first.beginExtent < second.beginExtent
                <;> by_cases thirdFurther :
                  second.beginExtent < third.beginExtent
              · have furthest : first.beginExtent < third.beginExtent := by
                  omega
                simp [further?, secondFurther, thirdFurther, furthest]
              · simp [further?, secondFurther, thirdFurther]
              · simp [further?, secondFurther, thirdFurther]
              · have notFurther : ¬first.beginExtent < third.beginExtent := by
                  omega
                simp [further?, secondFurther, thirdFurther, notFurther]

theorem mostSpecific?_cons (policy : Policy) (policies : List Policy) :
    mostSpecific? (policy :: policies)
      = further? (some policy) (mostSpecific? policies) := by
  rw [mostSpecific?]
  cases mostSpecific? policies <;> rfl

end Registry

namespace Guarded

open Registry

variable {registry : Registry} {buffer : Bytes} {start : Nat}

/-- The candidates that two policies make. -/
def candidates (rest : Bytes) (best? pending? : Option Policy) : Candidates :=
  { best?
    pending? :=
      pending?.map fun policy => (policy.beginExtent, missing policy rest) }

/-- What a list of policies that compare in some way adds to a candidate. -/
def furthest? (rest : Bytes) (state : MatchState) (seen : Option Policy)
    (policies : List Policy) : Option Policy :=
  further? seen
    (mostSpecific?
      (policies.filter fun policy => policy.compareBegin rest == state))

theorem furthest?_singleton {rest : Bytes} {state : MatchState}
    {policy : Policy} (compared : policy.compareBegin rest = state)
    (seen : Option Policy) :
    furthest? rest state seen [policy] = further? seen (some policy) := by
  simp [furthest?, compared, mostSpecific?]

theorem furthest?_singleton_of_ne {rest : Bytes} {state : MatchState}
    {policy : Policy} (compared : policy.compareBegin rest ≠ state)
    (seen : Option Policy) :
    furthest? rest state seen [policy] = seen := by
  simp [furthest?, compared, mostSpecific?]

theorem furthest?_cons (rest : Bytes) (state : MatchState)
    (seen : Option Policy) (policy : Policy) (policies : List Policy) :
    furthest? rest state (furthest? rest state seen [policy]) policies
      = furthest? rest state seen (policy :: policies) := by
  by_cases compared : policy.compareBegin rest = state
  · rw [furthest?_singleton compared]
    simp [furthest?, compared, mostSpecific?_cons, further?_assoc]
  · rw [furthest?_singleton_of_ne compared]
    simp [furthest?, compared]

/-- A candidate was a candidate before or is one of the policies. -/
theorem mem_or_mem_of_mem_furthest? {rest : Bytes} {state : MatchState}
    {seen : Option Policy} {policies : List Policy} {policy : Policy}
    (member : policy ∈ furthest? rest state seen policies) :
    policy ∈ seen ∨ policy ∈ policies := by
  apply (mem_or_mem_of_mem_further? member).imp_right
  intro chosen
  exact List.mem_of_mem_filter (mem_of_mostSpecific? chosen)

theorem consider_eq (within : start ≤ buffer.length) {policy : Policy}
    {best? pending? : Option Policy}
    (bestFits : ∀ best ∈ best?, best.beginExtent < 2 ^ 64)
    (fits : start + policy.beginExtent < 2 ^ 64) :
    consider buffer start
        (candidates (buffer.drop start) best? pending?) policy
      = .ok (candidates (buffer.drop start)
          (furthest? (buffer.drop start) .full best? [policy])
          (furthest? (buffer.drop start) .partialMatch pending? [policy])) := by
  have reach : beginExtent policy = .ok policy.beginExtent :=
    beginExtent_eq (by omega)
  rw [consider, reach, ok_bind, compareBegin_eq fits, ok_bind]
  cases compared : policy.compareBegin (buffer.drop start) with
  | mismatch =>
      rw [furthest?_singleton_of_ne (by simp [compared]),
        furthest?_singleton_of_ne (by simp [compared])]
      rfl
  | full =>
      rw [furthest?_singleton compared,
        furthest?_singleton_of_ne (by simp [compared])]
      cases best? with
      | none => rfl
      | some best =>
          simp only [candidates, beginExtent_eq (bestFits best rfl), ok_bind,
            further?]
          split <;> rfl
  | partialMatch =>
      have isMissing : max (start + policy.beginExtent - buffer.length) 1
          = missing policy (buffer.drop start) := by
        rw [missing, List.length_drop]
        omega
      rw [furthest?_singleton compared,
        furthest?_singleton_of_ne (by simp [compared]), add_size_eq fits,
        ok_bind, isMissing]
      cases pending? with
      | none => rfl
      | some pending =>
          simp only [candidates, Option.map_some, further?]
          split <;> rfl

/-- Going through the policies with the best of them in mind finds those that
reach furthest. -/
theorem foldlM_consider (within : start ≤ buffer.length)
    {policies : List Policy} {best? pending? : Option Policy}
    (bestFits : ∀ best ∈ best?, best.beginExtent < 2 ^ 64)
    (fits : ∀ policy ∈ policies, start + policy.beginExtent < 2 ^ 64) :
    policies.foldlM (consider buffer start)
        (candidates (buffer.drop start) best? pending?)
      = .ok (candidates (buffer.drop start)
          (furthest? (buffer.drop start) .full best? policies)
          (furthest? (buffer.drop start) .partialMatch pending?
            policies)) := by
  induction policies generalizing best? pending? with
  | nil => simp [furthest?, mostSpecific?]
  | cons policy policies inductionHypothesis =>
      obtain ⟨firstFits, othersFit⟩ := List.forall_mem_cons.1 fits
      rw [List.foldlM_cons, consider_eq within bestFits firstFits, ok_bind,
        inductionHypothesis _ othersFit, furthest?_cons, furthest?_cons]
      intro best isBest
      obtain wasBest | isPolicy := mem_or_mem_of_mem_furthest? isBest
      · exact bestFits best wasBest
      · obtain rfl := List.mem_singleton.1 isPolicy
        omega

theorem furthest?_none (rest : Bytes) (state : MatchState) :
    furthest? rest state none registry.policies
      = mostSpecific? (registry.comparing state rest) := rfl

theorem chooseAt_eq (within : start ≤ buffer.length)
    (fits : ∀ policy ∈ registry.policies,
      start + policy.beginExtent < 2 ^ 64) :
    chooseAt registry buffer start
      = .ok (registry.choose (buffer.drop start)) := by
  have noneBefore : candidates (buffer.drop start) none none
      = { best? := none, pending? := none } := rfl
  have seen : registry.policies.foldlM (consider buffer start)
        (candidates (buffer.drop start) none none)
      = .ok (candidates (buffer.drop start)
          (furthest? (buffer.drop start) .full none registry.policies)
          (furthest? (buffer.drop start) .partialMatch none
            registry.policies)) :=
    foldlM_consider within (by simp) fits
  rw [furthest?_none, furthest?_none, noneBefore] at seen
  rw [chooseAt, seen, ok_bind]
  unfold candidates choose
  cases isBest : mostSpecific?
      (registry.comparing .full (buffer.drop start)) with
  | none =>
      cases mostSpecific?
        (registry.comparing .partialMatch (buffer.drop start)) <;> rfl
  | some best =>
      cases mostSpecific?
        (registry.comparing .partialMatch (buffer.drop start)) with
      | none => rfl
      | some pending =>
          have member := (mem_comparing.1 (mem_of_mostSpecific? isBest)).1
          have bestFits := fits best member
          have reach : beginExtent best = .ok best.beginExtent :=
            beginExtent_eq (by omega)
          simp only [Option.map_some, reach, ok_bind]
          split <;> rfl

end Guarded

/-- The same selection so many bytes further on. -/
def Selection.shiftBy (count : Nat) : Selection -> Selection
  | found start policy => found (start + count) policy
  | pending start needed => pending (start + count) needed
  | nobody => nobody

theorem Selection.shiftBy_shift (count : Nat) (selection : Selection) :
    selection.shift.shiftBy count = selection.shiftBy (count + 1) := by
  cases selection with
  | found start policy =>
      simp only [shift, shiftBy, Nat.add_assoc, Nat.add_comm 1 count]
  | pending start needed =>
      simp only [shift, shiftBy, Nat.add_assoc, Nat.add_comm 1 count]
  | nobody => rfl

namespace Guarded

open Registry

variable {registry : Registry} {buffer : Bytes} {start : Nat}

theorem selectFrom_eq {count : Nat} (isRest : start + count = buffer.length)
    (fits : ∀ policy ∈ registry.policies,
      buffer.length + policy.beginExtent < 2 ^ 64) :
    selectFrom registry buffer (List.range' start count)
      = .ok ((registry.select (buffer.drop start)).shiftBy start) := by
  induction count generalizing start with
  | zero =>
      rw [List.drop_eq_nil_of_le (by omega)]
      rfl
  | succ count inductionHypothesis =>
      have within : start < buffer.length := by omega
      rw [List.range'_succ, selectFrom, chooseAt_eq within.le, ok_bind,
        List.drop_eq_getElem_cons within, Registry.select]
      · cases registry.choose (buffer[start] :: buffer.drop (start + 1)) with
        | found policy => simp [Selection.shiftBy]
        | pending needed => simp [Selection.shiftBy]
        | nobody =>
            dsimp only
            rw [inductionHypothesis (by omega), Selection.shiftBy_shift]
      · intro policy member
        have policyFits := fits policy member
        omega

theorem select_eq (fits : ∀ policy ∈ registry.policies,
      buffer.length + policy.beginExtent < 2 ^ 64) :
    select registry buffer = .ok (registry.select buffer) := by
  rw [select, List.range_eq_range', selectFrom_eq (Nat.zero_add _) fits,
    List.drop_zero]
  cases registry.select buffer <;> rfl

end Guarded
end PlcLink
