import Mathlib
import PlcLink.Framing.Extraction

/-!
# Buffers that grow

A decision about the front of a buffer is taken only when more bytes cannot
change it: markers that match or differ go on doing so, the policy that was
found stays the chosen one, and a length that is known stays known.
-/

namespace PlcLink

/-! ## Markers -/

namespace Marker

variable {marker : Marker} {buffer : Bytes}

/-- The bytes at hand of those that the pattern is compared with. -/
def window (marker : Marker) (buffer : Bytes) : Bytes :=
  (buffer.drop marker.offset).take marker.bytes.length

theorem window_prefix_append (marker : Marker) (buffer more : Bytes) :
    marker.window buffer <+: marker.window (buffer ++ more) := by
  rw [window, window, List.drop_append, List.take_append]
  exact List.prefix_append _ _

theorem length_window (marker : Marker) (buffer : Bytes) :
    (marker.window buffer).length =
      min marker.bytes.length (buffer.length - marker.offset) := by
  simp [window]

theorem compare_eq (marker : Marker) (buffer : Bytes) :
    marker.compare buffer =
      if ¬ marker.window buffer <+: marker.bytes then .mismatch
      else if (marker.window buffer).length = marker.bytes.length then .full
      else .partialMatch := by
  by_cases agrees : marker.window buffer <+: marker.bytes
  · rw [if_neg (not_not.2 agrees)]
    have isPrefix := List.isPrefixOf_iff_prefix.2 agrees
    unfold window at isPrefix ⊢
    simp [compare, isPrefix]
  · rw [if_pos agrees]
    rw [← List.isPrefixOf_iff_prefix, Bool.not_eq_true] at agrees
    unfold window at agrees
    simp [compare, agrees]

theorem compare_eq_mismatch_iff :
    marker.compare buffer = .mismatch ↔
      ¬ marker.window buffer <+: marker.bytes := by
  rw [compare_eq]
  split
  · simp [*]
  · split <;> simp_all

theorem compare_eq_full_iff :
    marker.compare buffer = .full ↔
      marker.window buffer = marker.bytes := by
  rw [compare_eq]
  constructor
  · intro full
    split at full
    · simp at full
    · rename_i agrees
      split at full
      · rename_i sameLength
        exact (not_not.1 agrees).eq_of_length sameLength
      · simp at full
  · intro equal
    simp [equal]

/-- A pattern that differs goes on to differ. -/
theorem compare_append_of_mismatch (more : Bytes)
    (differs : marker.compare buffer = .mismatch) :
    marker.compare (buffer ++ more) = .mismatch := by
  rw [compare_eq_mismatch_iff] at differs ⊢
  intro agrees
  exact differs ((marker.window_prefix_append buffer more).trans agrees)

/-- A pattern that is there stays there. -/
theorem compare_append_of_full (more : Bytes)
    (full : marker.compare buffer = .full) :
    marker.compare (buffer ++ more) = .full := by
  rw [compare_eq_full_iff] at full ⊢
  have longer := marker.window_prefix_append buffer more
  rw [full] at longer
  refine (longer.eq_of_length_le ?_).symm
  rw [length_window]
  exact Nat.min_le_left _ _

/-- A pattern is there only if all its bytes are. -/
theorem extent_le_of_full (nonempty : marker.bytes ≠ [])
    (full : marker.compare buffer = .full) :
    marker.extent ≤ buffer.length := by
  rw [compare_eq_full_iff] at full
  have length := marker.length_window buffer
  have positive := List.length_pos_iff.2 nonempty
  rw [full] at length
  unfold extent
  omega

/-- A pattern that goes on reaches beyond the buffer. -/
theorem length_lt_of_partialMatch
    (goesOn : marker.compare buffer = .partialMatch) :
    buffer.length < marker.extent := by
  rw [compare_eq] at goesOn
  split at goesOn
  · simp at goesOn
  · split at goesOn
    · simp at goesOn
    · rename_i shorter
      rw [length_window] at shorter
      unfold extent
      omega

end Marker

/-! ## First occurrences -/

theorem firstOccurrence?_bound {pattern buffer : Bytes} {place : Nat}
    (found : firstOccurrence? pattern buffer = some place) :
    place + pattern.length ≤ buffer.length := by
  induction buffer generalizing place with
  | nil =>
      simp only [firstOccurrence?] at found
      split at found
      · simp_all
      · simp at found
  | cons first rest inductionHypothesis =>
      simp only [firstOccurrence?] at found
      split at found
      · rename_i here
        have length := (List.isPrefixOf_iff_prefix.1 here).length_le
        simp only [Option.some.injEq] at found
        omega
      · obtain ⟨later, foundLater, rfl⟩ := Option.map_eq_some_iff.1 found
        have bound := inductionHypothesis foundLater
        simp only [List.length_cons]
        omega

/-- The first occurrence stays the first. -/
theorem firstOccurrence?_append {pattern buffer : Bytes} {place : Nat}
    (more : Bytes)
    (found : firstOccurrence? pattern buffer = some place) :
    firstOccurrence? pattern (buffer ++ more) = some place := by
  induction buffer generalizing place with
  | nil =>
      simp only [firstOccurrence?] at found
      split at found
      · rename_i isEmpty
        cases more <;> simp_all [firstOccurrence?]
      · simp at found
  | cons first rest inductionHypothesis =>
      have bound := firstOccurrence?_bound found
      simp only [firstOccurrence?] at found
      simp only [List.cons_append, firstOccurrence?]
      split at found
      · rename_i here
        have agrees := List.isPrefixOf_iff_prefix.1 here
        have longer : pattern <+: first :: (rest ++ more) :=
          agrees.trans (List.prefix_append (first :: rest) more)
        rw [if_pos (List.isPrefixOf_iff_prefix.2 longer)]
        exact found
      · rename_i notHere
        -- The pattern is no longer than the buffer, so that the new bytes
        -- cannot complete it here.
        have stillNot : ¬ pattern.isPrefixOf (first :: (rest ++ more)) := by
          intro here
          apply notHere
          rw [List.isPrefixOf_iff_prefix, ← List.cons_append] at here
          rw [List.isPrefixOf_iff_prefix]
          exact List.prefix_of_prefix_length_le here
            (List.prefix_append _ _) (by omega)
        obtain ⟨later, foundLater, rfl⟩ := Option.map_eq_some_iff.1 found
        rw [if_neg stillNot, inductionHypothesis foundLater]
        rfl

/-- An occurrence of a pattern lies within the buffer. -/
theorem Marker.find?_bound {marker : Marker} {buffer : Bytes} {place : Nat}
    (found : marker.find? buffer = some place) :
    place + marker.bytes.length ≤ buffer.length := by
  unfold Marker.find? at found
  split at found
  · cases found
  · rename_i nonempty
    obtain ⟨later, foundLater, rfl⟩ := Option.map_eq_some_iff.1 found
    have bound := firstOccurrence?_bound foundLater
    have positive := List.length_pos_iff.2 nonempty
    rw [List.length_drop] at bound
    omega

theorem Marker.find?_append {marker : Marker} {buffer : Bytes}
    {place : Nat} (more : Bytes)
    (found : marker.find? buffer = some place) :
    marker.find? (buffer ++ more) = some place := by
  unfold Marker.find? at found ⊢
  split at found
  · simp at found
  · rename_i nonempty
    rw [if_neg nonempty]
    obtain ⟨later, foundLater, rfl⟩ := Option.map_eq_some_iff.1 found
    have bound := firstOccurrence?_bound foundLater
    have positive := List.length_pos_iff.2 nonempty
    have reached : marker.offset ≤ buffer.length := by
      rw [List.length_drop] at bound
      omega
    rw [List.drop_append_of_le_length reached,
      firstOccurrence?_append more foundLater]
    rfl

/-! ## Policies -/

namespace Policy

variable {policy : Policy} {buffer : Bytes}

theorem le_foldl_max (numbers : List Nat) (start : Nat) :
    start ≤ numbers.foldl max start
      ∧ ∀ number ∈ numbers, number ≤ numbers.foldl max start := by
  induction numbers generalizing start with
  | nil => simp
  | cons number numbers inductionHypothesis =>
      obtain ⟨startBound, bounds⟩ := inductionHypothesis (max start number)
      simp only [List.foldl_cons, List.mem_cons, forall_eq_or_imp]
      exact ⟨by omega, by omega, bounds⟩

theorem foldl_max_le {numbers : List Nat} {start bound : Nat}
    (startBound : start ≤ bound) (bounds : ∀ number ∈ numbers, number ≤ bound) :
    numbers.foldl max start ≤ bound := by
  induction numbers generalizing start with
  | nil => exact startBound
  | cons number numbers inductionHypothesis =>
      rw [List.foldl_cons]
      have first := bounds number List.mem_cons_self
      exact inductionHypothesis (Nat.max_le.2 ⟨startBound, first⟩)
        fun other member => bounds other (List.mem_cons_of_mem _ member)

theorem extent_le_beginExtent {marker : Marker}
    (member : marker ∈ policy.begins) :
    marker.extent ≤ policy.beginExtent :=
  (le_foldl_max _ 0).2 _ (List.mem_map_of_mem member)

theorem compareBegin_eq_mismatch_iff :
    policy.compareBegin buffer = .mismatch ↔
      ∃ marker ∈ policy.begins, marker.compare buffer = .mismatch := by
  simp only [compareBegin, List.mem_map]
  split
  · simp [*]
  · split <;> simp_all

theorem compareBegin_eq_full_iff :
    policy.compareBegin buffer = .full ↔
      ∀ marker ∈ policy.begins, marker.compare buffer = .full := by
  simp only [compareBegin, List.mem_map]
  constructor
  · intro full marker member
    cases state : marker.compare buffer with
    | full => rfl
    | mismatch =>
        rw [if_pos ⟨marker, member, state⟩] at full
        simp at full
    | partialMatch =>
        split at full
        · simp at full
        · rw [if_pos ⟨marker, member, state⟩] at full
          simp at full
  · intro full
    have noMismatch : ¬ ∃ marker ∈ policy.begins,
        marker.compare buffer = .mismatch := by
      rintro ⟨marker, member, differs⟩
      simp [full marker member] at differs
    have nonePartial : ¬ ∃ marker ∈ policy.begins,
        marker.compare buffer = .partialMatch := by
      rintro ⟨marker, member, goesOn⟩
      simp [full marker member] at goesOn
    rw [if_neg noMismatch, if_neg nonePartial]

theorem compareBegin_append_of_mismatch (more : Bytes)
    (differs : policy.compareBegin buffer = .mismatch) :
    policy.compareBegin (buffer ++ more) = .mismatch := by
  rw [compareBegin_eq_mismatch_iff] at differs ⊢
  obtain ⟨marker, member, differs⟩ := differs
  exact ⟨marker, member, Marker.compare_append_of_mismatch more differs⟩

theorem compareBegin_append_of_full (more : Bytes)
    (full : policy.compareBegin buffer = .full) :
    policy.compareBegin (buffer ++ more) = .full := by
  rw [compareBegin_eq_full_iff] at full ⊢
  intro marker member
  exact Marker.compare_append_of_full more (full marker member)

/-- A policy matches only if the buffer holds all its begin markers. -/
theorem beginExtent_le_of_full
    (full : policy.compareBegin buffer = .full) :
    policy.beginExtent ≤ buffer.length := by
  rw [compareBegin_eq_full_iff] at full
  refine foldl_max_le (Nat.zero_le _) ?_
  intro extent isExtent
  obtain ⟨marker, member, rfl⟩ := List.mem_map.1 isExtent
  exact Marker.extent_le_of_full
    (policy.noneEmpty marker (List.mem_append_left _ member))
    (full marker member)

/-- A policy that may still match reaches beyond the buffer. -/
theorem length_lt_of_partialMatch
    (goesOn : policy.compareBegin buffer = .partialMatch) :
    buffer.length < policy.beginExtent := by
  have : ∃ marker ∈ policy.begins,
      marker.compare buffer = .partialMatch := by
    unfold compareBegin at goesOn
    simp only [List.mem_map] at goesOn
    split at goesOn
    · simp at goesOn
    · split at goesOn
      · assumption
      · simp at goesOn
  obtain ⟨marker, member, goesOn⟩ := this
  exact (Marker.length_lt_of_partialMatch goesOn).trans_le
    (extent_le_beginExtent member)

/-- A policy's verdict stands unless a marker may still match. -/
theorem compareBegin_append (more : Bytes)
    (settled : policy.compareBegin buffer ≠ .partialMatch) :
    policy.compareBegin (buffer ++ more) = policy.compareBegin buffer := by
  cases state : policy.compareBegin buffer with
  | full => exact compareBegin_append_of_full more state
  | mismatch => exact compareBegin_append_of_mismatch more state
  | partialMatch => exact absurd state settled

/-! ## Lengths -/

theorem announcedLength_append (more : Bytes)
    (enough : Tpkt.headerLength ≤ buffer.length) :
    announcedLength (buffer ++ more) = announcedLength buffer := by
  match buffer, enough with
  | _ :: _ :: _ :: _ :: _, _ => rfl

theorem headerLength_le_of_announcedLength {length : DatagramLength}
    (told : announcedLength buffer = length)
    (settled : ∀ count, length ≠ .needMore count) :
    Tpkt.headerLength ≤ buffer.length := by
  unfold announcedLength at told
  split at told
  · simp [Tpkt.headerLength]
  · exact absurd told.symm (settled _)

/-- A length that is known, or known to be impossible, stays so. -/
theorem datagramLength_append (more : Bytes)
    (settled : ∀ count, policy.datagramLength buffer ≠ .needMore count) :
    policy.datagramLength (buffer ++ more) = policy.datagramLength buffer := by
  cases rule : policy.rule with
  | announced =>
      simp only [datagramLength, rule] at settled ⊢
      exact announcedLength_append more
        (headerLength_le_of_announcedLength rfl settled)
  | endMarker =>
      cases terminator : policy.terminator? with
      | none => simp only [datagramLength, rule, terminator]
      | some marker =>
          simp only [datagramLength, rule, terminator, delimitedLength]
            at settled ⊢
          cases found : marker.find? buffer with
          | none =>
              rw [found] at settled
              exact absurd rfl (settled 1)
          | some place => rw [Marker.find?_append more found]

/-- Whether the datagram at the front of a buffer is not there as a whole, or
not enough of it to tell. -/
def Unfinished (policy : Policy) (buffer : Bytes) : Prop :=
  buffer.length < policy.minimumSize
    ∨ (∃ count, policy.datagramLength buffer = .needMore count)
    ∨ ∃ length, policy.datagramLength buffer = .known length
      ∧ buffer.length < length

end Policy

/-! ## Registries -/

namespace Registry

variable {registry : Registry} {policy : Policy} {buffer : Bytes}

theorem mostSpecific?_eq_none_iff {policies : List Policy} :
    mostSpecific? policies = none ↔ policies = [] := by
  cases policies with
  | nil => simp [mostSpecific?]
  | cons policy policies =>
      rw [mostSpecific?]
      constructor
      · intro none
        split at none
        · simp at none
        · split at none <;> simp at none
      · simp

theorem mem_of_mostSpecific? {policies : List Policy}
    (chosen : mostSpecific? policies = some policy) :
    policy ∈ policies := by
  induction policies generalizing policy with
  | nil => simp [mostSpecific?] at chosen
  | cons first policies inductionHypothesis =>
      rw [mostSpecific?] at chosen
      split at chosen
      · simp only [Option.some.injEq] at chosen
        simp [chosen]
      · rename_i other isOther
        split at chosen
        · simp only [Option.some.injEq] at chosen
          subst chosen
          exact List.mem_cons_of_mem _ (inductionHypothesis isOther)
        · simp only [Option.some.injEq] at chosen
          simp [chosen]

theorem mem_comparing {state : MatchState} :
    policy ∈ registry.comparing state buffer ↔
      policy ∈ registry.policies ∧ policy.compareBegin buffer = state := by
  simp [comparing]

/-- Where nobody claims the front, no policy matches or may still match. -/
theorem comparing_eq_nil_of_nobody
    (unclaimed : registry.choose buffer = .nobody) :
    registry.comparing .full buffer = []
      ∧ registry.comparing .partialMatch buffer = [] := by
  rw [← mostSpecific?_eq_none_iff, ← mostSpecific?_eq_none_iff]
  unfold choose at unclaimed
  dsimp only at unclaimed
  split at unclaimed
  · rename_i noneFull nonePending
    exact ⟨noneFull, nonePending⟩
  · cases unclaimed
  · cases unclaimed
  · split at unclaimed <;> cases unclaimed

/-- A front that nobody claims differs from every policy. -/
theorem mismatch_of_nobody
    (unclaimed : registry.choose buffer = .nobody)
    (member : policy ∈ registry.policies) :
    policy.compareBegin buffer = .mismatch := by
  obtain ⟨noneFull, nonePartial⟩ := comparing_eq_nil_of_nobody unclaimed
  cases state : policy.compareBegin buffer with
  | mismatch => rfl
  | full =>
      have isFull := mem_comparing.2 ⟨member, state⟩
      rw [noneFull] at isFull
      cases isFull
  | partialMatch =>
      have isPartial := mem_comparing.2 ⟨member, state⟩
      rw [nonePartial] at isPartial
      cases isPartial

/-- The policy that was found for the front of a buffer is the most specific of
those that match. -/
theorem mostSpecific?_of_choose_found
    (owned : registry.choose buffer = .found policy) :
    mostSpecific? (registry.comparing .full buffer) = some policy := by
  unfold choose at owned
  dsimp only at owned
  split at owned
  · cases owned
  · rename_i isBest _
    cases owned
    exact isBest
  · cases owned
  · rename_i isBest _
    split at owned
    · cases owned
    · cases owned
      exact isBest

/-- A policy that was found matches. -/
theorem full_of_choose_found
    (owned : registry.choose buffer = .found policy) :
    policy ∈ registry.policies ∧ policy.compareBegin buffer = .full := by
  have isBest := mostSpecific?_of_choose_found owned
  exact mem_comparing.1 (mem_of_mostSpecific? isBest)

/-- A choice is held up by a policy that may still match. -/
theorem exists_of_choose_pending {needed : Nat}
    (held : registry.choose buffer = .pending needed) :
    ∃ policy ∈ registry.policies,
      policy.compareBegin buffer = .partialMatch := by
  unfold choose at held
  dsimp only at held
  split at held
  · cases held
  · cases held
  · rename_i isPending
    exact ⟨_, mem_comparing.1 (mem_of_mostSpecific? isPending)⟩
  · rename_i isPending
    exact ⟨_, mem_comparing.1 (mem_of_mostSpecific? isPending)⟩

/-- A choice that is not held up has no policy that may still match: such a
policy would reach further than all that match. -/
theorem comparing_partialMatch_eq_nil
    (settled : ∀ needed, registry.choose buffer ≠ .pending needed) :
    registry.comparing .partialMatch buffer = [] := by
  rw [← mostSpecific?_eq_none_iff]
  cases isPending : mostSpecific? (registry.comparing .partialMatch buffer) with
  | none => rfl
  | some pending =>
      exfalso
      have goesOn := (mem_comparing.1 (mem_of_mostSpecific? isPending)).2
      have beyond := Policy.length_lt_of_partialMatch goesOn
      cases isBest : mostSpecific? (registry.comparing .full buffer) with
      | none =>
          apply settled (missing pending buffer)
          simp only [choose, isPending, isBest]
      | some best =>
          have full := (mem_comparing.1 (mem_of_mostSpecific? isBest)).2
          have within := Policy.beginExtent_le_of_full full
          apply settled (missing pending buffer)
          simp only [choose, isPending, isBest]
          rw [if_pos (within.trans_lt beyond)]

/-- A choice that is not held up stands. -/
theorem choose_append (more : Bytes)
    (settled : ∀ needed, registry.choose buffer ≠ .pending needed) :
    registry.choose (buffer ++ more) = registry.choose buffer := by
  have nonePending := comparing_partialMatch_eq_nil settled
  have same : ∀ state,
      registry.comparing state (buffer ++ more)
        = registry.comparing state buffer := by
    intro state
    refine List.filter_congr fun policy member => ?_
    rw [Policy.compareBegin_append more]
    intro goesOn
    have := mem_comparing.2 ⟨member, goesOn⟩
    rw [nonePending] at this
    simp at this
  simp only [choose, same, nonePending, mostSpecific?]
  cases mostSpecific? (registry.comparing .full buffer) <;> rfl

/-- What is done with a buffer at whose front a policy was found: its datagram
is not there as a whole, or is taken, or cannot be. -/
theorem stepOf_cases (policy : Policy) (buffer : Bytes) (noise : Nat) :
    (policy.Unfinished buffer
        ∧ ∃ needed, stepOf policy noise buffer = .wait noise needed)
      ∨ (∃ length, policy.minimumSize ≤ buffer.length
        ∧ policy.datagramLength buffer = .known length
        ∧ length ≤ buffer.length
        ∧ stepOf policy noise buffer = .take noise policy length)
      ∨ (policy.minimumSize ≤ buffer.length
        ∧ policy.datagramLength buffer = .invalid
        ∧ stepOf policy noise buffer = .skip noise policy.minimumSize) := by
  by_cases short : buffer.length < policy.minimumSize
  · left
    refine ⟨.inl short, policy.minimumSize - buffer.length, ?_⟩
    simp only [stepOf, if_pos short]
  · have enough := Nat.not_lt.1 short
    cases told : policy.datagramLength buffer with
    | needMore count =>
        left
        refine ⟨.inr (.inl ⟨count, told⟩), count, ?_⟩
        simp only [stepOf, if_neg short, told]
    | invalid =>
        right; right
        refine ⟨enough, rfl, ?_⟩
        simp only [stepOf, if_neg short, told]
    | known length =>
        by_cases within : length ≤ buffer.length
        · right; left
          refine ⟨length, enough, rfl, within, ?_⟩
          simp only [stepOf, if_neg short, told, if_pos within]
        · left
          refine ⟨.inr (.inr ⟨length, told, Nat.not_le.1 within⟩),
            length - buffer.length, ?_⟩
          simp only [stepOf, if_neg short, told, if_neg within]

/-- A datagram, or one that cannot be, is dealt with in the same way when more
bytes follow, and lies within the buffer. -/
theorem stepOf_append (policy : Policy) (buffer more : Bytes) (noise : Nat) :
    (∃ needed, stepOf policy noise buffer = .wait noise needed)
      ∨ (∃ length, length ≤ buffer.length
        ∧ stepOf policy noise buffer = .take noise policy length
        ∧ stepOf policy noise (buffer ++ more) = .take noise policy length)
      ∨ (∃ length, length ≤ buffer.length
        ∧ stepOf policy noise buffer = .skip noise length
        ∧ stepOf policy noise (buffer ++ more) = .skip noise length) := by
  have grows : buffer.length ≤ (buffer ++ more).length := by simp
  obtain ⟨-, waits⟩ | ⟨length, enough, told, within, takes⟩
      | ⟨enough, told, skips⟩ :=
    stepOf_cases policy buffer noise
  · exact .inl waits
  · have stays : policy.datagramLength (buffer ++ more) = .known length := by
      rw [Policy.datagramLength_append more (by simp [told]), told]
    refine .inr (.inl ⟨length, within, takes, ?_⟩)
    simp only [stepOf, if_neg (enough.trans grows).not_gt, stays,
      if_pos (within.trans grows)]
  · have stays : policy.datagramLength (buffer ++ more) = .invalid := by
      rw [Policy.datagramLength_append more (by simp [told]), told]
    refine .inr (.inr ⟨policy.minimumSize, enough, skips, ?_⟩)
    simp only [stepOf, if_neg (enough.trans grows).not_gt, stays]

end Registry
end PlcLink
