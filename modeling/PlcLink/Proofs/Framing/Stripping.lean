import Mathlib
import PlcLink.Proofs.Framing.Chunking
import PlcLink.Proofs.Framing.Ownership

/-!
# What stripping cuts out

A datagram without its exclusive markers is the datagram without some stretches,
and these are chosen by the offsets of the begin markers and by the datagram's
length. Where the length comes from a header, nothing but the datagram itself
makes its markers lie there.
-/

namespace PlcLink

/-! ## Bytes by their places -/

/-- The bytes whose places satisfy a condition, in their order, when the first
of all has this place. -/
def bytesWhere (kept : Nat -> Prop) [DecidablePred kept] (first : Nat)
    (bytes : Bytes) : Bytes :=
  ((bytes.zipIdx first).filter fun entry => kept entry.2).map Prod.fst

section BytesWhere

variable {kept others : Nat -> Prop} [DecidablePred kept]
  [DecidablePred others] {first : Nat} {bytes : Bytes}

theorem bytesWhere_append (front back : Bytes) :
    bytesWhere kept first (front ++ back)
      = bytesWhere kept first front
        ++ bytesWhere kept (first + front.length) back := by
  simp only [bytesWhere, List.zipIdx_append, List.filter_append,
    List.map_append]

theorem bytesWhere_congr
    (same : ∀ place, first ≤ place -> (kept place ↔ others place)) :
    bytesWhere kept first bytes = bytesWhere others first bytes := by
  unfold bytesWhere
  congr 1
  apply List.filter_congr
  intro entry member
  exact decide_eq_decide.2 (same entry.2 (List.le_snd_of_mem_zipIdx member))

theorem bytesWhere_eq_self
    (all : ∀ place, first ≤ place -> place < first + bytes.length ->
      kept place) :
    bytesWhere kept first bytes = bytes := by
  unfold bytesWhere
  rw [List.filter_eq_self.2, List.zipIdx_map_fst]
  intro entry member
  exact decide_eq_true (all entry.2 (List.le_snd_of_mem_zipIdx member)
    (List.snd_lt_add_of_mem_zipIdx member))

theorem bytesWhere_eq_nil
    (none : ∀ place, first ≤ place -> place < first + bytes.length ->
      ¬kept place) :
    bytesWhere kept first bytes = [] := by
  unfold bytesWhere
  rw [List.filter_eq_nil_iff.2, List.map_nil]
  intro entry member
  rw [decide_eq_true_eq]
  exact none entry.2 (List.le_snd_of_mem_zipIdx member)
    (List.snd_lt_add_of_mem_zipIdx member)

/-- Where nothing is kept before a place, the bytes from there on tell. -/
theorem bytesWhere_eq_drop (cursor : Nat)
    (none : ∀ place, place < cursor -> ¬kept place) :
    bytesWhere kept 0 bytes = bytesWhere kept cursor (bytes.drop cursor) := by
  conv_lhs => rw [← List.take_append_drop cursor bytes, bytesWhere_append]
  rw [bytesWhere_eq_nil, List.nil_append, Nat.zero_add, List.length_take]
  · obtain there | short := le_total cursor bytes.length
    · rw [Nat.min_eq_left there]
    · rw [List.drop_eq_nil_of_le short]
      rfl
  · intro place _ before
    rw [List.length_take] at before
    exact none place (by omega)

end BytesWhere

/-! ## Stretches -/

/-- A place that lies in none of some stretches. -/
def Outside (stretches : List (Nat × Nat)) (place : Nat) : Prop :=
  ∀ stretch ∈ stretches, place < stretch.1 ∨ stretch.2 ≤ place

instance (stretches : List (Nat × Nat)) : DecidablePred (Outside stretches) :=
  fun place => inferInstanceAs
    (Decidable (∀ stretch ∈ stretches, place < stretch.1 ∨ stretch.2 ≤ place))

theorem outside_cons {start stop place : Nat} {stretches : List (Nat × Nat)} :
    Outside ((start, stop) :: stretches) place
      ↔ (place < start ∨ stop ≤ place) ∧ Outside stretches place :=
  List.forall_mem_cons

theorem outside_congr {first second : List (Nat × Nat)}
    (same : first.Perm second) (place : Nat) :
    Outside first place ↔ Outside second place := by
  unfold Outside
  simp only [same.mem_iff]

/-- A stretch begins beyond a bound, and none that begins before it reaches its
beginning. -/
def LeavesGap (bound : Nat) (stretches : List (Nat × Nat)) : Prop :=
  ∃ stretch ∈ stretches,
    bound < stretch.1
      ∧ ∀ other ∈ stretches, other.1 < stretch.1 -> other.2 < stretch.1

theorem leavesGap_congr {bound : Nat} {first second : List (Nat × Nat)}
    (same : first.Perm second) :
    LeavesGap bound first ↔ LeavesGap bound second := by
  unfold LeavesGap
  simp only [same.mem_iff]

theorem leavesGap_cons_iff {start stop bound : Nat}
    {stretches : List (Nat × Nat)} (reached : start ≤ bound) :
    LeavesGap bound ((start, stop) :: stretches)
      ↔ LeavesGap (max bound stop) stretches := by
  constructor
  · rintro ⟨stretch, member, beyond, gap⟩
    rw [List.forall_mem_cons] at gap
    obtain rfl | member := List.mem_cons.1 member
    · exact absurd beyond reached.not_gt
    · have reaches := gap.1 (reached.trans_lt beyond)
      exact ⟨stretch, member, Nat.max_lt.2 ⟨beyond, reaches⟩, gap.2⟩
  · rintro ⟨stretch, member, beyond, gap⟩
    obtain ⟨beyond, reaches⟩ := Nat.max_lt.1 beyond
    refine ⟨stretch, List.mem_cons_of_mem _ member, beyond, ?_⟩
    exact List.forall_mem_cons.2 ⟨fun _ => reaches, gap⟩

/-- From the beginning of a stretch on, the places outside of it are those
behind its end. -/
theorem outside_cons_iff {start stop cursor place : Nat}
    {stretches : List (Nat × Nat)} (begun : start ≤ cursor ∨ start ≤ place) :
    (cursor ≤ place ∧ Outside ((start, stop) :: stretches) place)
      ↔ max cursor stop ≤ place ∧ Outside stretches place := by
  rw [outside_cons, Nat.max_le]
  constructor
  · rintro ⟨behind, before | after, outside⟩
    · omega
    · exact ⟨⟨behind, after⟩, outside⟩
  · rintro ⟨⟨behind, after⟩, outside⟩
    exact ⟨behind, .inr after, outside⟩

namespace Policy

variable {datagram : Bytes} {start stop cursor : Nat}
  {stretches : List (Nat × Nat)}

/-- What remains of a datagram between a place and the first stretch, and what
remains behind. -/
theorem bytesWhere_outside_cons (before : cursor < start)
    (forward : start ≤ stop) (within : start ≤ datagram.length)
    (ordered : ∀ stretch ∈ stretches, start ≤ stretch.1) :
    bytesWhere
        (fun place =>
          cursor ≤ place ∧ Outside ((start, stop) :: stretches) place)
        0 datagram
      = (datagram.drop cursor).take (start - cursor)
        ++ bytesWhere
          (fun place => max cursor stop ≤ place ∧ Outside stretches place)
          0 datagram := by
  have length : cursor + ((datagram.drop cursor).take (start - cursor)).length
      = start := by
    rw [List.length_take, List.length_drop]
    omega
  rw [bytesWhere_eq_drop cursor (by omega), bytesWhere_eq_drop start (by omega)]
  nth_rewrite 1 [← List.take_append_drop (start - cursor)
    (datagram.drop cursor)]
  rw [bytesWhere_append, length, List.drop_drop,
    Nat.add_sub_of_le before.le]
  congr 1
  · apply bytesWhere_eq_self
    intro place behind notBegun
    rw [length] at notBegun
    refine ⟨behind, outside_cons.2 ⟨.inl notBegun, ?_⟩⟩
    intro stretch member
    exact .inl (notBegun.trans_le (ordered stretch member))
  · apply bytesWhere_congr
    intro place begun
    exact outside_cons_iff (.inr begun)

/-- Stretches in order are cut out, unless one of them begins beyond the
datagram and is not reached from the one before. -/
theorem cutOut_cases
    (ordered : stretches.Pairwise fun first second => first.1 ≤ second.1)
    (forward : ∀ stretch ∈ stretches, stretch.1 ≤ stretch.2) :
    (LeavesGap (max cursor datagram.length) stretches
        ∧ cutOut datagram cursor stretches = .error .outsideDatagram)
      ∨ (¬LeavesGap (max cursor datagram.length) stretches
        ∧ cutOut datagram cursor stretches
          = .ok (bytesWhere
            (fun place => cursor ≤ place ∧ Outside stretches place)
            0 datagram)) := by
  induction stretches generalizing cursor with
  | nil =>
      right
      constructor
      · rintro ⟨stretch, member, -⟩
        cases member
      · rw [cutOut, bytesWhere_eq_drop cursor (by omega), bytesWhere_eq_self]
        intro place behind _
        exact ⟨behind, by simp [Outside]⟩
  | cons stretch stretches inductionHypothesis =>
      obtain ⟨start, stop⟩ := stretch
      obtain ⟨isFirst, laterOrdered⟩ := List.pairwise_cons.1 ordered
      obtain ⟨firstForward, laterForward⟩ := List.forall_mem_cons.1 forward
      have later :=
        @inductionHypothesis (max cursor stop) laterOrdered laterForward
      rw [max_right_comm] at later
      rw [cutOut]
      by_cases begun : start ≤ cursor
      · have reached := begun.trans (Nat.le_max_left cursor datagram.length)
        rw [if_pos begun, leavesGap_cons_iff reached,
          bytesWhere_congr fun place _ => outside_cons_iff (.inl begun)]
        exact later
      · rw [if_neg begun]
        by_cases beyond : datagram.length < start
        · left
          rw [if_pos beyond]
          refine ⟨⟨(start, stop), List.mem_cons_self, by omega, ?_⟩, rfl⟩
          rw [List.forall_mem_cons]
          constructor
          · intro sooner
            exact absurd sooner (lt_irrefl _)
          · intro other member sooner
            exact absurd sooner (isFirst other member).not_gt
        · rw [if_neg beyond, leavesGap_cons_iff (by omega),
            bytesWhere_outside_cons (Nat.not_le.1 begun) firstForward
              (Nat.not_lt.1 beyond) isFirst]
          obtain ⟨gap, broken⟩ | ⟨noGap, remaining⟩ := later
          · exact .inl ⟨gap, by rw [broken]; rfl⟩
          · exact .inr ⟨noGap, by rw [remaining]; rfl⟩

end Policy

/-! ## The cuts of a policy -/

/-- An exclusive marker and where it is cut out of a datagram. -/
structure Cut where
  marker : Marker
  start : Nat

namespace Cut

/-- The place behind the bytes that are cut out. -/
def stop (cut : Cut) : Nat :=
  cut.start + cut.marker.bytes.length

/-- The stretch that is cut out. -/
def stretch (cut : Cut) : Nat × Nat :=
  (cut.start, cut.stop)

end Cut

namespace Policy

variable {policy : Policy} {datagram : Bytes} {length : Nat}

/-- What is cut out of a datagram of some length: begin markers at their
offsets, and the end marker at the end. -/
def cuts (policy : Policy) (length : Nat) : List Cut :=
  (policy.begins.filter Marker.exclusive).map
      (fun marker => { marker, start := marker.offset })
    ++ (policy.terminator?.filter Marker.exclusive).toList.map
      fun marker => { marker, start := length - marker.bytes.length }

theorem exists_mem_cuts {property : Cut -> Prop} :
    (∃ cut ∈ policy.cuts length, property cut)
      ↔ (∃ marker ∈ policy.begins, marker.exclusive
          ∧ property { marker, start := marker.offset })
        ∨ ∃ marker, policy.terminator? = some marker ∧ marker.exclusive
          ∧ property { marker, start := length - marker.bytes.length } := by
  simp [cuts, or_and_right, exists_or, and_assoc, Option.filter_eq_some_iff]

theorem forall_mem_cuts {property : Cut -> Prop} :
    (∀ cut ∈ policy.cuts length, property cut)
      ↔ (∀ marker ∈ policy.begins, marker.exclusive ->
          property { marker, start := marker.offset })
        ∧ ∀ marker, policy.terminator? = some marker -> marker.exclusive ->
          property { marker, start := length - marker.bytes.length } := by
  rw [cuts, List.forall_mem_append, List.forall_mem_map, List.forall_mem_map]
  simp only [List.mem_filter, Option.mem_toList, Option.filter_eq_some_iff,
    and_imp]

/-- An exclusive end marker has more bytes than the datagram. -/
def TerminatorTooLong (policy : Policy) (length : Nat) : Prop :=
  ∃ marker, policy.terminator? = some marker
    ∧ marker.exclusive
    ∧ length < marker.bytes.length

theorem pairwise_mergeSort_fst (stretches : List (Nat × Nat)) :
    (stretches.mergeSort fun first second => first.1 ≤ second.1).Pairwise
      fun first second => first.1 ≤ second.1 := by
  have transitive (first second third : Nat × Nat) :
      decide (first.1 ≤ second.1) -> decide (second.1 ≤ third.1) ->
        decide (first.1 ≤ third.1) := by
    simp only [decide_eq_true_eq]
    exact le_trans
  have total (first second : Nat × Nat) :
      decide (first.1 ≤ second.1) || decide (second.1 ≤ first.1) := by
    simp only [Bool.or_eq_true, decide_eq_true_eq]
    exact le_total first.1 second.1
  simpa only [decide_eq_true_eq]
    using List.pairwise_mergeSort transitive total stretches

/-- The stretches of a datagram are those of its cuts, in order, if its end
marker is not longer than itself. -/
theorem excluded_cases (policy : Policy) (length : Nat) :
    (policy.TerminatorTooLong length
        ∧ policy.excluded length = .error .outsideDatagram)
      ∨ (¬policy.TerminatorTooLong length
        ∧ ∃ stretches, policy.excluded length = .ok stretches
          ∧ stretches.Pairwise (fun first second => first.1 ≤ second.1)
          ∧ stretches.Perm ((policy.cuts length).map Cut.stretch)) := by
  have begins :
      ((policy.begins.filter Marker.exclusive).map
          fun marker => { marker, start := marker.offset }).map Cut.stretch
        = (policy.begins.filter Marker.exclusive).map
          fun marker => (marker.offset, marker.extent) := by
    rw [List.map_map]
    rfl
  rw [excluded, cuts, List.map_append, begins]
  cases found : policy.terminator?.filter Marker.exclusive with
  | none =>
      right
      refine ⟨?_, _, rfl, pairwise_mergeSort_fst _, ?_⟩
      · rintro ⟨marker, isTerminator, isExclusive, -⟩
        rw [isTerminator, Option.filter_some_pos isExclusive] at found
        cases found
      · rw [Option.toList_none, List.map_nil, List.map_nil, List.append_nil]
        exact List.mergeSort_perm _ _
  | some marker =>
      obtain ⟨isTerminator, isExclusive⟩ := Option.filter_eq_some_iff.1 found
      by_cases tooLong : length < marker.bytes.length
      · exact .inl ⟨⟨marker, isTerminator, isExclusive, tooLong⟩,
          if_pos tooLong⟩
      · right
        refine ⟨?_, _, if_neg tooLong, pairwise_mergeSort_fst _, ?_⟩
        · rintro ⟨other, isOther, -, otherTooLong⟩
          rw [isTerminator] at isOther
          cases isOther
          exact tooLong otherTooLong
        · have stretch : Cut.stretch
              { marker, start := length - marker.bytes.length }
              = (length - marker.bytes.length, length) := by
            rw [Cut.stretch, Cut.stop,
              Nat.sub_add_cancel (Nat.not_lt.1 tooLong)]
          rw [Option.toList_some, List.map_singleton, List.map_singleton,
            stretch]
          exact List.mergeSort_perm _ _

/-- What makes stripping break off: an exclusive end marker that is too long, or
an exclusive begin marker that lies beyond the datagram and is not reached by
one that begins before it. -/
def BreaksOff (policy : Policy) (length : Nat) : Prop :=
  policy.TerminatorTooLong length
    ∨ ∃ marker ∈ policy.begins, marker.exclusive
      ∧ length < marker.offset
      ∧ ∀ other ∈ policy.begins, other.exclusive ->
        other.offset < marker.offset -> other.extent < marker.offset

theorem leavesGap_cuts_iff (notTooLong : ¬policy.TerminatorTooLong length) :
    LeavesGap length ((policy.cuts length).map Cut.stretch)
      ↔ policy.BreaksOff length := by
  -- The stretch of an end marker neither begins beyond the datagram nor reaches
  -- beyond it.
  have ends (marker : Marker) (isTerminator : policy.terminator? = some marker)
      (isExclusive : marker.exclusive) :
      length - marker.bytes.length + marker.bytes.length = length := by
    apply Nat.sub_add_cancel
    by_contra tooLong
    exact notTooLong
      ⟨marker, isTerminator, isExclusive, Nat.not_le.1 tooLong⟩
  rw [BreaksOff, or_iff_right notTooLong, LeavesGap]
  simp only [List.forall_mem_map, forall_mem_cuts]
  simp only [List.mem_map, exists_exists_and_eq_and]
  simp only [exists_mem_cuts, Cut.stretch, Cut.stop]
  constructor
  · rintro (⟨marker, member, isExclusive, beyond, gap, -⟩
      | ⟨marker, isTerminator, isExclusive, beyond, -⟩)
    · exact ⟨marker, member, isExclusive, beyond, gap⟩
    · exact absurd beyond (Nat.sub_le _ _).not_gt
  · rintro ⟨marker, member, isExclusive, beyond, gap⟩
    refine .inl ⟨marker, member, isExclusive, beyond, gap, ?_⟩
    intro other isTerminator otherExclusive _
    exact (ends other isTerminator otherExclusive).trans_lt beyond

/-- A datagram comes to its bytes outside of all cuts, unless stripping breaks
off. -/
theorem strip_cases (policy : Policy) (datagram : Bytes) :
    (policy.BreaksOff datagram.length
        ∧ policy.strip datagram = .error .outsideDatagram)
      ∨ (¬policy.BreaksOff datagram.length
        ∧ policy.strip datagram
          = .ok (bytesWhere
            (Outside ((policy.cuts datagram.length).map Cut.stretch))
            0 datagram)) := by
  obtain ⟨tooLong, failed⟩
      | ⟨notTooLong, stretches, excluded, ordered, same⟩ :=
    policy.excluded_cases datagram.length
  · exact .inl ⟨.inl tooLong, by rw [strip, failed]; rfl⟩
  · have forward : ∀ stretch ∈ stretches, stretch.1 ≤ stretch.2 := by
      intro stretch member
      obtain ⟨cut, -, rfl⟩ := List.mem_map.1 (same.mem_iff.1 member)
      exact Nat.le_add_right _ _
    have cutOut := @cutOut_cases datagram 0 stretches ordered forward
    rw [Nat.zero_max, leavesGap_congr same, leavesGap_cuts_iff notTooLong,
      bytesWhere_congr fun place _ =>
        (and_iff_right (Nat.zero_le place)).trans (outside_congr same place)]
      at cutOut
    rw [strip, excluded]
    exact cutOut

/-- Stripping does what it should to a datagram: the stretches that are cut out
are those of the exclusive markers, they lie within the datagram and hold the
bytes of their markers, and all bytes outside of them remain, in their order. -/
structure StripsMarkers (policy : Policy) (datagram : Bytes) : Prop where
  excluded : ∃ stretches,
    policy.excluded datagram.length = .ok stretches
      ∧ stretches.Perm ((policy.cuts datagram.length).map Cut.stretch)
  within : ∀ cut ∈ policy.cuts datagram.length, cut.stop ≤ datagram.length
  markers : ∀ cut ∈ policy.cuts datagram.length,
    (datagram.drop cut.start).take cut.marker.bytes.length = cut.marker.bytes
  content :
    policy.strip datagram
      = .ok (bytesWhere
        (Outside ((policy.cuts datagram.length).map Cut.stretch)) 0 datagram)

/-- A datagram reaches over all exclusive begin markers, and if its length was
announced, it ends with its exclusive end marker. -/
structure HoldsMarkers (policy : Policy) (datagram : Bytes) : Prop where
  begins : ∀ marker ∈ policy.begins, marker.exclusive ->
    marker.extent ≤ datagram.length
  terminator : ∀ marker, policy.terminator? = some marker ->
    marker.exclusive -> policy.rule = .announced -> marker.bytes <:+ datagram

/-- What stripping makes of a datagram. -/
structure Stripping (policy : Policy) (datagram : Bytes) : Prop where
  strips_iff : policy.StripsMarkers datagram ↔ policy.HoldsMarkers datagram
  fails_iff :
    policy.strip datagram = .error .outsideDatagram
      ↔ policy.BreaksOff datagram.length
  content : ∀ content, policy.strip datagram = .ok content ->
    content
      = bytesWhere (Outside ((policy.cuts datagram.length).map Cut.stretch))
        0 datagram

end Policy

/-! ## Datagrams that are taken -/

theorem firstOccurrence?_prefix {pattern buffer : Bytes} {place : Nat}
    (found : firstOccurrence? pattern buffer = some place) :
    pattern <+: buffer.drop place := by
  induction buffer generalizing place with
  | nil =>
      rw [firstOccurrence?] at found
      split at found
      · rename_i isEmpty
        rw [isEmpty]
        exact List.nil_prefix
      · cases found
  | cons first rest inductionHypothesis =>
      rw [firstOccurrence?] at found
      split at found
      · rename_i here
        cases found
        exact List.isPrefixOf_iff_prefix.1 here
      · obtain ⟨later, foundLater, rfl⟩ := Option.map_eq_some_iff.1 found
        exact inductionHypothesis foundLater

theorem Marker.find?_prefix {marker : Marker} {buffer : Bytes} {place : Nat}
    (found : marker.find? buffer = some place) :
    marker.bytes <+: buffer.drop place := by
  unfold Marker.find? at found
  split at found
  · cases found
  · obtain ⟨later, foundLater, rfl⟩ := Option.map_eq_some_iff.1 found
    have begins := firstOccurrence?_prefix foundLater
    rwa [List.drop_drop, Nat.add_comm] at begins

namespace Policy

variable {policy : Policy} {stream datagram : Bytes} {length : Nat}

/-- A datagram whose length its end marker tells ends with it. -/
theorem suffix_of_delimited {marker : Marker}
    (isRule : policy.rule = .endMarker)
    (isTerminator : policy.terminator? = some marker)
    (known : policy.datagramLength stream = .known length) :
    marker.bytes <:+ stream.take length := by
  rw [datagramLength, isRule, isTerminator] at known
  dsimp only at known
  rw [delimitedLength] at known
  split at known
  · rename_i place found
    cases known
    rw [List.take_add, ← List.prefix_iff_eq_take.1 (Marker.find?_prefix found)]
    exact List.suffix_append _ _
  · cases known

/-- If a datagram holds its markers, it ends with its exclusive end marker,
whatever tells its length. -/
theorem HoldsMarkers.suffix (holds : policy.HoldsMarkers (stream.take length))
    (known : policy.datagramLength stream = .known length) {marker : Marker}
    (isTerminator : policy.terminator? = some marker)
    (isExclusive : marker.exclusive) :
    marker.bytes <:+ stream.take length := by
  cases rule : policy.rule with
  | announced => exact holds.terminator marker isTerminator isExclusive rule
  | endMarker => exact suffix_of_delimited rule isTerminator known

/-- A begin marker within a datagram at the front of a stream stands there as in
the stream. -/
theorem Begins.take_drop_take (begins : policy.Begins stream)
    {marker : Marker} (member : marker ∈ policy.begins)
    (within : marker.extent ≤ length) :
    ((stream.take length).drop marker.offset).take marker.bytes.length
      = marker.bytes := by
  have short : marker.bytes.length ≤ length - marker.offset :=
    Nat.le_sub_of_add_le' within
  rw [List.drop_take, List.take_take, Nat.min_eq_left short]
  exact (begins marker member).take_drop

theorem StripsMarkers.holdsMarkers (strips : policy.StripsMarkers datagram) :
    policy.HoldsMarkers datagram := by
  obtain ⟨beginsWithin, endWithin⟩ := forall_mem_cuts.1 strips.within
  obtain ⟨-, endMarker⟩ := forall_mem_cuts.1 strips.markers
  constructor
  · exact beginsWithin
  · intro marker isTerminator isExclusive _
    rw [← endMarker marker isTerminator isExclusive]
    rw [List.take_of_length_le]
    · exact List.drop_suffix _ _
    · rw [List.length_drop]
      exact tsub_tsub_le

theorem HoldsMarkers.stripsMarkers
    (holds : policy.HoldsMarkers (stream.take length))
    (begins : policy.Begins stream)
    (known : policy.datagramLength stream = .known length) :
    policy.StripsMarkers (stream.take length) := by
  have notTooLong : ¬policy.TerminatorTooLong (stream.take length).length := by
    rintro ⟨marker, isTerminator, isExclusive, tooLong⟩
    have ends := holds.suffix known isTerminator isExclusive
    exact ends.length_le.not_gt tooLong
  constructor
  · obtain ⟨tooLong, -⟩ | ⟨-, stretches, excluded, -, same⟩ :=
      policy.excluded_cases (stream.take length).length
    · exact absurd tooLong notTooLong
    · exact ⟨stretches, excluded, same⟩
  · refine forall_mem_cuts.2 ⟨holds.begins, ?_⟩
    intro marker isTerminator isExclusive
    have ends := holds.suffix known isTerminator isExclusive
    exact (Nat.sub_add_cancel ends.length_le).le
  · rw [forall_mem_cuts]
    constructor
    · intro marker member isExclusive
      apply begins.take_drop_take member
      exact (holds.begins marker member isExclusive).trans
        (List.length_take_le _ _)
    · intro marker isTerminator isExclusive
      have ends := holds.suffix known isTerminator isExclusive
      rw [← List.suffix_iff_eq_drop.1 ends, List.take_length]
  · obtain ⟨tooLong | ⟨marker, member, isExclusive, beyond, -⟩, -⟩
        | ⟨-, stripped⟩ :=
      policy.strip_cases (stream.take length)
    · exact absurd tooLong notTooLong
    · have reaches := holds.begins marker member isExclusive
      exact absurd beyond ((Nat.le_add_right _ _).trans reaches).not_gt
    · exact stripped

/-- What stripping makes of a datagram at the front of a stream. -/
theorem Begins.stripping (begins : policy.Begins stream)
    (known : policy.datagramLength stream = .known length) :
    policy.Stripping (stream.take length) := by
  constructor
  · exact ⟨fun strips => strips.holdsMarkers,
      fun holds => holds.stripsMarkers begins known⟩
  · obtain ⟨breaks, failed⟩ | ⟨noBreak, stripped⟩ :=
      policy.strip_cases (stream.take length)
    · exact iff_of_true failed breaks
    · rw [stripped]
      exact iff_of_false (by simp) noBreak
  · intro content isContent
    obtain ⟨-, failed⟩ | ⟨-, stripped⟩ :=
      policy.strip_cases (stream.take length)
    · rw [failed] at isContent
      cases isContent
    · exact Except.ok.inj (isContent.symm.trans stripped)

end Policy

namespace Registry

variable {registry : Registry} {policy : Policy} {buffer : Bytes}
  {noise length : Nat}

/-- What a step takes belongs to the policy that owns its front, and is as long
as the policy's length rule tells. -/
theorem owns_of_step_take
    (taken : registry.step buffer = .take noise policy length) :
    registry.Owns policy (buffer.drop noise)
      ∧ policy.datagramLength (buffer.drop noise) = .known length := by
  induction buffer generalizing noise with
  | nil =>
      have waits : registry.step [] = .wait 0 0 := rfl
      rw [waits] at taken
      cases taken
  | cons first rest inductionHypothesis =>
      cases chosen : registry.choose (first :: rest) with
      | pending needed =>
          rw [step_cons_of_pending chosen] at taken
          cases taken
      | nobody =>
          rw [step_cons_of_nobody chosen] at taken
          cases later : registry.step rest with
          | wait noise needed => rw [later] at taken; cases taken
          | skip noise length => rw [later] at taken; cases taken
          | take noise policy length =>
              rw [later] at taken
              cases taken
              exact inductionHypothesis later
      | found owner =>
          rw [step_cons_of_found chosen] at taken
          obtain ⟨-, needed, waits⟩ | ⟨told, -, known, -, takes⟩
              | ⟨-, -, skips⟩ :=
            stepOf_cases owner (first :: rest) 0
          · rw [waits] at taken
            cases taken
          · rw [takes] at taken
            cases taken
            have owns := owns_append_of_choose_found [] chosen
            rw [List.append_nil] at owns
            exact ⟨owns, known⟩
          · rw [skips] at taken
            cases taken

/-- Of a datagram that is taken, stripping removes the exclusive markers and
nothing else if and only if the datagram reaches over the begin markers and,
when its length was announced, ends with its end marker. It breaks off only
where a marker lies beyond the datagram, and whatever remains are the bytes
outside of all cuts. -/
theorem stripping_of_take
    (taken : registry.step buffer = .take noise policy length) :
    policy.Stripping ((buffer.drop noise).take length) := by
  obtain ⟨owns, known⟩ := owns_of_step_take taken
  exact owns.begins.stripping known

/-- Lines between two exclusive markers. -/
def line : Policy :=
  { name := "line"
    kind := .delimited
    begins := [{ bytes := [0x02], offset := 0, exclusive := true }]
    terminator? := some { bytes := [0x03], offset := 1, exclusive := true }
    rule := .endMarker
    hasEnd := by decide
    hasBegin := by decide
    noneEmpty := by decide }

/-- A line behind a byte of noise comes to what stands between its markers. -/
theorem stripping_of_take_line :
    Registry.step { policies := [line] } [0x00, 0x02, 0x41, 0x42, 0x03]
        = .take 1 line 4
      ∧ line.Stripping [0x02, 0x41, 0x42, 0x03]
      ∧ line.strip [0x02, 0x41, 0x42, 0x03] = .ok [0x41, 0x42] := by
  have taken : Registry.step { policies := [line] }
      [0x00, 0x02, 0x41, 0x42, 0x03] = .take 1 line 4 := by rfl
  refine ⟨taken, stripping_of_take taken, ?_⟩
  cbv

/-- Datagrams with a header, and an exclusive end marker besides. -/
def announcedLine : Policy :=
  { name := "announced-line"
    kind := .transport
    begins := [{ bytes := [0x03, 0x00], offset := 0, exclusive := false }]
    terminator? := some { bytes := [0x0D], offset := 4, exclusive := true }
    rule := .announced
    hasEnd := by decide
    hasBegin := by decide
    noneEmpty := by decide }

/-- Lines with another begin marker, which may lie behind the end marker. -/
def farMarkedLine : Policy :=
  { name := "far-marked-line"
    kind := .delimited
    begins :=
      [{ bytes := [0x02], offset := 0, exclusive := true },
        { bytes := [0xAA], offset := 4, exclusive := true }]
    terminator? := some { bytes := [0x03], offset := 1, exclusive := true }
    rule := .endMarker
    hasEnd := by decide
    hasBegin := by decide
    noneEmpty := by decide }

/-- A header may announce a datagram that does not end with its end marker, and
then a byte of the payload is cut off; and a line may end before one of its
begin markers, and then stripping breaks off. -/
theorem exists_not_stripsMarkers :
    (Registry.step { policies := [announcedLine] }
          [0x03, 0x00, 0x00, 0x08, 0x02, 0xF0, 0x80, 0x41]
        = .take 0 announcedLine 8
      ∧ announcedLine.strip [0x03, 0x00, 0x00, 0x08, 0x02, 0xF0, 0x80, 0x41]
        = .ok [0x03, 0x00, 0x00, 0x08, 0x02, 0xF0, 0x80]
      ∧ ¬announcedLine.StripsMarkers
        [0x03, 0x00, 0x00, 0x08, 0x02, 0xF0, 0x80, 0x41])
    ∧ Registry.step { policies := [farMarkedLine] }
          [0x02, 0x41, 0x03, 0x00, 0xAA]
        = .take 0 farMarkedLine 3
      ∧ farMarkedLine.strip [0x02, 0x41, 0x03] = .error .outsideDatagram := by
  refine ⟨⟨rfl, by cbv, ?_⟩, rfl, by cbv⟩
  intro strips
  have ends := strips.holdsMarkers.terminator _ rfl rfl rfl
  revert ends
  decide

end Registry
end PlcLink
