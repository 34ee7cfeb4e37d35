import Mathlib
import PlcLink.Proofs.Framing.Chunking
import PlcLink.Proofs.Framing.Ownership

/-!
# How many bytes are missing

A pass over a buffer tells how many bytes must follow before another one can
succeed. With fewer bytes another pass does nothing, unless they rule out the
policy whose begin markers the first one waited for: then a shorter datagram of
another policy may be whole before.
-/

namespace PlcLink

namespace Policy

variable {policy : Policy} {buffer : Bytes} {count : Nat}

theorem announcedLength_ne_needMore
    (headerThere : Tpkt.headerLength ≤ buffer.length) :
    announcedLength buffer ≠ .needMore count := by
  match buffer, headerThere with
  | _ :: _ :: _ :: _ :: _, _ =>
      unfold announcedLength
      dsimp only
      split <;> simp

/-- Once a header is there, only an end marker can leave a length untold, and
the next byte may end it. -/
theorem count_eq_one_of_needMore
    (enough : policy.minimumSize ≤ buffer.length)
    (told : policy.datagramLength buffer = .needMore count) : count = 1 := by
  unfold datagramLength at told
  split at told
  · rename_i rule
    have headerThere : Tpkt.headerLength ≤ buffer.length := by
      simp only [minimumSize, rule, minAnnounced] at enough
      simp only [Tpkt.headerLength]
      omega
    exact absurd told (announcedLength_ne_needMore headerThere)
  · unfold delimitedLength at told
    split at told
    · cases told
    · cases told
      rfl
  · cases told

/-- The begin markers neither stand nor are contradicted: the buffer ends before
either shows. -/
def Undecided (policy : Policy) (buffer : Bytes) : Prop :=
  ¬policy.Begins buffer ∧ ¬policy.Contradicted buffer

theorem compareBegin_eq_partialMatch_iff_undecided :
    policy.compareBegin buffer = .partialMatch ↔ policy.Undecided buffer := by
  rw [Undecided, ← compareBegin_eq_full_iff_begins,
    ← compareBegin_eq_mismatch_iff_contradicted]
  cases policy.compareBegin buffer <;> simp

/-- A buffer that ends within the begin markers does not show them all. -/
theorem undecided_of_short (short : buffer.length < policy.beginExtent)
    (notContradicted : ¬policy.Contradicted buffer) :
    policy.Undecided buffer := by
  refine ⟨?_, notContradicted⟩
  intro begins
  have reaches := beginExtent_le_of_full
    (compareBegin_eq_full_iff_begins.2 begins)
  omega

end Policy

namespace Registry

variable {registry : Registry} {policy : Policy} {buffer more : Bytes}
  {needed : Nat}

/-! ## What a pass waits for -/

/-- A policy holds up the choice of the front: it is undecided there, and no
other such policy reaches further. -/
structure HoldsUp (registry : Registry) (policy : Policy) (buffer : Bytes) :
    Prop where
  member : policy ∈ registry.policies
  undecided : policy.Undecided buffer
  furthest : ∀ other ∈ registry.policies, other.Undecided buffer ->
    other.beginExtent ≤ policy.beginExtent

/-- What is missing at the front of a buffer, and how many bytes it takes at
least. -/
inductive Missing (registry : Registry) (buffer : Bytes) : Nat -> Prop
  /-- Begin markers of the policy that holds up the choice. -/
  | candidate {policy : Policy} (holdsUp : registry.HoldsUp policy buffer) :
      Missing registry buffer (policy.beginExtent - buffer.length)
  /-- What tells the length of the datagram. -/
  | header {policy : Policy} (found : registry.choose buffer = .found policy)
      (short : buffer.length < policy.minimumSize) :
      Missing registry buffer (policy.minimumSize - buffer.length)
  /-- The rest of a datagram whose length is known. -/
  | rest {policy : Policy} {length : Nat}
      (found : registry.choose buffer = .found policy)
      (told : policy.datagramLength buffer = .known length)
      (unfinished : buffer.length < length) :
      Missing registry buffer (length - buffer.length)
  /-- An end marker. -/
  | terminator {policy : Policy}
      (found : registry.choose buffer = .found policy)
      (told : policy.datagramLength buffer = .needMore 1) :
      Missing registry buffer 1

theorem mem_comparing_partialMatch :
    policy ∈ registry.comparing .partialMatch buffer ↔
      policy ∈ registry.policies ∧ policy.Undecided buffer := by
  rw [mem_comparing, Policy.compareBegin_eq_partialMatch_iff_undecided]

/-- An undecided policy holds up the choice, or another one does. -/
theorem exists_choose_pending (member : policy ∈ registry.policies)
    (undecided : policy.Undecided buffer) :
    ∃ needed, registry.choose buffer = .pending needed := by
  by_contra settled
  have nonePartial := comparing_partialMatch_eq_nil (not_exists.1 settled)
  have goesOn := mem_comparing_partialMatch.2 ⟨member, undecided⟩
  rw [nonePartial] at goesOn
  cases goesOn

theorem furthest_of_mostSpecific? {policies : List Policy}
    (chosen : mostSpecific? policies = some policy) :
    ∀ other ∈ policies, other.beginExtent ≤ policy.beginExtent := by
  obtain ⟨before, behind, rfl, shorter, notLonger⟩ :=
    furthestOf_of_mostSpecific? chosen
  intro other member
  obtain isBefore | rfl | isBehind :=
    List.mem_append.1 member |>.imp_right List.mem_cons.1
  · exact (shorter other isBefore).le
  · exact le_rfl
  · exact notLonger other isBehind

theorem HoldsUp.length_lt (holdsUp : registry.HoldsUp policy buffer) :
    buffer.length < policy.beginExtent :=
  Policy.length_lt_of_partialMatch
    (Policy.compareBegin_eq_partialMatch_iff_undecided.2 holdsUp.undecided)

theorem mostSpecific?_of_choose_pending
    (held : registry.choose buffer = .pending needed) :
    ∃ policy,
      mostSpecific? (registry.comparing .partialMatch buffer) = some policy
        ∧ needed = missing policy buffer := by
  unfold choose at held
  dsimp only at held
  split at held
  · cases held
  · cases held
  · rename_i isPending
    cases held
    exact ⟨_, isPending, rfl⟩
  · rename_i isPending
    split at held
    · cases held
      exact ⟨_, isPending, rfl⟩
    · cases held

/-- A choice that is held up waits for all begin markers of the policy that
holds it up. -/
theorem missing_of_choose_pending
    (held : registry.choose buffer = .pending needed) :
    registry.Missing buffer needed := by
  obtain ⟨policy, chosen, rfl⟩ := mostSpecific?_of_choose_pending held
  obtain ⟨member, undecided⟩ :=
    mem_comparing_partialMatch.1 (mem_of_mostSpecific? chosen)
  have holdsUp : registry.HoldsUp policy buffer := by
    refine ⟨member, undecided, ?_⟩
    intro other otherMember otherUndecided
    apply furthest_of_mostSpecific? chosen
    exact mem_comparing_partialMatch.2 ⟨otherMember, otherUndecided⟩
  have beyond := holdsUp.length_lt
  rw [missing, Nat.max_eq_left (by omega)]
  exact .candidate holdsUp

/-- What a policy that was found waits for. -/
theorem missing_of_stepOf_wait
    (found : registry.choose buffer = .found policy)
    (waits : stepOf policy 0 buffer = .wait 0 needed) :
    registry.Missing buffer needed := by
  unfold stepOf at waits
  split at waits
  · rename_i short
    cases waits
    exact .header found short
  · rename_i enough
    split at waits
    · rename_i length told
      split at waits
      · cases waits
      · rename_i unfinished
        cases waits
        exact .rest found told (Nat.not_le.1 unfinished)
    · rename_i count told
      cases waits
      obtain rfl := Policy.count_eq_one_of_needMore (Nat.not_lt.1 enough) told
      exact .terminator found told
    · cases waits

/-- A buffer that another pass leaves as it is waits for what is missing at its
front. -/
theorem missing_of_extract_eq {first : UInt8} {rest : Bytes}
    (extracted : registry.extract (first :: rest)
      = .ok
        { datagrams := [], needed, rest := first :: rest, tally := .zero }) :
    registry.Missing (first :: rest) needed := by
  cases chosen : registry.choose (first :: rest) with
  | pending count =>
      rw [extract_of_wait (step_cons_of_pending chosen)] at extracted
      cases extracted
      exact missing_of_choose_pending chosen
  | nobody =>
      -- A byte of noise would have been counted.
      rw [extract_cons_of_nobody chosen] at extracted
      obtain ⟨later, -, same⟩ := exists_of_map_eq_ok extracted
      have counted : 1 + later.tally.noiseBytes = 0 :=
        congrArg (fun extraction => extraction.tally.noiseBytes) same
      omega
  | found policy =>
      have step := step_cons_of_found chosen
      obtain ⟨-, count, waits⟩ | ⟨length, -, -, -, takes⟩ | ⟨-, -, skips⟩ :=
        stepOf_cases policy (first :: rest) 0
      · rw [extract_of_wait (step.trans waits)] at extracted
        cases extracted
        exact missing_of_stepOf_wait chosen waits
      · rw [extract_of_take (step.trans takes)] at extracted
        obtain ⟨content, -, extracted⟩ := exists_of_bind_eq_ok extracted
        obtain ⟨later, -, same⟩ := exists_of_bind_eq_ok extracted
        cases congrArg Extraction.datagrams (Except.ok.inj same)
      · rw [extract_of_skip (step.trans skips)] at extracted
        obtain ⟨later, -, same⟩ := exists_of_map_eq_ok extracted
        have counted : 1 + later.tally.resyncs = 0 :=
          congrArg (fun extraction => extraction.tally.resyncs) same
        omega

/-- A pass leaves nothing and misses nothing, or tells how much it misses. -/
theorem missing_of_extract {extraction : Extraction}
    (extracted : registry.extract buffer = .ok extraction) :
    extraction.rest = [] ∧ extraction.needed = 0
      ∨ extraction.rest ≠ []
        ∧ registry.Missing extraction.rest extraction.needed := by
  have again := extract_rest extracted
  cases left : extraction.rest with
  | nil =>
      rw [left, extract] at again
      have same := congrArg Extraction.needed (Except.ok.inj again)
      exact .inl ⟨rfl, same.symm⟩
  | cons first rest =>
      rw [left] at again
      exact .inr ⟨List.cons_ne_nil _ _, missing_of_extract_eq again⟩

/-! ## When fewer bytes follow -/

theorem Missing.pos (missing : registry.Missing buffer needed) : 0 < needed := by
  cases missing with
  | candidate holdsUp => exact Nat.sub_pos_of_lt holdsUp.length_lt
  | header found short => exact Nat.sub_pos_of_lt short
  | rest found told unfinished => exact Nat.sub_pos_of_lt unfinished
  | terminator found told => exact Nat.zero_lt_one

/-- The bytes that follow contradict every policy that holds up the choice of
the front, of which there is one. -/
def RulesOut (registry : Registry) (buffer more : Bytes) : Prop :=
  (∃ policy, registry.HoldsUp policy buffer)
    ∧ ∀ policy, registry.HoldsUp policy buffer ->
      policy.Contradicted (buffer ++ more)

/-- A front whose policy is found is not held up. -/
theorem not_rulesOut_of_found (found : registry.choose buffer = .found policy) :
    ¬registry.RulesOut buffer more := by
  rintro ⟨⟨other, holdsUp⟩, -⟩
  obtain ⟨needed, held⟩ :=
    exists_choose_pending holdsUp.member holdsUp.undecided
  cases held.symm.trans found

/-- A front that an undecided policy holds up is left as it is. -/
theorem exhausted_of_undecided (nonempty : buffer ≠ [])
    (member : policy ∈ registry.policies)
    (undecided : policy.Undecided buffer) : registry.Exhausted buffer := by
  obtain ⟨first, rest, rfl⟩ := List.exists_cons_of_ne_nil nonempty
  obtain ⟨needed, held⟩ := exists_choose_pending member undecided
  exact ⟨needed, extract_of_wait (step_cons_of_pending held)⟩

/-- A front whose policy waits is left as it is. -/
theorem exhausted_of_found (nonempty : buffer ≠ [])
    (found : registry.choose buffer = .found policy)
    (waits : stepOf policy 0 buffer = .wait 0 needed) :
    registry.Exhausted buffer := by
  obtain ⟨first, rest, rfl⟩ := List.exists_cons_of_ne_nil nonempty
  exact ⟨needed, extract_of_wait ((step_cons_of_found found).trans waits)⟩

/-- Two policies that hold up the choice reach equally far. -/
theorem HoldsUp.beginExtent_eq {other : Policy}
    (holdsUp : registry.HoldsUp policy buffer)
    (otherHoldsUp : registry.HoldsUp other buffer) :
    other.beginExtent = policy.beginExtent :=
  (holdsUp.furthest other otherHoldsUp.member otherHoldsUp.undecided).antisymm
    (otherHoldsUp.furthest policy holdsUp.member holdsUp.undecided)

/-- With fewer bytes than are missing, the front goes on waiting, unless they
rule out whoever holds up the choice. -/
theorem Missing.exhausted_append (missing : registry.Missing buffer needed)
    (nonempty : buffer ≠ []) (few : more.length < needed)
    (notRuledOut : ¬registry.RulesOut buffer more) :
    registry.Exhausted (buffer ++ more) := by
  have grown : buffer ++ more ≠ [] :=
    List.append_ne_nil_of_left_ne_nil nonempty _
  have still {policy : Policy}
      (found : registry.choose buffer = .found policy) :
      registry.choose (buffer ++ more) = .found policy := by
    rw [choose_append more (by simp [found]), found]
  cases missing with
  | @candidate policy holdsUp =>
      obtain ⟨other, otherHoldsUp, notContradicted⟩ : ∃ other,
          registry.HoldsUp other buffer
            ∧ ¬other.Contradicted (buffer ++ more) := by
        by_contra none
        refine notRuledOut ⟨⟨policy, holdsUp⟩, ?_⟩
        simpa only [not_exists, not_and, not_not] using none
      have short : (buffer ++ more).length < other.beginExtent := by
        rw [holdsUp.beginExtent_eq otherHoldsUp, List.length_append]
        omega
      exact exhausted_of_undecided grown otherHoldsUp.member
        (Policy.undecided_of_short short notContradicted)
  | @header policy found short =>
      have stillShort : (buffer ++ more).length < policy.minimumSize := by
        rw [List.length_append]
        omega
      apply exhausted_of_found grown (still found)
      rw [stepOf, if_pos stillShort]
  | @rest policy length found told unfinished =>
      have stillTold :
          policy.datagramLength (buffer ++ more) = .known length := by
        rw [Policy.datagramLength_append more (by simp [told]), told]
      have stillUnfinished : ¬length ≤ (buffer ++ more).length := by
        rw [List.length_append]
        omega
      obtain ⟨-, needed, waits⟩ | ⟨other, -, otherTold, within, -⟩
          | ⟨-, invalid, -⟩ :=
        stepOf_cases policy (buffer ++ more) 0
      · exact exhausted_of_found grown (still found) waits
      · cases otherTold.symm.trans stillTold
        exact absurd within stillUnfinished
      · cases invalid.symm.trans stillTold
  | @terminator policy found told =>
      obtain rfl : more = [] := List.length_eq_zero_iff.1 (by omega)
      rw [List.append_nil] at grown ⊢
      obtain ⟨-, needed, waits⟩ | ⟨other, -, otherTold, -⟩
          | ⟨-, invalid, -⟩ :=
        stepOf_cases policy buffer 0
      · exact exhausted_of_found grown found waits
      · cases otherTold.symm.trans told
      · cases invalid.symm.trans told

/-- A buffer that is too short for the header of any policy holds no datagram. -/
theorem extract_of_short
    (short : ∀ policy ∈ registry.policies,
      buffer.length < policy.minimumSize) :
    ∃ later, registry.extract buffer = .ok later ∧ later.datagrams = [] := by
  induction buffer with
  | nil => exact ⟨_, by rw [extract], rfl⟩
  | cons first rest inductionHypothesis =>
      cases chosen : registry.choose (first :: rest) with
      | pending needed =>
          exact ⟨_, extract_of_wait (step_cons_of_pending chosen), rfl⟩
      | nobody =>
          obtain ⟨later, extracted, isNil⟩ := inductionHypothesis
            fun policy member => (Nat.lt_succ_self _).trans (short policy member)
          refine ⟨later.after noise [], ?_, isNil⟩
          rw [extract_cons_of_nobody chosen, extracted]
          rfl
      | found policy =>
          have member := (full_of_choose_found chosen).1
          have waits : stepOf policy 0 (first :: rest) = .wait 0 _ :=
            if_pos (short policy member)
          exact ⟨_, extract_of_wait ((step_cons_of_found chosen).trans waits),
            rfl⟩

/-- No policy's begin markers reach further than another one's shortest
datagram. -/
def MarkersWithin (registry : Registry) : Prop :=
  ∀ policy ∈ registry.policies, ∀ other ∈ registry.policies,
    policy.beginExtent ≤ other.minimumSize

instance (registry : Registry) : Decidable registry.MarkersWithin :=
  inferInstanceAs (Decidable (∀ policy ∈ _, ∀ other ∈ _, _))

/-- Bytes that rule out whoever holds up the choice are too few for a datagram,
where begin markers do not reach further than datagrams. -/
theorem Missing.short_of_rulesOut (missing : registry.Missing buffer needed)
    (few : more.length < needed) (ruledOut : registry.RulesOut buffer more)
    (within : registry.MarkersWithin) :
    ∀ policy ∈ registry.policies,
      (buffer ++ more).length < policy.minimumSize := by
  intro policy member
  cases missing with
  | @candidate candidate holdsUp =>
      have reaches := within candidate holdsUp.member policy member
      rw [List.length_append]
      omega
  | header found | rest found | terminator found =>
      exact absurd ruledOut (not_rulesOut_of_found found)

/-- What a pass tells of the bytes it misses. Nothing is missing just if nothing
is left. With fewer bytes than are missing another pass does nothing, unless
they rule out the policy that the choice is held up by; and where begin markers
do not reach further than datagrams, no datagram comes of them even then. -/
structure Shortfall (registry : Registry) (left : Bytes) (needed : Nat) :
    Prop where
  needed_eq_zero_iff : needed = 0 ↔ left = []
  missing : left ≠ [] -> registry.Missing left needed
  exhausted : ∀ more, more.length < needed -> ¬registry.RulesOut left more ->
    registry.Exhausted (left ++ more)
  noDatagram : registry.MarkersWithin -> ∀ more, more.length < needed ->
    ∃ later, registry.extract (left ++ more) = .ok later ∧ later.datagrams = []

/-- The number of bytes that a pass misses is right, as far as the bytes that
follow do not rule out the policy that it waits for. -/
theorem shortfall_of_extract {extraction : Extraction}
    (extracted : registry.extract buffer = .ok extraction) :
    registry.Shortfall extraction.rest extraction.needed := by
  obtain ⟨isEmpty, isZero⟩ | ⟨nonempty, missing⟩ := missing_of_extract extracted
  · rw [isEmpty, isZero]
    constructor
    · exact iff_of_true rfl rfl
    · exact fun nonempty => absurd rfl nonempty
    · exact fun more few => absurd few (Nat.not_lt_zero _)
    · exact fun _ more few => absurd few (Nat.not_lt_zero _)
  · constructor
    · exact iff_of_false missing.pos.ne' nonempty
    · exact fun _ => missing
    · exact fun more few => missing.exhausted_append nonempty few
    · intro within more few
      by_cases ruledOut : registry.RulesOut extraction.rest more
      · exact extract_of_short
          (missing.short_of_rulesOut few ruledOut within)
      · obtain ⟨needed, again⟩ :=
          missing.exhausted_append nonempty few ruledOut
        exact ⟨_, again, rfl⟩

/-- What comes of half a begin marker behind a byte of noise. -/
def halfMarker : Extraction :=
  { datagrams := []
    needed := 5
    rest := [0x03]
    tally := { Tally.zero with noiseBytes := 1 } }

/-- No datagram comes of half a begin marker with fewer than the five bytes that
are missing to tell the type of its TPDU. -/
theorem shortfall_of_extract_half :
    transport.extract [0x2A, 0x03] = .ok halfMarker
      ∧ transport.Shortfall [0x03] 5
      ∧ transport.MarkersWithin
      ∧ ∀ more, more.length < 5 ->
        ∃ later,
          transport.extract ([0x03] ++ more) = .ok later
            ∧ later.datagrams = [] := by
  have extracted : transport.extract [0x2A, 0x03] = .ok halfMarker := by
    rw [extract_eq]
    rfl
  have shortfall := shortfall_of_extract extracted
  have within : transport.MarkersWithin := by decide
  exact ⟨extracted, shortfall, within, shortfall.noDatagram within⟩

/-- Lines between two bytes. -/
def plainLine : Policy :=
  { name := "line"
    kind := .delimited
    begins := [marker [0x02] 0]
    terminator? := some (marker [0x03] 1)
    rule := .endMarker
    hasEnd := by decide
    hasBegin := by decide
    noneEmpty := by decide }

/-- Lines that begin with a word. -/
def wordLine : Policy :=
  { plainLine with
    name := "word-line"
    begins := [marker [0x02, 0x41, 0x42, 0x43] 0]
    terminator? := some (marker [0x03] 4)
    hasEnd := by decide
    hasBegin := by decide
    noneEmpty := by decide }

/-- Both kinds of lines. -/
def bothLines : Registry :=
  { policies := [plainLine, wordLine] }

/-- The beginning of a word line misses two bytes of its begin marker, but one
byte that rules it out makes it a whole line. -/
theorem exists_datagram_of_fewer :
    ∃ extraction later,
      bothLines.extract [0x02, 0x41] = .ok extraction
        ∧ extraction.rest = [0x02, 0x41]
        ∧ extraction.needed = 2
        ∧ bothLines.extract (extraction.rest ++ [0x03]) = .ok later
        ∧ later.datagrams.map Datagram.content = [[0x02, 0x41, 0x03]] := by
  have waits : bothLines.step [0x02, 0x41] = .wait 0 2 := by rfl
  have takes : bothLines.step [0x02, 0x41, 0x03] = .take 0 plainLine 3 := by
    rfl
  have stripped : plainLine.strip [0x02, 0x41, 0x03]
      = .ok [0x02, 0x41, 0x03] := by cbv
  exact ⟨_, _, extract_of_wait waits, rfl, rfl,
    extract_of_take_length takes stripped, rfl⟩

end Registry
end PlcLink
