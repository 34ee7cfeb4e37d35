import Mathlib
import PlcLink.Framing.Pass
import PlcLink.Proofs.Framing.Datagrams
import PlcLink.Proofs.Receiving.Selection

/-!
# Guarded framing

Datagrams are taken from a stream in a loop that keeps its buffer and its counts
up to date, with a guard at every step. Whatever is counted, a byte of the
stream went with it, so that no count exceeds the number of bytes received; and
each round of the loop but the last takes a byte from the buffer. As long as the
bytes of the stream, and what policies look at beyond them, can be counted, the
loop comes to what `Registry.extract` comes to.
-/

namespace PlcLink

/-- What framing adds up over so many bytes of a stream stays below a limit: the
number of bytes, the places behind them at which a begin marker ends, and the
bytes that must be there before a length can be found. -/
structure Registry.StaysBelow (registry : Registry) (limit length : Nat) :
    Prop where
  stream : length < limit
  reach : ∀ policy ∈ registry.policies, length + policy.beginExtent < limit
  minimum : ∀ policy ∈ registry.policies, policy.minimumSize < limit

theorem Registry.StaysBelow.mono {registry : Registry} {limit bound : Nat}
    {length shorter : Nat} (below : registry.StaysBelow limit length)
    (noHigher : limit ≤ bound) (noLonger : shorter ≤ length) :
    registry.StaysBelow bound shorter := by
  obtain ⟨stream, reach, minimum⟩ := below
  constructor
  · omega
  · intro policy member
    have := reach policy member
    omega
  · intro policy member
    have := minimum policy member
    omega

namespace Guarded

/-! ## Exclusive markers outside of their datagrams -/

variable {first second third fourth : Type}
  {related : first -> second -> Prop} {implied : third -> fourth -> Prop}

/-- A guarded computation comes to what its function comes to. Where the
function fails, it stops with the fault of a slice, or of a difference, for a
marker that does not lie within its datagram. It stops with no other fault. -/
inductive Comes (related : first -> second -> Prop) :
    Guarded first -> Except ExclusionFault second -> Prop
  | value {value : first} {result : second} (same : related value result) :
      Comes related (.ok value) (.ok result)
  | outOfRange : Comes related (crash .outOfRange) (.error .outsideDatagram)
  | underflow : Comes related (crash .underflow) (.error .outsideDatagram)

namespace Comes

variable {guarded : Guarded first} {plain : Except ExclusionFault second}

theorem of_eq {value : first} (ran : guarded = .ok value) :
    Comes Eq guarded (.ok value) := by
  rw [ran]
  exact .value rfl

theorem exists_of_ok {result : second}
    (comes : Comes related guarded (.ok result)) :
    ∃ value, guarded = .ok value ∧ related value result := by
  cases comes with
  | value same => exact ⟨_, rfl, same⟩

theorem exists_of_guarded_ok {value : first}
    (comes : Comes related (.ok value) plain) :
    ∃ result, plain = .ok result ∧ related value result := by
  generalize ran : (.ok value : Guarded first) = guarded at comes
  cases comes with
  | value same =>
      cases ran
      exact ⟨_, rfl, same⟩
  | outOfRange => cases ran
  | underflow => cases ran

/-- A failure is the same whatever relates the values. -/
theorem of_error {implied : first -> third -> Prop} {fault : ExclusionFault}
    (comes : Comes related guarded (.error fault)) :
    Comes implied guarded (.error fault) := by
  cases comes with
  | outOfRange => exact .outOfRange
  | underflow => exact .underflow

/-- One computation after another. -/
theorem bind (comes : Comes related guarded plain)
    {next : first -> Guarded third}
    {plainNext : second -> Except ExclusionFault fourth}
    (comesNext : ∀ value result, related value result ->
      Comes implied (next value) (plainNext result)) :
    Comes implied (guarded >>= next) (plain >>= plainNext) := by
  cases comes with
  | value same => exact comesNext _ _ same
  | outOfRange => exact .outOfRange
  | underflow => exact .underflow

/-- The function came to the result that is related. -/
theorem attach (comes : Comes related guarded plain) :
    Comes (fun value result => related value result ∧ plain = .ok result)
      guarded plain := by
  cases comes with
  | value same => exact .value ⟨same, rfl⟩
  | outOfRange => exact .outOfRange
  | underflow => exact .underflow

/-- What cannot fail on either side behind a computation. -/
theorem map (comes : Comes related guarded plain)
    {next : first -> third} {plainNext : second -> fourth}
    (implies : ∀ value result, related value result ->
      implied (next value) (plainNext result)) :
    Comes implied (guarded >>= fun value => .ok (next value))
      (plain >>= fun result => .ok (plainNext result)) :=
  comes.bind fun value result same => .value (implies value result same)

/-- What cannot fail behind the function alone. -/
theorem mapPlain {implied : first -> fourth -> Prop}
    (comes : Comes related guarded plain) {plainNext : second -> fourth}
    (implies : ∀ value result, related value result ->
      implied value (plainNext result)) :
    Comes implied guarded
      (plain >>= fun result => .ok (plainNext result)) := by
  cases comes with
  | value same => exact .value (implies _ _ same)
  | outOfRange => exact .outOfRange
  | underflow => exact .underflow

/-- What can fail before the function's last step is all that can fail. -/
theorem of_mapPlain {plainNext : second -> first}
    (comes : Comes Eq guarded
      (plain >>= fun result => .ok (plainNext result))) :
    Comes (fun value result => value = plainNext result) guarded plain := by
  cases plain with
  | error fault => exact of_error comes
  | ok result =>
      obtain ⟨value, ran, same⟩ := comes.exists_of_ok
      rw [ran]
      exact .value same

end Comes

/-! ## What is cut out -/

theorem excluded_comes {policy : Policy}
    (fits : policy.beginExtent < 2 ^ 64) (length : Nat) :
    Comes Eq (excluded policy length) (policy.excluded length) := by
  have begins : (policy.begins.filter Marker.exclusive).mapM
        (fun marker => do return (marker.offset, <- extent marker))
      = .ok ((policy.begins.filter Marker.exclusive).map
          fun marker => (marker.offset, marker.extent)) := by
    apply mapM_eq_ok_of_forall₂
    rw [List.forall₂_map_right_iff, List.forall₂_same]
    intro marker member
    have reach :=
      Policy.extent_le_beginExtent (List.mem_of_mem_filter member)
    rw [extent_eq (by omega)]
    rfl
  rw [excluded, begins, ok_bind, Policy.excluded]
  cases policy.terminator?.filter Marker.exclusive with
  | none =>
      simp only [Option.toList_none, List.mapM_nil, pure_eq_ok, ok_bind,
        List.append_nil]
      exact .value rfl
  | some marker =>
      simp only [Option.toList_some, List.mapM_cons, List.mapM_nil, sub]
      by_cases within : marker.bytes.length ≤ length
      · rw [if_pos within, if_neg (by omega)]
        exact .value rfl
      · rw [if_neg within, if_pos (by omega)]
        exact .underflow

theorem cutOut_comes (datagram : Bytes) (place : Nat)
    (stretches : List (Nat × Nat)) :
    Comes Eq (cutOut datagram place stretches)
      (Policy.cutOut datagram place stretches) := by
  induction stretches generalizing place with
  | nil =>
      rw [cutOut, Policy.cutOut]
      split
      · exact .of_eq (after_eq (by omega))
      · rw [List.drop_eq_nil_of_le (by omega)]
        exact .value rfl
  | cons stretch stretches inductionHypothesis =>
      obtain ⟨start, stop⟩ := stretch
      have later := inductionHypothesis (max place stop)
      rw [cutOut, Policy.cutOut]
      by_cases behind : start ≤ place
      · rw [if_neg (by omega), if_pos behind, ok_bind]
        simpa only [List.nil_append, bind_pure] using later
      · rw [if_pos (by omega), if_neg behind]
        by_cases outside : datagram.length < start
        · rw [slice, if_neg (by omega), if_pos outside]
          exact .outOfRange
        · rw [slice_eq (by omega) (by omega), ok_bind, if_neg outside]
          apply later.map
          rintro kept _ rfl
          rfl

/-- A marker is cut out where it lies within the datagram. -/
theorem strip_comes {policy : Policy}
    (fits : policy.beginExtent < 2 ^ 64) (datagram : Bytes) :
    Comes Eq (strip policy datagram) (policy.strip datagram) := by
  apply (excluded_comes fits datagram.length).bind
  rintro stretches _ rfl
  split
  · rename_i nothing
    rw [nothing, Policy.cutOut]
    exact .value rfl
  · exact cutOut_comes datagram 0 stretches

end Guarded

/-! ## Steps within the buffer -/

namespace Registry

variable {registry : Registry} {buffer : Bytes} {policy : Policy}
  {start needed noise length : Nat}

theorem of_select_found (found : registry.select buffer = .found start policy) :
    start < buffer.length ∧ policy ∈ registry.policies := by
  induction buffer generalizing start with
  | nil => cases found
  | cons first rest inductionHypothesis =>
      rw [select] at found
      split at found
      · rename_i owned
        cases found
        exact ⟨Nat.zero_lt_succ _, (full_of_choose_found owned).1⟩
      · cases found
      · cases later : registry.select rest with
        | nobody => rw [later] at found; cases found
        | pending start needed => rw [later] at found; cases found
        | found start policy =>
            rw [later] at found
            cases found
            obtain ⟨within, member⟩ := inductionHypothesis later
            exact ⟨Nat.succ_lt_succ within, member⟩

theorem lt_of_select_pending
    (held : registry.select buffer = .pending start needed) :
    start < buffer.length := by
  induction buffer generalizing start with
  | nil => cases held
  | cons first rest inductionHypothesis =>
      rw [select] at held
      split at held
      · cases held
      · cases held
        exact Nat.zero_lt_succ _
      · cases later : registry.select rest with
        | nobody => rw [later] at held; cases held
        | found start policy => rw [later] at held; cases held
        | pending start needed =>
            rw [later] at held
            cases held
            exact Nat.succ_lt_succ (inductionHypothesis later)

/-- What a step takes from the buffer is there, and belongs to one of the
policies. -/
inductive StepWithin (registry : Registry) (buffer : Bytes) :
    FramingStep -> Prop
  | wait {noise needed : Nat} (within : noise ≤ buffer.length) :
      StepWithin registry buffer (.wait noise needed)
  | take {noise length : Nat} {policy : Policy}
      (within : noise + length ≤ buffer.length) (positive : 0 < length)
      (member : policy ∈ registry.policies) :
      StepWithin registry buffer (.take noise policy length)
  | skip {noise length : Nat} (within : noise + length ≤ buffer.length)
      (positive : 0 < length) :
      StepWithin registry buffer (.skip noise length)

theorem stepWithin (registry : Registry) (buffer : Bytes) :
    registry.StepWithin buffer (registry.step buffer) := by
  cases chosen : registry.select buffer with
  | nobody =>
      rw [step, chosen]
      exact .wait le_rfl
  | pending start needed =>
      rw [step, chosen]
      exact .wait (lt_of_select_pending chosen).le
  | found start policy =>
      obtain ⟨within, member⟩ := of_select_found chosen
      have made : registry.step buffer
          = stepOf policy start (buffer.drop start) := by
        rw [step, chosen]
      rw [made]
      obtain ⟨needed, waits⟩ | ⟨length, there, takes, -⟩
          | ⟨length, there, skips, -⟩ :=
        stepOf_append policy (buffer.drop start) [] start
      · rw [waits]
        exact .wait within.le
      · rw [List.length_drop] at there
        rw [takes]
        exact .take (by omega) (take_pos (made.trans takes)) member
      · rw [List.length_drop] at there
        rw [skips]
        exact .skip (by omega) (skip_pos (made.trans skips))

theorem noiseBytes_add (first second : Tally) :
    (first + second).noiseBytes = first.noiseBytes + second.noiseBytes := rfl

/-- Nothing can fail to be cut out for the policies of the transport. -/
theorem exists_extract_transport (buffer : Bytes) :
    ∃ extraction, transport.extract buffer = .ok extraction := by
  induction size : buffer.length using Nat.strong_induction_on
    generalizing buffer with
  | _ count inductionHypothesis =>
  have made := transport.stepWithin buffer
  rw [extract_eq]
  generalize transport.step buffer = step at made ⊢
  cases made with
  | wait within => exact ⟨_, rfl⟩
  | @take noise length policy within positive member =>
      obtain ⟨later, extracted⟩ := inductionHypothesis
        (buffer.drop (noise + length)).length
        (by rw [List.length_drop]; omega) _ rfl
      simp only [perform, strip_transport member, extracted]
      exact ⟨_, rfl⟩
  | @skip noise length within positive =>
      obtain ⟨later, extracted⟩ := inductionHypothesis
        (buffer.drop (noise + length)).length
        (by rw [List.length_drop]; omega) _ rfl
      simp only [perform, extracted]
      exact ⟨_, rfl⟩

/-- Every byte of a buffer is noise, belongs to a datagram or is left. -/
theorem length_of_extract {extraction : Extraction}
    (extracted : transport.extract buffer = .ok extraction) :
    extraction.tally.noiseBytes
        + (extraction.datagrams.map (·.content.length)).sum
        + extraction.rest.length
      = buffer.length := by
  induction size : buffer.length using Nat.strong_induction_on
    generalizing buffer extraction with
  | _ count inductionHypothesis =>
  have made := transport.stepWithin buffer
  rw [extract_eq] at extracted
  generalize transport.step buffer = step at made extracted
  cases made with
  | wait within =>
      cases Except.ok.inj extracted
      simp only [List.map_nil, List.sum_nil, List.length_drop]
      omega
  | @take noise length policy within positive member =>
      obtain ⟨content, cut, extracted⟩ := exists_of_bind_eq_ok extracted
      obtain ⟨later, behind, extracted⟩ := exists_of_bind_eq_ok extracted
      cases Except.ok.inj extracted
      have restLength : (buffer.drop (noise + length)).length < count := by
        rw [List.length_drop]
        omega
      have laterLength := inductionHypothesis _ restLength behind rfl
      rw [strip_transport member] at cut
      cases Except.ok.inj cut
      simp only [Extraction.after, noiseBytes_add, List.singleton_append,
        List.map_cons, List.sum_cons, List.length_take, List.length_drop]
        at laterLength ⊢
      omega
  | @skip noise length within positive =>
      obtain ⟨later, behind, extracted⟩ := exists_of_bind_eq_ok extracted
      cases Except.ok.inj extracted
      have restLength : (buffer.drop (noise + length)).length < count := by
        rw [List.length_drop]
        omega
      have laterLength := inductionHypothesis _ restLength behind rfl
      simp only [Extraction.after, noiseBytes_add, List.nil_append,
        List.length_drop] at laterLength ⊢
      omega

/-- The policies of the transport look at a header beyond the stream at most. -/
theorem transport_staysBelow {length : Nat}
    (fits : length + Policy.minAnnounced < 2 ^ 64) :
    transport.StaysBelow (2 ^ 64) length := by
  constructor
  · omega
  · intro policy member
    have extent := (mem_transport member).2.2.2
    omega
  · intro policy member
    obtain ⟨rule, -, -, extent⟩ := mem_transport member
    rw [Policy.minimumSize, rule]
    have header : Policy.minAnnounced < 2 ^ 64 := by decide
    exact Nat.max_lt.2 ⟨by omega, header⟩

end Registry

namespace Guarded

/-! ## The loop, step by step -/

/-- No count of a pass exceeds the bytes received that have left the buffer. -/
structure Pass.Within (pass : Pass) (received : Nat) : Prop where
  consumed : pass.consumed + pass.buffer.length ≤ received
  streak : pass.streak + pass.buffer.length ≤ received
  datagrams : pass.total.datagrams + pass.buffer.length ≤ received
  noiseBytes : pass.total.noiseBytes + pass.buffer.length ≤ received
  resyncs : pass.total.resyncs + pass.buffer.length ≤ received

/-- The same pass with so many bytes discarded. -/
def Pass.without (pass : Pass) (count : Nat) : Pass :=
  { pass with
    buffer := pass.buffer.drop count
    consumed := pass.consumed + count
    total := {
      pass.total with noiseBytes := pass.total.noiseBytes + count } }

/-- The same pass with a datagram taken from its front. -/
def Pass.taking (pass : Pass) (policy : Policy) (length : Nat)
    (content : Bytes) : Pass :=
  { buffer := pass.buffer.drop length
    consumed := pass.consumed + length
    streak := 0
    total := { pass.total with datagrams := pass.total.datagrams + 1 }
    datagrams := pass.datagrams ++ [{ policy, content }] }

/-- The same pass with a datagram that cannot be discarded from its front. -/
def Pass.skipping (pass : Pass) (length : Nat) : Pass :=
  { pass with
    streak := pass.streak + 1
    total := { pass.total with resyncs := pass.total.resyncs + 1 }
  }.without length

@[simp] theorem Pass.buffer_without (pass : Pass) (count : Nat) :
    (pass.without count).buffer = pass.buffer.drop count := rfl

@[simp] theorem Pass.buffer_taking (pass : Pass) (policy : Policy)
    (length : Nat) (content : Bytes) :
    (pass.taking policy length content).buffer = pass.buffer.drop length := rfl

@[simp] theorem Pass.buffer_skipping (pass : Pass) (length : Nat) :
    (pass.skipping length).buffer = pass.buffer.drop length := rfl

/-- What a step makes of a pass, and the number of bytes that are missing if the
pass ends with it. -/
def Pass.perform (pass : Pass) :
    FramingStep -> Except ExclusionFault (Pass × Option Nat)
  | .wait noise needed => .ok (pass.without noise, some needed)
  | .take noise policy length => do
      let pass := pass.without noise
      let content <- policy.strip (pass.buffer.take length)
      return (pass.taking policy length content, none)
  | .skip noise length => .ok ((pass.without noise).skipping length, none)

variable {pass : Pass} {received : Nat}

theorem Pass.fresh_within : Pass.fresh.Within 0 := by
  constructor <;> exact le_rfl

/-- The bytes that follow are received. -/
theorem Pass.Within.next (within : pass.Within received) (bytes : Bytes) :
    (pass.next bytes).Within (received + bytes.length) := by
  obtain ⟨consumed, streak, datagrams, noiseBytes, resyncs⟩ := within
  constructor <;> simp only [Pass.next, List.length_append] <;> omega

theorem Pass.Within.without (within : pass.Within received) {count : Nat}
    (there : count ≤ pass.buffer.length) :
    (pass.without count).Within received := by
  obtain ⟨consumed, streak, datagrams, noiseBytes, resyncs⟩ := within
  constructor <;> simp only [Pass.without, List.length_drop] <;> omega

theorem Pass.Within.taking (within : pass.Within received)
    {policy : Policy} {length : Nat} {content : Bytes}
    (there : length ≤ pass.buffer.length) (positive : 0 < length) :
    (pass.taking policy length content).Within received := by
  obtain ⟨consumed, streak, datagrams, noiseBytes, resyncs⟩ := within
  constructor <;> simp only [Pass.taking, List.length_drop] <;> omega

theorem Pass.Within.skipping (within : pass.Within received) {length : Nat}
    (there : length ≤ pass.buffer.length) (positive : 0 < length) :
    (pass.skipping length).Within received := by
  obtain ⟨consumed, streak, datagrams, noiseBytes, resyncs⟩ := within
  constructor <;> simp only [Pass.skipping, Pass.without, List.length_drop]
    <;> omega

theorem discard_eq {count : Nat} (there : count ≤ pass.buffer.length)
    (consumedFits : pass.consumed + count < 2 ^ 64)
    (noiseFits : pass.total.noiseBytes + count < 2 ^ 64) :
    discard pass count = .ok (pass.without count) := by
  unfold discard
  split
  · rename_i nothing
    rw [nothing]
    rfl
  · rw [after_eq there, ok_bind, add_size_eq consumedFits, ok_bind,
      add_size_eq noiseFits]
    rfl

/-- Whatever is there can be discarded. -/
theorem Pass.Within.discard_eq (within : pass.Within received)
    (fits : received < 2 ^ 64) {count : Nat}
    (there : count ≤ pass.buffer.length) :
    discard pass count = .ok (pass.without count) := by
  obtain ⟨consumed, -, -, noiseBytes, -⟩ := within
  exact Guarded.discard_eq there (by omega) (by omega)

/-- The front of a buffer at which a policy was found is dealt with in one
step. -/
theorem collect_comes {registry : Registry} (within : pass.Within received)
    (below : registry.StaysBelow (2 ^ 64) received)
    {policy : Policy} (member : policy ∈ registry.policies) :
    Comes Eq (collect policy pass)
      (pass.perform (Registry.stepOf policy 0 pass.buffer)) := by
  have minimumFits := below.minimum policy member
  have reachFits := below.reach policy member
  have fits := below.stream
  have bufferFits := within.consumed
  rw [collect, minimumSize_eq minimumFits, ok_bind, Registry.stepOf]
  split
  · rename_i short
    rw [sub_eq short.le]
    exact .value rfl
  · rename_i enough
    rw [datagramLength_eq minimumFits (by omega), ok_bind]
    cases told : policy.datagramLength pass.buffer with
    | needMore count => exact .value rfl
    | known length =>
        have positive := Policy.datagramLength_pos told
        dsimp only
        split
        · rename_i whole
          have counted := within.datagrams
          rw [before_eq whole, ok_bind, after_eq whole, ok_bind,
            add_size_eq (by omega), ok_bind, add_size_eq (by omega), ok_bind]
          apply (strip_comes (by omega) _).map
          rintro content _ rfl
          rfl
        · rename_i cut
          rw [sub_eq (by omega)]
          exact .value rfl
    | invalid =>
        have positive := Policy.minimumSize_pos_of_invalid told
        obtain ⟨-, streak, -, noiseBytes, resyncs⟩ := within
        dsimp only
        rw [add_size_eq (by omega), ok_bind, add_size_eq (by omega), ok_bind,
          Nat.min_eq_left (by omega), discard_eq]
        · exact .value rfl
        · exact Nat.le_of_not_lt enough
        · dsimp only
          omega
        · dsimp only
          omega

/-- The same step behind so many bytes of noise. -/
def stepBehind (noise : Nat) : FramingStep -> FramingStep
  | .wait first needed => .wait (noise + first) needed
  | .take first policy length => .take (noise + first) policy length
  | .skip first length => .skip (noise + first) length

theorem stepOf_eq_stepBehind (policy : Policy) (noise : Nat)
    (buffer : Bytes) :
    Registry.stepOf policy noise buffer
      = stepBehind noise (Registry.stepOf policy 0 buffer) := by
  unfold Registry.stepOf
  split
  · rfl
  · split
    · split <;> rfl
    · rfl
    · rfl

theorem without_without (pass : Pass) (first second : Nat) :
    (pass.without first).without second = pass.without (first + second) := by
  simp only [Pass.without, List.drop_drop, Nat.add_assoc]

theorem perform_without (pass : Pass) (noise : Nat) (step : FramingStep) :
    (pass.without noise).perform step
      = pass.perform (stepBehind noise step) := by
  cases step with
  | wait first needed =>
      simp only [Pass.perform, stepBehind, without_without]
  | take first policy length =>
      simp only [Pass.perform, stepBehind, without_without]
  | skip first length =>
      simp only [Pass.perform, stepBehind, without_without]

/-- One round makes one step. -/
theorem round_comes {registry : Registry} (within : pass.Within received)
    (below : registry.StaysBelow (2 ^ 64) received) :
    Comes Eq (round registry pass)
      (pass.perform (registry.step pass.buffer)) := by
  have fits := below.stream
  have reaches : ∀ policy ∈ registry.policies,
      pass.buffer.length + policy.beginExtent < 2 ^ 64 := by
    intro policy member
    have reach := below.reach policy member
    have length := within.consumed
    omega
  unfold round
  split
  · rename_i nothing
    have nothingLost : pass.without 0 = pass := rfl
    rw [nothing]
    exact .value (by rw [List.length_nil, nothingLost])
  · rw [select_eq reaches, ok_bind, Registry.step]
    cases chosen : registry.select pass.buffer with
    | nobody =>
        dsimp only
        rw [within.discard_eq fits le_rfl]
        exact .value rfl
    | pending start needed =>
        dsimp only
        rw [within.discard_eq fits (Registry.lt_of_select_pending chosen).le]
        exact .value rfl
    | found start policy =>
        obtain ⟨there, member⟩ := Registry.of_select_found chosen
        have step := collect_comes (within.without there.le) below member
        dsimp only
        rw [within.discard_eq fits there.le, ok_bind,
          stepOf_eq_stepBehind policy start, ← perform_without]
        exact step

/-- How a pass that came to its end goes back to the one it began with. -/
structure Pass.Ends (pass final : Pass) (extraction : Extraction) :
    Prop where
  buffer : final.buffer = extraction.rest
  datagrams : final.datagrams = pass.datagrams ++ extraction.datagrams
  total : final.total = pass.total + extraction.tally
  consumed :
    final.consumed + final.buffer.length = pass.consumed + pass.buffer.length

/-- What happened before the rest of a pass is counted before it. -/
theorem Pass.Ends.after {next final : Pass} {later : Extraction}
    (ends : next.Ends final later) {before : Tally} {taken : List Datagram}
    (datagrams : next.datagrams = pass.datagrams ++ taken)
    (total : next.total = pass.total + before)
    (consumed : next.consumed + next.buffer.length
      = pass.consumed + pass.buffer.length) :
    pass.Ends final (later.after before taken) where
  buffer := ends.buffer
  datagrams := by
    rw [ends.datagrams, datagrams, List.append_assoc]
    rfl
  total := by
    rw [ends.total, total, Tally.add_assoc]
    rfl
  consumed := ends.consumed.trans consumed

/-- What a pass that came to its end tells, with as many bytes missing as an
extraction misses. -/
def Pass.Told (pass : Pass) (received : Nat) (told : Pass × Nat)
    (extraction : Extraction) : Prop :=
  told.2 = extraction.needed ∧ pass.Ends told.1 extraction
    ∧ told.1.Within received

/-- The loop ends after as many rounds as there are bytes, and one. -/
theorem rounds_comes {registry : Registry} {count : Nat}
    (enough : pass.buffer.length < count) (within : pass.Within received)
    (below : registry.StaysBelow (2 ^ 64) received) :
    Comes (pass.Told received) (rounds registry count pass)
      (registry.extract pass.buffer) := by
  induction count generalizing pass with
  | zero => omega
  | succ count inductionHypothesis =>
      have step := round_comes within below
      have there := registry.stepWithin pass.buffer
      rw [rounds, Registry.extract_eq]
      generalize registry.step pass.buffer = made at there step ⊢
      cases there with
      | @wait noise needed there =>
          obtain ⟨_, ran, rfl⟩ := step.exists_of_ok
          rw [ran]
          refine .value ⟨rfl, ⟨rfl, (List.append_nil _).symm, rfl, ?_⟩,
            within.without there⟩
          simp only [Pass.without, List.length_drop]
          omega
      | @take noise length policy there positive member =>
          refine step.of_mapPlain.bind ?_
          rintro _ content rfl
          have next : ((pass.without noise).taking policy length
              content).Within received := by
            apply (within.without (by omega)).taking _ positive
            rw [Pass.buffer_without, List.length_drop]
            omega
          have later := inductionHypothesis (by simp; omega) next
          rw [Pass.buffer_taking, Pass.buffer_without, List.drop_drop]
            at later
          refine later.mapPlain ?_
          rintro told later ⟨needed, ends, finalWithin⟩
          refine ⟨needed, ends.after rfl rfl ?_, finalWithin⟩
          simp only [Pass.taking, Pass.without, List.length_drop]
          omega
      | @skip noise length there positive =>
          obtain ⟨_, ran, rfl⟩ := step.exists_of_ok
          have next : ((pass.without noise).skipping length).Within
              received := by
            apply (within.without (by omega)).skipping _ positive
            rw [Pass.buffer_without, List.length_drop]
            omega
          have later := inductionHypothesis (by simp; omega) next
          rw [Pass.buffer_skipping, Pass.buffer_without, List.drop_drop]
            at later
          rw [ran]
          refine later.mapPlain ?_
          rintro told later ⟨needed, ends, finalWithin⟩
          refine ⟨needed, ends.after (List.append_nil _).symm ?_ ?_,
            finalWithin⟩
          · simp only [Pass.skipping, Pass.without, Nat.add_assoc]
            rfl
          · simp only [Pass.skipping, Pass.without, List.length_drop]
            omega

/-- A pass over what was left and the bytes that followed comes to what they
come to. -/
theorem run_comes {registry : Registry} (within : pass.Within received)
    (bytes : Bytes)
    (below : registry.StaysBelow (2 ^ 64) (received + bytes.length)) :
    Comes ((pass.next bytes).Told (received + bytes.length))
      (run registry (pass.next bytes))
      (registry.extract (pass.buffer ++ bytes)) :=
  rounds_comes (Nat.lt_succ_self _) (within.next bytes) below

/-- What a chunk's pass tells. -/
def report (chunk : Registry.ChunkExtraction) : Report :=
  { datagrams := chunk.extraction.datagrams
    needed := chunk.extraction.needed
    consumed := chunk.consumed
    rest := chunk.extraction.rest
    total := chunk.total }

/-- A stream comes to the same with and without guards, as long as what is added
up over its bytes stays a number. -/
theorem extractEach_comes {registry : Registry} {chunks : List Bytes}
    (within : pass.Within received)
    (below : registry.StaysBelow (2 ^ 64)
      (received + chunks.flatten.length)) :
    Comes (fun reports extractions => reports = extractions.map report)
      (extractEach registry pass chunks)
      (registry.extractEach pass.buffer pass.total chunks) := by
  induction chunks generalizing pass received with
  | nil => exact .value rfl
  | cons chunk chunks inductionHypothesis =>
      rw [List.flatten_cons, List.length_append, ← Nat.add_assoc] at below
      have ran := run_comes within chunk
        (below.mono le_rfl (Nat.le_add_right _ _))
      refine ran.bind ?_
      rintro ⟨final, needed⟩ extraction ⟨rfl, ends, finalWithin⟩
      have later := inductionHypothesis finalWithin below
      have consumed := ends.consumed
      have total : final.total = pass.total + extraction.tally := ends.total
      have left : final.consumed
          = (pass.buffer ++ chunk).length - extraction.rest.length := by
        rw [← ends.buffer]
        simp only [Pass.next, List.length_append] at consumed ⊢
        omega
      rw [ends.buffer, total] at later
      refine later.map ?_
      rintro _ extractions rfl
      rw [List.map_cons, report, ends.datagrams, ends.buffer, total, left]
      rfl

/-- A byte with which nothing begins is discarded. -/
theorem run_zero (isZero : pass.buffer = [0x00]) :
    run .transport pass = discard pass 1 >>= fun pass => .ok (pass, 0) := by
  have nobody : select .transport [0x00] = .ok .nobody := rfl
  rw [run, isZero, List.length_singleton, rounds, round, isZero,
    if_neg (by simp), nobody, ok_bind]
  dsimp only
  cases discard pass 1 with
  | error halt => rfl
  | ok pass => rfl

/-- The bytes of a stream have to be counted: noise without end outgrows its
count, be it received byte by byte. -/
theorem extractEach_noise {count : Nat} (empty : pass.buffer = [])
    (counted : pass.total.noiseBytes < 2 ^ 64)
    (many : 2 ^ 64 ≤ pass.total.noiseBytes + count) :
    extractEach .transport pass (List.replicate count [0x00])
      = crash .overflow := by
  induction count generalizing pass with
  | zero => omega
  | succ count inductionHypothesis =>
      have received : (pass.next [0x00]).buffer = [0x00] := by
        rw [Pass.next, empty, List.nil_append]
      have total : (pass.next [0x00]).total = pass.total := rfl
      have there : 1 ≤ (pass.next [0x00]).buffer.length := by
        rw [received, List.length_singleton]
      have consumed : (pass.next [0x00]).consumed + 1 < 2 ^ 64 := by
        rw [Pass.next]
        norm_num
      rw [List.replicate_succ, extractEach, run_zero received]
      by_cases fits : pass.total.noiseBytes + 1 < 2 ^ 64
      · have left : ((pass.next [0x00]).without 1).buffer = [] := by
          rw [Pass.buffer_without, received]
          rfl
        have later : extractEach .transport ((pass.next [0x00]).without 1)
            (List.replicate count [0x00]) = crash .overflow := by
          apply inductionHypothesis left fits
          simp only [Pass.without, total]
          omega
        rw [discard_eq there consumed (total ▸ fits), ok_bind, ok_bind]
        dsimp only
        rw [later]
        rfl
      · have outgrown : add UInt64.size pass.total.noiseBytes 1
            = crash .overflow :=
          add_eq_crash (Nat.not_lt.1 fits)
        have overflows : discard (pass.next [0x00]) 1 = crash .overflow := by
          rw [discard, if_neg Nat.one_ne_zero, after_eq there, ok_bind,
            add_size_eq consumed, ok_bind, total, outgrown]
          rfl
        rw [overflows]
        rfl

end Guarded
end PlcLink
