import Mathlib
import PlcLink.Framing.Inbound
import PlcLink.Proofs.Failure
import PlcLink.Proofs.Framing.Growth

/-!
# Streams in chunks

How a stream is cut into chunks does not matter: extracting after each chunk
comes to the same as extracting once from the whole stream.
-/

namespace PlcLink

namespace Tally

attribute [ext] Tally

@[simp] theorem zero_add (tally : Tally) : zero + tally = tally := by
  change add zero tally = tally
  simp [add, zero]

@[simp] theorem add_zero (tally : Tally) : tally + zero = tally := by
  change add tally zero = tally
  simp [add, zero]

theorem mk_add_mk (datagrams noiseBytes resyncs : Nat)
    (moreDatagrams moreNoise moreResyncs : Nat) :
    (⟨datagrams, noiseBytes, resyncs⟩ + ⟨moreDatagrams, moreNoise, moreResyncs⟩
        : Tally)
      = ⟨datagrams + moreDatagrams, noiseBytes + moreNoise,
        resyncs + moreResyncs⟩ := rfl

theorem add_assoc (first second third : Tally) :
    first + second + third = first + (second + third) := by
  change add (add first second) third = add first (add second third)
  simp [add, Nat.add_assoc]

theorem eq_zero_of_add_eq_left {first second : Tally}
    (equal : first + second = first) : second = zero := by
  change add first second = first at equal
  obtain ⟨datagrams, noiseBytes, resyncs⟩ := second
  simp only [add, Tally.ext_iff, Nat.add_eq_left] at equal
  simp [zero, equal]

end Tally

namespace Extraction

/-- One pass and the next one, seen as a single pass. -/
def followedBy (first second : Extraction) : Extraction :=
  { datagrams := first.datagrams ++ second.datagrams
    needed := second.needed
    rest := second.rest
    tally := first.tally + second.tally }

/-- The same pass with more happening before it. -/
def after (before : Tally) (datagrams : List Datagram)
    (extraction : Extraction) : Extraction :=
  { extraction with
    datagrams := datagrams ++ extraction.datagrams
    tally := before + extraction.tally }

theorem after_followedBy (before : Tally) (datagrams : List Datagram)
    (first second : Extraction) :
    (first.after before datagrams).followedBy second
      = (first.followedBy second).after before datagrams := by
  simp [after, followedBy, Tally.add_assoc]

theorem after_after (earlier before : Tally)
    (first second : List Datagram) (extraction : Extraction) :
    (extraction.after before second).after earlier first
      = extraction.after (earlier + before) (first ++ second) := by
  simp [after, Tally.add_assoc]

end Extraction

namespace FramingStep

/-- The same step one byte further on. -/
def shift : FramingStep -> FramingStep
  | wait noise needed => wait (noise + 1) needed
  | take noise policy length => take (noise + 1) policy length
  | skip noise length => skip (noise + 1) length

end FramingStep

namespace Registry

variable {registry : Registry} {buffer : Bytes}

/-! ## One step at the front -/

/-- What happens once the step is known. -/
def perform (registry : Registry) (buffer : Bytes) :
    FramingStep -> Except ExclusionFault Extraction
  | .wait noise needed =>
      .ok
        { datagrams := []
          needed
          rest := buffer.drop noise
          tally := { Tally.zero with noiseBytes := noise } }
  | .take noise policy length => do
      let content <- policy.strip ((buffer.drop noise).take length)
      let later <- registry.extract (buffer.drop (noise + length))
      return later.after { datagrams := 1, noiseBytes := noise, resyncs := 0 }
        [{ policy, content }]
  | .skip noise length => do
      let later <- registry.extract (buffer.drop (noise + length))
      return later.after
        { datagrams := 0, noiseBytes := noise + length, resyncs := 1 } []

theorem extract_eq (registry : Registry) (buffer : Bytes) :
    registry.extract buffer
      = registry.perform buffer (registry.step buffer) := by
  cases buffer with
  | nil => simp [extract, step, select, perform, Tally.zero]
  | cons first rest =>
      rw [extract]
      split <;> rename_i found <;> simp [found, perform, Extraction.after]

theorem step_cons_of_nobody {first : UInt8} {rest : Bytes}
    (unclaimed : registry.choose (first :: rest) = .nobody) :
    registry.step (first :: rest) = (registry.step rest).shift := by
  rw [step, select, unclaimed, step]
  cases registry.select rest with
  | nobody => rfl
  | pending start needed => rfl
  | found start policy =>
      simp only [Selection.shift, stepOf, List.drop_succ_cons]
      split
      · rfl
      · split
        · split <;> rfl
        · rfl
        · rfl

theorem step_cons_of_pending {first : UInt8} {rest : Bytes} {needed : Nat}
    (held : registry.choose (first :: rest) = .pending needed) :
    registry.step (first :: rest) = .wait 0 needed := by
  rw [step, select, held]

theorem step_cons_of_found {first : UInt8} {rest : Bytes} {policy : Policy}
    (owned : registry.choose (first :: rest) = .found policy) :
    registry.step (first :: rest) = stepOf policy 0 (first :: rest) := by
  rw [step, select, owned]
  rfl

/-- A byte of noise. -/
def noise : Tally :=
  { Tally.zero with noiseBytes := 1 }

theorem perform_shift (first : UInt8) (rest : Bytes) (step : FramingStep) :
    registry.perform (first :: rest) step.shift
      = (registry.perform rest step).map (Extraction.after noise []) := by
  have oneMore : ∀ datagrams count resyncs : Nat,
      noise + { datagrams, noiseBytes := count, resyncs }
        = ({ datagrams, noiseBytes := count + 1, resyncs } : Tally) := by
    intro datagrams count resyncs
    change Tally.add noise _ = _
    simp [Tally.add, noise, Tally.zero, Nat.add_comm]
  cases step with
  | wait count needed =>
      simp [FramingStep.shift, perform, Except.map, Extraction.after, oneMore,
        Tally.zero]
  | take count policy length =>
      simp only [FramingStep.shift, perform, Nat.add_right_comm count 1 length,
        List.drop_succ_cons]
      cases policy.strip ((rest.drop count).take length) with
      | error fault => rfl
      | ok content =>
          cases registry.extract (rest.drop (count + length)) with
          | error fault => rfl
          | ok later =>
              change Except.ok _ = Except.ok _
              rw [Extraction.after_after, oneMore]
              rfl
  | skip count length =>
      simp only [FramingStep.shift, perform, Nat.add_right_comm count 1 length,
        List.drop_succ_cons]
      cases registry.extract (rest.drop (count + length)) with
      | error fault => rfl
      | ok later =>
          change Except.ok _ = Except.ok _
          rw [Extraction.after_after, oneMore]
          rfl

/-- A byte that nobody claims is noise. -/
theorem extract_cons_of_nobody {first : UInt8} {rest : Bytes}
    (unclaimed : registry.choose (first :: rest) = .nobody) :
    registry.extract (first :: rest)
      = (registry.extract rest).map (Extraction.after noise []) := by
  rw [extract_eq, step_cons_of_nobody unclaimed, perform_shift, ← extract_eq]

/-- Waiting at the front leaves the buffer as it is. -/
theorem extract_of_wait {needed : Nat}
    (waits : registry.step buffer = .wait 0 needed) :
    registry.extract buffer
      = .ok { datagrams := [], needed, rest := buffer, tally := .zero } := by
  rw [extract_eq, waits]
  rfl

theorem extract_of_take {policy : Policy} {length : Nat}
    (takes : registry.step buffer = .take 0 policy length) :
    registry.extract buffer
      = do
        let content <- policy.strip (buffer.take length)
        let later <- registry.extract (buffer.drop length)
        return later.after { datagrams := 1, noiseBytes := 0, resyncs := 0 }
          [{ policy, content }] := by
  rw [extract_eq, takes]
  simp only [perform, List.drop_zero, Nat.zero_add]

/-- Of a buffer that is taken as one datagram nothing is left. -/
theorem extract_of_take_length {policy : Policy} {content : Bytes}
    (takes : registry.step buffer = .take 0 policy buffer.length)
    (stripped : policy.strip buffer = .ok content) :
    registry.extract buffer
      = .ok
        { datagrams := [{ policy, content }]
          needed := 0
          rest := []
          tally := { datagrams := 1, noiseBytes := 0, resyncs := 0 } } := by
  rw [extract_of_take takes, List.take_length, List.drop_length, stripped,
    extract]
  rfl

theorem extract_of_skip {length : Nat}
    (skips : registry.step buffer = .skip 0 length) :
    registry.extract buffer
      = (registry.extract (buffer.drop length)).map
        (Extraction.after
          { datagrams := 0, noiseBytes := length, resyncs := 1 } []) := by
  rw [extract_eq, skips]
  simp only [perform, Nat.zero_add]
  rfl

/-! ## Two passes -/

/-- A pass over a buffer, and another when more bytes have followed. -/
def extractTwice (registry : Registry) (left chunk : Bytes) :
    Except ExclusionFault Extraction := do
  let first <- registry.extract left
  let second <- registry.extract (first.rest ++ chunk)
  return first.followedBy second

variable {chunk : Bytes}

theorem extractTwice_of_wait {needed : Nat}
    (waits : registry.step buffer = .wait 0 needed) :
    registry.extractTwice buffer chunk = registry.extract (buffer ++ chunk) := by
  rw [extractTwice, extract_of_wait waits]
  change (registry.extract (buffer ++ chunk)).bind _ = _
  cases registry.extract (buffer ++ chunk) with
  | error fault => rfl
  | ok second =>
      change Except.ok _ = Except.ok second
      simp [Extraction.followedBy]

/-- What the first pass dealt with is only counted before the rest. -/
theorem bind_after_extractTwice (before : Tally) (datagrams : List Datagram) :
    (do
      let first <-
        (registry.extract buffer).map (Extraction.after before datagrams)
      let second <- registry.extract (first.rest ++ chunk)
      return first.followedBy second)
      = (registry.extractTwice buffer chunk).map
        (Extraction.after before datagrams) := by
  rw [extractTwice]
  cases registry.extract buffer with
  | error fault => rfl
  | ok first =>
      change (registry.extract (first.rest ++ chunk)).bind _
        = Except.map _ ((registry.extract (first.rest ++ chunk)).bind _)
      cases registry.extract (first.rest ++ chunk) with
      | error fault => rfl
      | ok second =>
          change Except.ok _ = Except.ok _
          rw [Extraction.after_followedBy]

theorem extractTwice_cons_of_nobody {first : UInt8} {rest : Bytes}
    (unclaimed : registry.choose (first :: rest) = .nobody) :
    registry.extractTwice (first :: rest) chunk
      = (registry.extractTwice rest chunk).map (Extraction.after noise []) := by
  rw [extractTwice, extract_cons_of_nobody unclaimed,
    bind_after_extractTwice]

theorem extractTwice_of_skip {length : Nat}
    (skips : registry.step buffer = .skip 0 length) :
    registry.extractTwice buffer chunk
      = (registry.extractTwice (buffer.drop length) chunk).map
        (Extraction.after
          { datagrams := 0, noiseBytes := length, resyncs := 1 } []) := by
  rw [extractTwice, extract_of_skip skips, bind_after_extractTwice]

theorem extractTwice_of_take {policy : Policy} {length : Nat}
    (takes : registry.step buffer = .take 0 policy length) :
    registry.extractTwice buffer chunk
      = do
        let content <- policy.strip (buffer.take length)
        let later <- registry.extractTwice (buffer.drop length) chunk
        return later.after { datagrams := 1, noiseBytes := 0, resyncs := 0 }
          [{ policy, content }] := by
  rw [extractTwice, extract_of_take takes]
  cases policy.strip (buffer.take length) with
  | error fault => rfl
  | ok content =>
      exact bind_after_extractTwice
        { datagrams := 1, noiseBytes := 0, resyncs := 0 }
        [{ policy, content }]

/-- Extracting before the rest of the stream arrives makes no difference. -/
theorem extract_append (registry : Registry) (left chunk : Bytes) :
    registry.extract (left ++ chunk) = registry.extractTwice left chunk := by
  -- Only a front that has been dealt with makes the buffer shorter; one that
  -- waits is looked at again together with the chunk.
  induction size : left.length using Nat.strong_induction_on
    generalizing left with
  | _ size inductionHypothesis =>
  cases left with
  | nil =>
      have waits : registry.step [] = .wait 0 0 := rfl
      rw [extractTwice_of_wait waits]
  | cons first rest =>
  cases chosen : registry.choose (first :: rest) with
  | pending needed => rw [extractTwice_of_wait (step_cons_of_pending chosen)]
  | nobody =>
      have settled : ∀ needed,
          registry.choose (first :: rest) ≠ .pending needed := by
        simp [chosen]
      have still := (choose_append chunk settled).trans chosen
      rw [List.cons_append] at still ⊢
      rw [extract_cons_of_nobody still, extractTwice_cons_of_nobody chosen,
        inductionHypothesis rest.length (by simp [← size]) rest rfl]
  | found policy =>
      have settled : ∀ needed,
          registry.choose (first :: rest) ≠ .pending needed := by
        simp [chosen]
      have still := (choose_append chunk settled).trans chosen
      have step := step_cons_of_found chosen
      have laterStep : registry.step (first :: rest ++ chunk)
          = stepOf policy 0 (first :: rest ++ chunk) :=
        step_cons_of_found still
      obtain ⟨needed, waits⟩ | ⟨length, within, takes, stillTakes⟩
          | ⟨length, within, skips, stillSkips⟩ :=
        stepOf_append policy (first :: rest) chunk 0
      · rw [extractTwice_of_wait (step.trans waits)]
      · have positive := take_pos (step.trans takes)
        rw [extractTwice_of_take (step.trans takes),
          extract_of_take (laterStep.trans stillTakes),
          List.take_append_of_le_length within,
          List.drop_append_of_le_length within,
          inductionHypothesis ((first :: rest).drop length).length
            (by rw [List.length_drop]; omega) _ rfl]
      · have positive := skip_pos (step.trans skips)
        rw [extractTwice_of_skip (step.trans skips),
          extract_of_skip (laterStep.trans stillSkips),
          List.drop_append_of_le_length within,
          inductionHypothesis ((first :: rest).drop length).length
            (by rw [List.length_drop]; omega) _ rfl]

theorem extract_append_of_ok {first : Extraction} (more : Bytes)
    (extracted : registry.extract buffer = .ok first) :
    registry.extract (buffer ++ more)
      = (registry.extract (first.rest ++ more)).map first.followedBy := by
  rw [extract_append, extractTwice, extracted]
  rfl

theorem extract_append_of_error {fault : ExclusionFault} (more : Bytes)
    (failed : registry.extract buffer = .error fault) :
    registry.extract (buffer ++ more) = .error fault := by
  rw [extract_append, extractTwice, failed]
  rfl

/-- Nothing more comes of a buffer until more bytes follow. -/
def Exhausted (registry : Registry) (buffer : Bytes) : Prop :=
  ∃ needed, registry.extract buffer
    = .ok { datagrams := [], needed, rest := buffer, tally := .zero }

/-- Another pass over what a pass left does nothing, and misses as much. -/
theorem extract_rest {first : Extraction}
    (extracted : registry.extract buffer = .ok first) :
    registry.extract first.rest
      = .ok
        { datagrams := []
          needed := first.needed
          rest := first.rest
          tally := .zero } := by
  have again := extract_append_of_ok [] extracted
  rw [List.append_nil, List.append_nil, extracted] at again
  cases rest : registry.extract first.rest with
  | error fault =>
      rw [rest] at again
      cases again
  | ok second =>
      rw [rest] at again
      have same := Extraction.mk.inj (Except.ok.inj again)
      obtain ⟨datagrams, needed, left, tally⟩ := same
      rw [Except.ok.injEq, Extraction.mk.injEq]
      exact ⟨List.self_eq_append_right.1 datagrams, needed.symm, left.symm,
        Tally.eq_zero_of_add_eq_left tally.symm⟩

/-- A pass exhausts the buffer. -/
theorem exhausted_rest {first : Extraction}
    (extracted : registry.extract buffer = .ok first) :
    registry.Exhausted first.rest :=
  ⟨first.needed, extract_rest extracted⟩

end Registry

/-! ## The record of a stream -/

/-- What has come of a stream. -/
structure StreamRecord where
  /-- All datagrams, the oldest first. -/
  datagrams : List Datagram
  /-- What is left in the buffer. -/
  rest : Bytes
  tally : Tally

namespace StreamRecord

/-- The same record when these datagrams came before. -/
def behind (datagrams : List Datagram) (record : StreamRecord) :
    StreamRecord :=
  { record with datagrams := datagrams ++ record.datagrams }

/-- What has come of a stream that was received in chunks, from what was left
and counted before the first of them. -/
def ofChunks (left : Bytes) (tally : Tally) :
    List Registry.ChunkExtraction -> StreamRecord
  | [] => { datagrams := [], rest := left, tally }
  | chunk :: chunks =>
      (ofChunks chunk.extraction.rest chunk.total chunks).behind
        chunk.extraction.datagrams

/-- What has come of a stream that was received at once. -/
def ofExtraction (before : Tally) (extraction : Extraction) : StreamRecord :=
  { datagrams := extraction.datagrams
    rest := extraction.rest
    tally := before + extraction.tally }

theorem ofExtraction_followedBy (before : Tally) (first second : Extraction) :
    ofExtraction before (first.followedBy second)
      = (ofExtraction (before + first.tally) second).behind
        first.datagrams := by
  simp [ofExtraction, behind, Extraction.followedBy, Tally.add_assoc]

end StreamRecord

namespace Registry

variable {registry : Registry}

/-- Chunks received behind an exhausted buffer come to the same as all their
bytes at once. -/
theorem extractEach_of_exhausted {left : Bytes} (tally : Tally)
    (exhausted : registry.Exhausted left) (chunks : List Bytes) :
    (registry.extractEach left tally chunks).map
        (StreamRecord.ofChunks left tally)
      = (registry.extract (left ++ chunks.flatten)).map
        (StreamRecord.ofExtraction tally) := by
  induction chunks generalizing left tally with
  | nil =>
      obtain ⟨needed, quiet⟩ := exhausted
      rw [List.flatten_nil, List.append_nil, quiet]
      simp [extractEach, Except.map, StreamRecord.ofChunks,
        StreamRecord.ofExtraction]
  | cons chunk chunks inductionHypothesis =>
      rw [List.flatten_cons, ← List.append_assoc, extractEach]
      cases extracted : registry.extract (left ++ chunk) with
      | error fault =>
          rw [extract_append_of_error _ extracted]
          rfl
      | ok first =>
          have later := inductionHypothesis (tally + first.tally)
            (exhausted_rest extracted)
          rw [extract_append_of_ok _ extracted]
          calc
            _ = ((registry.extractEach first.rest (tally + first.tally)
                  chunks).map
                  (StreamRecord.ofChunks first.rest (tally + first.tally))).map
                  (StreamRecord.behind first.datagrams) := by
                change Except.map _ ((registry.extractEach first.rest
                  (tally + first.tally) chunks).bind _) = _
                cases registry.extractEach first.rest (tally + first.tally)
                  chunks <;> rfl
            _ = ((registry.extract (first.rest ++ chunks.flatten)).map
                  first.followedBy).map
                  (StreamRecord.ofExtraction tally) := by
                rw [later]
                cases registry.extract (first.rest ++ chunks.flatten) with
                | error fault => rfl
                | ok second =>
                    change Except.ok _ = Except.ok _
                    rw [StreamRecord.ofExtraction_followedBy]

theorem exhausted_nil : registry.Exhausted [] :=
  ⟨0, by rw [extract]⟩

end Registry

/-! ## Schedules -/

/-- What happens to the receiving side of a stream. -/
inductive InboundMove
  | feed (bytes : Bytes)
  /-- Ask for the next datagram. -/
  | ask

namespace InboundMove

/-- The bytes received in the course of a schedule. -/
def fed : List InboundMove -> Bytes
  | [] => []
  | feed bytes :: moves => bytes ++ fed moves
  | ask :: moves => fed moves

end InboundMove

namespace Inbound

/-- The datagrams handed out in the course of a schedule, and what is there at
its end. -/
def play (registry : Registry) (inbound : Inbound) :
    List InboundMove -> Except ExclusionFault (List Datagram × Inbound)
  | [] => .ok ([], inbound)
  | .feed bytes :: moves => play registry (inbound.feed bytes) moves
  | .ask :: moves => do
      let (answer?, inbound) <- inbound.next registry
      let (datagrams, inbound) <- play registry inbound moves
      return (answer?.toList ++ datagrams, inbound)

/-- The datagrams handed out of a stream, those that are ready and those that
will come of the buffer are all the datagrams of the stream. -/
def Accounts (registry : Registry) (stream : Bytes)
    (handedOut : List Datagram) (inbound : Inbound) : Prop :=
  ∀ more,
    (registry.extract (stream ++ more)).map
        (fun whole => (whole.datagrams, whole.rest))
      = (registry.extract (inbound.buffer ++ more)).map
        fun left =>
          (handedOut ++ inbound.ready ++ left.datagrams, left.rest)

variable {registry : Registry} {stream : Bytes}
  {handedOut : List Datagram} {inbound : Inbound}

theorem accounts_empty (registry : Registry) :
    Accounts registry [] [] empty := by
  intro more
  rfl

theorem accounts_feed (bytes : Bytes)
    (accounts : Accounts registry stream handedOut inbound) :
    Accounts registry (stream ++ bytes) handedOut (inbound.feed bytes) := by
  intro more
  simp only [feed, List.append_assoc]
  simpa only [List.append_assoc] using accounts (bytes ++ more)

theorem next_of_ready {datagram : Datagram} {ready : List Datagram}
    (isReady : inbound.ready = datagram :: ready) :
    inbound.next registry = .ok (some datagram, { inbound with ready }) := by
  rw [next, isReady]

theorem next_of_extract {left : Extraction}
    (nothingReady : inbound.ready = [])
    (extracted : registry.extract inbound.buffer = .ok left) :
    inbound.next registry
      = .ok (left.datagrams.head?,
        { ready := left.datagrams.tail, buffer := left.rest }) := by
  rw [next, nothingReady]
  simp only [extracted]
  obtain ⟨datagrams, -, -, -⟩ := left
  cases datagrams <;> rfl

theorem next_of_failed {fault : ExclusionFault}
    (nothingReady : inbound.ready = [])
    (failed : registry.extract inbound.buffer = .error fault) :
    inbound.next registry = .error fault := by
  rw [next, nothingReady]
  simp only [failed]
  rfl

/-- A failed request was a failed pass over the buffer. -/
theorem extract_of_next_error {fault : ExclusionFault}
    (failed : inbound.next registry = .error fault) :
    registry.extract inbound.buffer = .error fault := by
  cases isReady : inbound.ready with
  | cons datagram ready =>
      rw [next_of_ready isReady] at failed
      cases failed
  | nil =>
      cases extracted : registry.extract inbound.buffer with
      | ok left =>
          rw [next_of_extract isReady extracted] at failed
          cases failed
      | error other =>
          have same := (next_of_failed isReady extracted).symm.trans failed
          exact congrArg Except.error (Except.error.inj same)

theorem accounts_next {answer? : Option Datagram} {after : Inbound}
    (accounts : Accounts registry stream handedOut inbound)
    (asked : inbound.next registry = .ok (answer?, after)) :
    Accounts registry stream (handedOut ++ answer?.toList) after := by
  intro more
  rw [accounts more]
  cases isReady : inbound.ready with
  | cons datagram ready =>
      rw [next_of_ready isReady] at asked
      obtain ⟨rfl, rfl⟩ := Prod.mk.inj (Except.ok.inj asked)
      simp
  | nil =>
      cases extracted : registry.extract inbound.buffer with
      | error fault =>
          rw [next_of_failed isReady extracted] at asked
          cases asked
      | ok left =>
          rw [next_of_extract isReady extracted] at asked
          obtain ⟨rfl, rfl⟩ := Prod.mk.inj (Except.ok.inj asked)
          rw [Registry.extract_append_of_ok more extracted]
          cases registry.extract (left.rest ++ more) with
          | error fault => rfl
          | ok second =>
              cases found : left.datagrams <;>
                simp [Except.map, Extraction.followedBy, found]

/-- A request without an answer leaves nothing ready and the buffer exhausted. -/
theorem exhausted_of_next {after : Inbound}
    (asked : inbound.next registry = .ok (none, after)) :
    after.ready = [] ∧ registry.Exhausted after.buffer := by
  cases isReady : inbound.ready with
  | cons datagram ready =>
      rw [next_of_ready isReady] at asked
      cases asked
  | nil =>
      cases extracted : registry.extract inbound.buffer with
      | error fault =>
          rw [next_of_failed isReady extracted] at asked
          cases asked
      | ok left =>
          rw [next_of_extract isReady extracted] at asked
          obtain ⟨isNone, rfl⟩ := Prod.mk.inj (Except.ok.inj asked)
          rw [List.head?_eq_none_iff] at isNone
          exact ⟨by rw [isNone]; rfl, Registry.exhausted_rest extracted⟩

theorem play_ask {answer? : Option Datagram} {between : Inbound}
    (asked : inbound.next registry = .ok (answer?, between))
    (moves : List InboundMove) :
    inbound.play registry (.ask :: moves)
      = (between.play registry moves).map fun (datagrams, after) =>
        (answer?.toList ++ datagrams, after) := by
  rw [play, asked]
  change (between.play registry moves).bind _ = _
  cases between.play registry moves <;> rfl

/-- What a whole schedule does to a stream. -/
theorem accounts_play (moves : List InboundMove)
    (accounts : Accounts registry stream handedOut inbound) :
    match inbound.play registry moves with
    | .error fault =>
        ∀ more, registry.extract (stream ++ InboundMove.fed moves ++ more)
          = .error fault
    | .ok (datagrams, after) =>
        Accounts registry (stream ++ InboundMove.fed moves)
          (handedOut ++ datagrams) after := by
  induction moves generalizing stream handedOut inbound with
  | nil =>
      simp only [play, InboundMove.fed, List.append_nil]
      exact accounts
  | cons move moves inductionHypothesis =>
      cases move with
      | feed bytes =>
          have later := inductionHypothesis (accounts_feed bytes accounts)
          simp only [play, InboundMove.fed, ← List.append_assoc]
          exact later
      | ask =>
          rw [InboundMove.fed]
          cases asked : inbound.next registry with
          | error fault =>
              rw [play, asked]
              intro more
              have failed := Registry.extract_append_of_error
                (InboundMove.fed moves ++ more) (extract_of_next_error asked)
              have whole := accounts (InboundMove.fed moves ++ more)
              rw [failed, ← List.append_assoc] at whole
              exact eq_error_of_map_eq_error whole
          | ok answer =>
              obtain ⟨answer?, between⟩ := answer
              have later := inductionHypothesis (accounts_next accounts asked)
              rw [play_ask asked]
              cases played : between.play registry moves with
              | error fault =>
                  rw [played] at later
                  exact later
              | ok result =>
                  rw [played] at later
                  change Accounts registry _ (_ ++ (_ ++ _)) _
                  rw [← List.append_assoc]
                  exact later

end Inbound

namespace Registry

/-- How a stream is cut into chunks, and when datagrams are asked for, does not
change what is extracted from it. -/
theorem extract_chunking (registry : Registry) :
    (∀ chunks,
      (registry.extractEach [] .zero chunks).map
          (StreamRecord.ofChunks [] .zero)
        = (registry.extract chunks.flatten).map
          (StreamRecord.ofExtraction .zero))
    ∧ ∀ moves,
      match Inbound.empty.play registry moves with
      | .error fault =>
          ∀ more,
            registry.extract (InboundMove.fed moves ++ more) = .error fault
      | .ok (handedOut, inbound) =>
          (∀ more whole,
            registry.extract (InboundMove.fed moves ++ more) = .ok whole →
              handedOut <+: whole.datagrams)
          ∧ ∀ after,
            inbound.next registry = .ok (none, after) →
              ∃ whole,
                registry.extract (InboundMove.fed moves) = .ok whole
                  ∧ whole.datagrams = handedOut
                  ∧ whole.rest = after.buffer := by
  constructor
  · exact extractEach_of_exhausted .zero exhausted_nil
  · intro moves
    have accounts :=
      Inbound.accounts_play moves (Inbound.accounts_empty registry)
    cases played : Inbound.empty.play registry moves with
    | error fault =>
        rw [played] at accounts
        exact accounts
    | ok result =>
        obtain ⟨handedOut, inbound⟩ := result
        rw [played] at accounts
        simp only [List.nil_append] at accounts
        constructor
        · intro more whole extracted
          have same := accounts more
          rw [extracted] at same
          obtain ⟨later, _, parts⟩ := exists_of_map_eq_ok same.symm
          rw [← (Prod.mk.inj parts).1, List.append_assoc]
          exact List.prefix_append _ _
        · intro after asked
          obtain ⟨nothingReady, needed, quiet⟩ :=
            Inbound.exhausted_of_next asked
          have same := Inbound.accounts_next accounts asked []
          simp only [List.append_nil, nothingReady, quiet,
            Option.toList_none] at same
          obtain ⟨whole, extracted, parts⟩ := exists_of_map_eq_ok same
          obtain ⟨datagrams, rest⟩ := Prod.mk.inj parts
          exact ⟨whole, extracted, by simpa using datagrams, rest⟩

end Registry
end PlcLink
