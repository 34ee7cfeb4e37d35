import Mathlib
import PlcLink.Proofs.Framing.Chunking
import PlcLink.Proofs.Framing.Ownership

/-!
# Every byte of a stream is accounted for

Framing divides a stream into portions: bytes that nobody claims, headers that
announce an impossible length, and datagrams. What a portion is has to be right
for the stream from the portion on, however it goes on. What is reported of a
chunk is what its portions come to.
-/

namespace PlcLink

/-- A datagram as it lies in the stream, with the bytes of exclusive markers. -/
structure RawDatagram where
  policy : Policy
  bytes : Bytes

/-- The datagram that is handed out. -/
def RawDatagram.stripped (raw : RawDatagram) :
    Except ExclusionFault Datagram := do
  return { policy := raw.policy, content := <- raw.policy.strip raw.bytes }

/-! ## Portions -/

/-- A portion of a stream. -/
inductive Portion
  /-- A byte that nobody claims. -/
  | noise (byte : UInt8)
  /-- What is skipped of a datagram that cannot be. -/
  | header (policy : Policy) (bytes : Bytes)
  | datagram (raw : RawDatagram)

namespace Portion

/-- The bytes of a portion. -/
def bytes : Portion -> Bytes
  | noise byte => [byte]
  | header _ bytes => bytes
  | datagram raw => raw.bytes

/-- The datagram a portion is. -/
def raw? : Portion -> Option RawDatagram
  | datagram raw => some raw
  | _ => none

/-- The bytes of a portion that no datagram holds. -/
def discarded : Portion -> Bytes
  | datagram _ => []
  | portion => portion.bytes

/-- Whether a portion is a header that announces an impossible length. -/
def isHeader : Portion -> Bool
  | header _ _ => true
  | _ => false

/-- What portions add up to. -/
def tally (portions : List Portion) : Tally :=
  { datagrams := (portions.filterMap raw?).length
    noiseBytes := (portions.flatMap discarded).length
    resyncs := portions.countP isHeader }

theorem tally_append (earlier portions : List Portion) :
    tally (earlier ++ portions) = tally earlier + tally portions := by
  simp only [tally, List.filterMap_append, List.flatMap_append,
    List.countP_append, List.length_append, Tally.mk_add_mk]

theorem tally_cons (portion : Portion) (portions : List Portion) :
    tally (portion :: portions) = tally [portion] + tally portions :=
  tally_append [portion] portions

theorem tally_header (policy : Policy) (bytes : Bytes) :
    tally [header policy bytes]
      = { datagrams := 0, noiseBytes := bytes.length, resyncs := 1 } := by
  simp only [tally, List.flatMap_singleton]
  rfl

/-- What a portion has to be at the front of a stream: a byte of noise
contradicts every policy; a header and a datagram belong to the policy that owns
the front, and its length rule tells that a header cannot be and how long a
datagram is. -/
def Fits (registry : Registry) (stream : Bytes) : Portion -> Prop
  | noise _ => ∀ policy ∈ registry.policies, policy.Contradicted stream
  | header policy bytes =>
      registry.Owns policy stream
        ∧ policy.datagramLength stream = .invalid
        ∧ bytes.length = policy.minimumSize
  | datagram raw =>
      registry.Owns raw.policy stream
        ∧ raw.policy.datagramLength stream = .known raw.bytes.length

/-- Every portion shortens what is left of the stream. -/
theorem Fits.bytes_ne_nil {registry : Registry} {stream : Bytes}
    {portion : Portion} (fits : portion.Fits registry stream) :
    portion.bytes ≠ [] := by
  rw [← List.length_pos_iff]
  cases portion with
  | noise byte => exact Nat.zero_lt_one
  | header policy bytes =>
      obtain ⟨-, invalid, length⟩ := fits
      exact (Policy.minimumSize_pos_of_invalid invalid).trans_eq length.symm
  | datagram raw => exact Policy.datagramLength_pos fits.2

end Portion

/-! ## Divisions -/

namespace Registry

variable {registry : Registry} {stream : Bytes}

/-- A stream is divided into portions and a rest. -/
inductive Divides (registry : Registry) :
    Bytes -> List Portion -> Bytes -> Prop
  | rest {rest : Bytes} : Divides registry rest [] rest
  | portion {stream later rest : Bytes} {portion : Portion}
      {portions : List Portion}
      (front : stream = portion.bytes ++ later)
      (fits : portion.Fits registry stream)
      (divides : Divides registry later portions rest) :
      Divides registry stream (portion :: portions) rest

namespace Divides

variable {portions : List Portion} {rest : Bytes}

/-- The portions and the rest follow each other without a gap. -/
theorem eq_append (divides : registry.Divides stream portions rest) :
    stream = portions.flatMap Portion.bytes ++ rest := by
  induction divides with
  | rest => rfl
  | portion front fits divides inductionHypothesis =>
      rw [front, inductionHypothesis, List.flatMap_cons, List.append_assoc]

theorem bytes_ne_nil (divides : registry.Divides stream portions rest) :
    ∀ portion ∈ portions, portion.bytes ≠ [] := by
  induction divides with
  | rest => simp
  | portion front fits divides inductionHypothesis =>
      exact List.forall_mem_cons.2 ⟨fits.bytes_ne_nil, inductionHypothesis⟩

/-- Every portion fits where it stands in the stream. -/
theorem exists_fits (divides : registry.Divides stream portions rest)
    {portion : Portion} (member : portion ∈ portions) :
    ∃ later, portion.Fits registry (portion.bytes ++ later) := by
  induction divides with
  | rest => cases member
  | @portion stream later _ first _ front fits _ inductionHypothesis =>
      obtain rfl | member := List.mem_cons.1 member
      · exact ⟨later, front ▸ fits⟩
      · exact inductionHypothesis member

/-- The rest of a division may be divided further. -/
theorem trans {later : List Portion} {last : Bytes}
    (divides : registry.Divides stream portions rest)
    (restDivides : registry.Divides rest later last) :
    registry.Divides stream (portions ++ later) last := by
  induction divides with
  | rest => exact restDivides
  | portion front fits divides inductionHypothesis =>
      exact .portion front fits (inductionHypothesis restDivides)

end Divides

/-- Nothing more can be said of a buffer before more bytes come. -/
inductive Waits (registry : Registry) (buffer : Bytes) : Prop
  | nothing (isEmpty : buffer = [])
  /-- A policy neither begins here nor is contradicted. -/
  | undecided (policy : Policy) (member : policy ∈ registry.policies)
      (notBegun : ¬policy.Begins buffer)
      (notContradicted : ¬policy.Contradicted buffer)
  /-- A datagram begins here and is not there as a whole. -/
  | unfinished (policy : Policy) (owns : registry.Owns policy buffer)
      (unfinished : policy.Unfinished buffer)

end Registry

/-! ## Readings -/

/-- What a pass over a buffer makes of it. -/
structure Reading where
  portions : List Portion
  /-- Bytes that must follow before another pass can succeed. -/
  needed : Nat
  /-- What is left of the buffer. -/
  rest : Bytes

namespace Reading

/-- The bytes of a buffer that have been dealt with. -/
def consumed (reading : Reading) : Bytes :=
  reading.portions.flatMap Portion.bytes

/-- What comes of a reading, unless one of its datagrams cannot be stripped. -/
def extraction (reading : Reading) : Except ExclusionFault Extraction := do
  let raws := reading.portions.filterMap Portion.raw?
  return {
    datagrams := <- raws.mapM RawDatagram.stripped
    needed := reading.needed
    rest := reading.rest
    tally := Portion.tally reading.portions }

/-- What is reported of one reading after another, when these portions came
before. -/
def reportEach (earlier : List Portion) :
    List Reading -> Except ExclusionFault (List Registry.ChunkExtraction)
  | [] => .ok []
  | reading :: readings => do
      let extraction <- reading.extraction
      let portions := earlier ++ reading.portions
      let later <- reportEach portions readings
      return {
        extraction
        consumed := reading.consumed.length
        total := Portion.tally portions } :: later

/-- What comes of a reading leaves what the reading leaves, and counts its
portions. -/
theorem of_extraction_eq_ok {reading : Reading} {extraction : Extraction}
    (made : reading.extraction = .ok extraction) :
    extraction.rest = reading.rest
      ∧ extraction.tally = Portion.tally reading.portions := by
  obtain ⟨datagrams, -, isExtraction⟩ := exists_of_bind_eq_ok made
  cases Except.ok.inj isExtraction
  exact ⟨rfl, rfl⟩

/-- The same reading when this portion came before. -/
def behind (portion : Portion) (reading : Reading) : Reading :=
  { reading with portions := portion :: reading.portions }

variable {portion : Portion} {reading : Reading}

theorem extraction_behind_of_discarded (isNone : portion.raw? = none) :
    (reading.behind portion).extraction
      = reading.extraction.map
        (Extraction.after (Portion.tally [portion]) []) := by
  simp only [extraction, behind]
  rw [List.filterMap_cons_none isNone, Portion.tally_cons]
  cases (reading.portions.filterMap Portion.raw?).mapM
    RawDatagram.stripped <;> rfl

theorem extraction_behind_datagram (raw : RawDatagram) :
    (reading.behind (.datagram raw)).extraction
      = do
        let content <- raw.policy.strip raw.bytes
        let later <- reading.extraction
        return later.after { datagrams := 1, noiseBytes := 0, resyncs := 0 }
          [{ policy := raw.policy, content }] := by
  simp only [extraction, behind]
  rw [List.filterMap_cons_some (f := Portion.raw?) rfl, Portion.tally_cons,
    List.mapM_cons, RawDatagram.stripped]
  cases raw.policy.strip raw.bytes with
  | error fault => rfl
  | ok content =>
      cases (reading.portions.filterMap Portion.raw?).mapM
        RawDatagram.stripped <;> rfl

end Reading

/-! ## One pass -/

namespace Registry

variable {registry : Registry} {buffer : Bytes} {reading : Reading}

/-- A reading of a buffer divides the stream, whatever follows, and leaves
nothing that could be dealt with. -/
structure Reads (registry : Registry) (buffer : Bytes) (reading : Reading) :
    Prop where
  divides : ∀ more,
    registry.Divides (buffer ++ more) reading.portions (reading.rest ++ more)
  waits : registry.Waits reading.rest

/-- What a reading does not leave of a buffer, it consumed. -/
theorem Reads.length_consumed (reads : registry.Reads buffer reading) :
    buffer.length - reading.rest.length = reading.consumed.length := by
  have whole := reads.divides []
  rw [List.append_nil, List.append_nil] at whole
  rw [whole.eq_append, List.length_append, Nat.add_sub_cancel,
    Reading.consumed]

/-- A buffer whose front waits is left as it is. -/
theorem Waits.reads (waits : registry.Waits buffer) (needed : Nat) :
    registry.Reads buffer { portions := [], needed, rest := buffer } :=
  { divides := fun _ => .rest, waits }

/-- A portion that fits at the front, whatever follows, comes before the reading
of what is left. -/
theorem Reads.behind {portion : Portion} {later : Bytes}
    (reads : registry.Reads later reading)
    (front : buffer = portion.bytes ++ later)
    (fits : ∀ more, portion.Fits registry (buffer ++ more)) :
    registry.Reads buffer (reading.behind portion) := by
  constructor
  · intro more
    refine .portion ?_ (fits more) (reads.divides more)
    rw [front, List.append_assoc]
  · exact reads.waits

theorem waits_of_pending {needed : Nat}
    (held : registry.choose buffer = .pending needed) :
    registry.Waits buffer := by
  obtain ⟨policy, member, goesOn⟩ := exists_of_choose_pending held
  apply Waits.undecided policy member
  · intro begins
    rw [← Policy.compareBegin_eq_full_iff_begins, goesOn] at begins
    cases begins
  · intro contradicted
    rw [← Policy.compareBegin_eq_mismatch_iff_contradicted, goesOn]
      at contradicted
    cases contradicted

/-- A pass over a buffer is a reading of it. -/
theorem exists_reading (registry : Registry) (buffer : Bytes) :
    ∃ reading,
      registry.extract buffer = reading.extraction
        ∧ registry.Reads buffer reading := by
  -- Every portion takes a byte of the buffer.
  induction size : buffer.length using Nat.strong_induction_on
    generalizing buffer with
  | _ size inductionHypothesis =>
  cases buffer with
  | nil => exact ⟨_, by rw [extract]; rfl, Waits.reads (.nothing rfl) 0⟩
  | cons first rest =>
  cases chosen : registry.choose (first :: rest) with
  | pending needed =>
      refine ⟨_, ?_, (waits_of_pending chosen).reads needed⟩
      rw [extract_of_wait (step_cons_of_pending chosen)]
      rfl
  | nobody =>
      obtain ⟨reading, extracted, reads⟩ :=
        inductionHypothesis rest.length (by simp [← size]) rest rfl
      refine ⟨reading.behind (.noise first), ?_, reads.behind rfl ?_⟩
      · rw [extract_cons_of_nobody chosen, extracted,
          Reading.extraction_behind_of_discarded rfl]
        rfl
      · intro more policy member
        exact contradicted_append_of_nobody more chosen member
  | found policy =>
      have step := step_cons_of_found chosen
      obtain ⟨unfinished, needed, waits⟩ | ⟨length, -, told, within, takes⟩
          | ⟨enough, told, skips⟩ :=
        stepOf_cases policy (first :: rest) 0
      · have owns := owns_append_of_choose_found [] chosen
        rw [List.append_nil] at owns
        refine ⟨_, ?_, Waits.reads (.unfinished policy owns unfinished) needed⟩
        rw [extract_of_wait (step.trans waits)]
        rfl
      · have positive := Policy.datagramLength_pos told
        obtain ⟨reading, extracted, reads⟩ :=
          inductionHypothesis ((first :: rest).drop length).length
            (by rw [List.length_drop]; omega) _ rfl
        refine ⟨reading.behind
            (.datagram { policy, bytes := (first :: rest).take length }), ?_,
          reads.behind (List.take_append_drop length _).symm ?_⟩
        · rw [extract_of_take (step.trans takes), extracted,
            Reading.extraction_behind_datagram]
        · intro more
          refine ⟨owns_append_of_choose_found more chosen, ?_⟩
          rw [Policy.datagramLength_append more (by simp [told]), told,
            List.length_take_of_le within]
      · have positive := Policy.minimumSize_pos_of_invalid told
        have length := List.length_take_of_le enough
        obtain ⟨reading, extracted, reads⟩ :=
          inductionHypothesis ((first :: rest).drop policy.minimumSize).length
            (by rw [List.length_drop]; omega) _ rfl
        refine ⟨reading.behind
            (.header policy ((first :: rest).take policy.minimumSize)), ?_,
          reads.behind (List.take_append_drop policy.minimumSize _).symm ?_⟩
        · rw [extract_of_skip (step.trans skips), extracted,
            Reading.extraction_behind_of_discarded rfl, Portion.tally_header,
            length]
        · intro more
          refine ⟨owns_append_of_choose_found more chosen, ?_, length⟩
          rw [Policy.datagramLength_append more (by simp [told]), told]

/-- Every datagram that comes of a pass was stripped of one that fits where it
stands in the buffer. -/
theorem exists_raw_of_extract {extraction : Extraction}
    (extracted : registry.extract buffer = .ok extraction) :
    ∀ datagram ∈ extraction.datagrams, ∃ raw later,
      raw.stripped = .ok datagram
        ∧ (Portion.datagram raw).Fits registry (raw.bytes ++ later) := by
  obtain ⟨reading, isExtraction, reads⟩ := registry.exists_reading buffer
  rw [isExtraction] at extracted
  obtain ⟨datagrams, stripped, same⟩ := exists_of_bind_eq_ok extracted
  cases Except.ok.inj same
  dsimp only
  refine forall_mem_of_forall₂ (forall₂_of_mapM_eq_ok stripped) ?_
  intro raw isRaw datagram isStripped
  obtain ⟨portion, isPortion, isDatagram⟩ := List.mem_filterMap.1 isRaw
  cases portion with
  | noise byte => cases isDatagram
  | header policy bytes => cases isDatagram
  | datagram other =>
      cases isDatagram
      obtain ⟨later, fits⟩ := (reads.divides []).exists_fits isPortion
      exact ⟨raw, later, isStripped, fits⟩

end Registry

/-! ## One pass after another -/

/-- What is left of a buffer after some readings, when this was left before. -/
def Reading.leftAfter (left : Bytes) : List Reading -> Bytes
  | [] => left
  | reading :: readings => leftAfter reading.rest readings

namespace Registry

variable {registry : Registry}

/-- Readings account for a stream: its bytes are those of their portions and
what is left, in this order; each portion fits where it begins, whatever follows
the stream; each takes a byte; and what is left waits for more. -/
structure Accounts (registry : Registry) (stream : Bytes)
    (readings : List Reading) : Prop where
  complete :
    stream = readings.flatMap Reading.consumed ++ Reading.leftAfter [] readings
  divides : ∀ more,
    registry.Divides (stream ++ more) (readings.flatMap Reading.portions)
      (Reading.leftAfter [] readings ++ more)
  progress : ∀ portion ∈ readings.flatMap Reading.portions,
    portion.bytes ≠ []
  waits : registry.Waits (Reading.leftAfter [] readings)

/-- Extracting after each chunk is one reading after another. After any number
of chunks, the readings so far divide what has been received so far. -/
theorem exists_readings {left : Bytes} (waits : registry.Waits left)
    (earlier : List Portion) (chunks : List Bytes) :
    ∃ readings,
      readings.length = chunks.length
        ∧ registry.extractEach left (Portion.tally earlier) chunks
          = Reading.reportEach earlier readings
        ∧ ∀ count,
          registry.Waits (Reading.leftAfter left (readings.take count))
            ∧ ∀ more,
              registry.Divides (left ++ (chunks.take count).flatten ++ more)
                ((readings.take count).flatMap Reading.portions)
                (Reading.leftAfter left (readings.take count) ++ more) := by
  induction chunks generalizing left earlier with
  | nil =>
      refine ⟨[], rfl, rfl, ?_⟩
      intro count
      rw [List.take_nil, List.take_nil, List.flatten_nil, List.append_nil]
      exact ⟨waits, fun _ => .rest⟩
  | cons chunk chunks inductionHypothesis =>
      obtain ⟨reading, extracted, reads⟩ :=
        registry.exists_reading (left ++ chunk)
      obtain ⟨readings, length, laterExtracted, accounts⟩ :=
        inductionHypothesis reads.waits (earlier ++ reading.portions)
      refine ⟨reading :: readings, congrArg Nat.succ length, ?_, ?_⟩
      · rw [Registry.extractEach, Reading.reportEach, extracted]
        cases made : reading.extraction with
        | error fault => rfl
        | ok extraction =>
            obtain ⟨rest, tally⟩ := Reading.of_extraction_eq_ok made
            simp only [bind, Except.bind, rest, tally,
              ← Portion.tally_append, laterExtracted, reads.length_consumed]
      · intro count
        cases count with
        | zero => exact ⟨waits, fun more => by simpa using .rest⟩
        | succ count =>
            obtain ⟨laterWaits, laterDivides⟩ := accounts count
            refine ⟨laterWaits, ?_⟩
            intro more
            have divides :=
              reads.divides ((chunks.take count).flatten ++ more)
            rw [← List.append_assoc reading.rest] at divides
            have whole := divides.trans (laterDivides more)
            simpa only [List.take_succ_cons, List.flatten_cons,
              List.flatMap_cons, List.append_assoc, Reading.leftAfter]
              using whole

/-- Framing accounts for every byte of a stream: what is reported chunk by chunk
is what some readings come to, and after any number of chunks the readings so
far account for the stream so far. -/
theorem extractEach_accounts (registry : Registry) (chunks : List Bytes) :
    ∃ readings,
      readings.length = chunks.length
        ∧ registry.extractEach [] .zero chunks
          = Reading.reportEach [] readings
        ∧ ∀ count,
          registry.Accounts (chunks.take count).flatten
            (readings.take count) := by
  obtain ⟨readings, length, extracted, accounts⟩ :=
    registry.exists_readings (.nothing rfl) [] chunks
  refine ⟨readings, length, extracted, ?_⟩
  intro count
  obtain ⟨waits, divides⟩ := accounts count
  have whole := divides []
  rw [List.append_nil, List.append_nil, List.nil_append] at whole
  constructor
  · rw [whole.eq_append, List.flatMap_assoc]
    rfl
  · exact divides
  · exact whole.bytes_ne_nil
  · exact waits

end Registry
end PlcLink
