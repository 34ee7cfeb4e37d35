import Mathlib
import PlcLink.Framing.Receiver
import PlcLink.Proofs.Framing.Portions
import PlcLink.Proofs.Framing.Shortfall
import PlcLink.Proofs.Receiving.Extraction

/-!
# Streams and the places of their markers

As long as what framing adds up over a stream stays a number, the loop accounts
for every byte of the stream, and it does not matter how the stream is cut or
when its datagrams are asked for. A policy may have a begin marker so far behind
the beginning of its datagrams that this fails for short streams: then whether
the loop looks for the marker at all depends on how the stream is cut.
-/

namespace PlcLink

/-! ## What a buffer waits for -/

theorem Policy.beginExtent_pos (policy : Policy) : 0 < policy.beginExtent := by
  obtain ⟨marker, member⟩ := List.exists_mem_of_ne_nil _ policy.hasBegin
  have nonempty := policy.noneEmpty marker (List.mem_append_left _ member)
  have positive := List.length_pos_iff.2 nonempty
  have reach := extent_le_beginExtent member
  unfold Marker.extent at reach
  omega

/-- A length is announced in a word, or it is that of bytes that are there. -/
theorem Policy.lt_or_le_of_datagramLength {policy : Policy} {buffer : Bytes}
    {length : Nat} (known : policy.datagramLength buffer = .known length) :
    length < 2 ^ 16 ∨ length ≤ buffer.length := by
  unfold datagramLength at known
  split at known
  · left
    unfold announcedLength at known
    split at known
    · rename_i high low _
      have word := (Word.ofBytes16 high low).toNat_lt
      dsimp only at known
      split at known
      · cases known
      · cases known
        exact word
    · cases known
  · right
    unfold delimitedLength at known
    split at known
    · rename_i found
      cases known
      exact Marker.find?_bound found
    · cases known
  · cases known

namespace Registry

variable {registry : Registry} {buffer : Bytes} {limit needed : Nat}

/-- With the bytes that are missing, a buffer is no longer than what framing
looks at. -/
theorem Missing.length_add_lt (missing : registry.Missing buffer needed)
    (below : registry.StaysBelow limit buffer.length)
    (wide : 2 ^ 16 ≤ limit) : buffer.length + needed < limit := by
  cases missing with
  | @candidate policy holdsUp =>
      have reach := below.reach policy holdsUp.member
      have beyond := holdsUp.length_lt
      omega
  | @header policy found short =>
      have minimum := below.minimum policy (full_of_choose_found found).1
      omega
  | @rest policy length found told unfinished =>
      have known := Policy.lt_or_le_of_datagramLength told
      omega
  | @terminator policy found told =>
      have reach := below.reach policy (full_of_choose_found found).1
      have positive := policy.beginExtent_pos
      omega

/-- There is room for the bytes that a pass misses. -/
theorem length_add_needed_lt {extraction : Extraction}
    (extracted : registry.extract buffer = .ok extraction)
    (below : registry.StaysBelow limit extraction.rest.length)
    (wide : 2 ^ 16 ≤ limit) (isMissing : 0 < extraction.needed) :
    extraction.rest.length + extraction.needed < limit := by
  obtain ⟨-, nothing⟩ | ⟨-, missing⟩ := missing_of_extract extracted
  · omega
  · exact missing.length_add_lt below wide

end Registry

/-! ## Streams in chunks -/

/-- What has come of a stream, as it was reported chunk by chunk, from what was
left and counted before the first of them. -/
def StreamRecord.ofReports (left : Bytes) (tally : Tally) :
    List Guarded.Report -> StreamRecord
  | [] => { datagrams := [], rest := left, tally }
  | report :: reports =>
      (ofReports report.rest report.total reports).behind report.datagrams

theorem StreamRecord.ofReports_map_report (left : Bytes) (tally : Tally)
    (chunks : List Registry.ChunkExtraction) :
    ofReports left tally (chunks.map Guarded.report)
      = ofChunks left tally chunks := by
  induction chunks generalizing left tally with
  | nil => rfl
  | cons chunk chunks inductionHypothesis =>
      rw [List.map_cons, ofReports, ofChunks, inductionHypothesis]
      rfl

namespace Guarded

variable {registry : Registry}

/-- What has come of a stream that was received in these chunks. -/
def record (registry : Registry) (chunks : List Bytes) :
    Guarded StreamRecord := do
  return .ofReports [] .zero (<- extractEach registry .fresh chunks)

/-- The chunks of a stream come to what the whole stream comes to. -/
theorem record_comes {chunks : List Bytes}
    (below : registry.StaysBelow (2 ^ 64) chunks.flatten.length) :
    Comes Eq (record registry chunks)
      ((registry.extract chunks.flatten).map (.ofExtraction .zero)) := by
  have ran : Comes _ (extractEach registry .fresh chunks) _ :=
    extractEach_comes Pass.fresh_within (by rwa [Nat.zero_add])
  rw [← registry.extract_chunking.1 chunks]
  change Comes Eq _ (StreamRecord.ofChunks [] .zero <$> _)
  rw [map_eq_pure_bind]
  refine ran.map ?_
  rintro _ passes rfl
  exact StreamRecord.ofReports_map_report [] .zero passes

theorem record_flatten_comes {stream : Bytes}
    (below : registry.StaysBelow (2 ^ 64) stream.length) :
    Comes Eq (record registry [stream])
      ((registry.extract stream).map (.ofExtraction .zero)) := by
  have isStream : [stream].flatten = stream := List.flatten_singleton
  rw [← isStream] at below
  have comes := record_comes below
  rwa [isStream] at comes

/-! ## Receivers -/

theorem reserve_eq {buffer : Bytes} {needed : Nat}
    (room : 0 < needed -> buffer.length + needed < capacity) :
    reserve buffer needed = .ok () := by
  unfold reserve
  split
  · rename_i isMissing
    rw [add_eq (room isMissing)]
    rfl
  · rfl

namespace Receiver

/-- The datagrams handed out in the course of a schedule, and what is there at
its end. -/
def play (registry : Registry) (receiver : Receiver) :
    List InboundMove -> Guarded (List Datagram × Receiver)
  | [] => return ([], receiver)
  | .feed bytes :: moves => play registry (receiver.feed bytes) moves
  | .ask :: moves => do
      let (answer?, receiver) <- receiver.next registry
      let (datagrams, receiver) <- play registry receiver moves
      return (answer?.toList ++ datagrams, receiver)

/-- A receiver that received so many bytes has the datagrams and the buffer of a
receiving side without counts. -/
structure Mirrors (received : Nat) (receiver : Receiver)
    (inbound : Inbound) : Prop where
  ready : receiver.ready = inbound.ready
  buffer : receiver.pass.buffer = inbound.buffer
  within : receiver.pass.Within received

/-- Both hand out the same. -/
def Agrees {handedOut : Type} (received : Nat)
    (first : handedOut × Receiver) (second : handedOut × Inbound) : Prop :=
  first.1 = second.1 ∧ first.2.Mirrors received second.2

variable {receiver : Receiver} {inbound : Inbound} {received : Nat}

theorem mirrors_fresh : fresh.Mirrors 0 .empty :=
  ⟨rfl, rfl, Pass.fresh_within⟩

theorem Mirrors.feed (mirrors : receiver.Mirrors received inbound)
    (bytes : Bytes) :
    (receiver.feed bytes).Mirrors (received + bytes.length)
      (inbound.feed bytes) := by
  obtain ⟨ready, buffer, within⟩ := mirrors
  refine ⟨ready, congrArg (· ++ bytes) buffer, ?_⟩
  obtain ⟨consumed, streak, datagrams, noiseBytes, resyncs⟩ := within
  constructor <;> simp only [Receiver.feed, List.length_append] <;> omega

theorem next_comes (mirrors : receiver.Mirrors received inbound)
    (below : registry.StaysBelow capacity received) :
    Comes (Agrees received) (receiver.next registry)
      (inbound.next registry) := by
  obtain ⟨ready, buffer, within⟩ := mirrors
  unfold Receiver.next Inbound.next
  rw [ready]
  cases inbound.ready with
  | cons datagram ready => exact .value ⟨rfl, rfl, buffer, within⟩
  | nil =>
      have ran := (run_comes within [] (below.mono (by decide) le_rfl)).attach
      rw [List.append_nil, buffer] at ran
      refine ran.bind ?_
      rintro ⟨final, needed⟩ extraction ⟨⟨rfl, ends, finalWithin⟩, extracted⟩
      have datagrams : final.datagrams = extraction.datagrams :=
        ends.datagrams
      have consumed := finalWithin.consumed
      have room : 0 < extraction.needed ->
          final.buffer.length + extraction.needed < capacity := by
        rw [ends.buffer] at consumed ⊢
        have restBelow := below.mono le_rfl (Nat.le_of_add_left_le consumed)
        exact Registry.length_add_needed_lt extracted restBelow (by decide)
      dsimp only
      rw [reserve_eq room, ok_bind, datagrams]
      cases extraction.datagrams with
      | nil => exact .value ⟨rfl, rfl, ends.buffer, finalWithin⟩
      | cons datagram ready =>
          exact .value ⟨rfl, rfl, ends.buffer, finalWithin⟩

/-- Both hand out the same in the course of a schedule. -/
theorem play_comes {moves : List InboundMove}
    (mirrors : receiver.Mirrors received inbound)
    (below : registry.StaysBelow capacity
      (received + (InboundMove.fed moves).length)) :
    Comes (Agrees (received + (InboundMove.fed moves).length))
      (receiver.play registry moves) (inbound.play registry moves) := by
  induction moves generalizing receiver inbound received with
  | nil => exact .value ⟨rfl, mirrors⟩
  | cons move moves inductionHypothesis =>
      cases move with
      | feed bytes =>
          have later := inductionHypothesis (mirrors.feed bytes)
          rw [InboundMove.fed, List.length_append, ← Nat.add_assoc] at below ⊢
          exact later below
      | ask =>
          have asked := next_comes mirrors
            (below.mono le_rfl (Nat.le_add_right _ _))
          refine asked.bind ?_
          rintro ⟨answer?, between⟩ ⟨_, inboundBetween⟩ ⟨rfl, still⟩
          refine (inductionHypothesis still below).map ?_
          rintro ⟨handedOut, after⟩ ⟨_, inboundAfter⟩ ⟨rfl, mirrorsAfter⟩
          exact ⟨rfl, mirrorsAfter⟩

end Receiver

/-! ## How a stream is received does not matter -/

/-- As long as what framing adds up stays a number, a stream comes to the same
however it is cut into chunks, and what a receiver hands out are the first
datagrams of the stream: all of them, once it has none. Where a datagram cannot
be stripped of its markers, both stop. -/
theorem record_chunking (registry : Registry) :
    (∀ chunks, registry.StaysBelow (2 ^ 64) chunks.flatten.length ->
      ∃ outcome,
        Comes Eq (record registry chunks) outcome
          ∧ Comes Eq (record registry [chunks.flatten]) outcome)
    ∧ ∀ moves,
      registry.StaysBelow capacity (InboundMove.fed moves).length ->
        ∃ outcome,
          Comes Eq (Receiver.fresh.play registry moves) outcome
            ∧ match outcome with
              | .error fault =>
                  ∀ more,
                    registry.StaysBelow (2 ^ 64)
                        (InboundMove.fed moves ++ more).length ->
                      Comes Eq
                        (record registry [InboundMove.fed moves ++ more])
                        (.error fault)
              | .ok (handedOut, receiver) =>
                  (∀ more whole,
                    registry.StaysBelow (2 ^ 64)
                        (InboundMove.fed moves ++ more).length ->
                      record registry [InboundMove.fed moves ++ more]
                          = .ok whole ->
                        handedOut <+: whole.datagrams)
                  ∧ ∀ after,
                    receiver.next registry = .ok (none, after) ->
                      ∃ whole,
                        record registry [InboundMove.fed moves] = .ok whole
                          ∧ whole.datagrams = handedOut
                          ∧ whole.rest = after.pass.buffer := by
  constructor
  · intro chunks below
    exact ⟨_, record_comes below, record_flatten_comes below⟩
  · intro moves below
    rw [← Nat.zero_add (InboundMove.fed moves).length] at below
    have played := Receiver.play_comes Receiver.mirrors_fresh below
    have plain := registry.extract_chunking.2 moves
    rw [Nat.zero_add] at below played
    cases plainPlayed : Inbound.empty.play registry moves with
    | error fault =>
        rw [plainPlayed] at played plain
        refine ⟨.error fault, played.of_error, ?_⟩
        intro more moreBelow
        have comes := record_flatten_comes moreBelow
        rw [plain more] at comes
        exact comes
    | ok result =>
        obtain ⟨handedOut, inbound⟩ := result
        rw [plainPlayed] at played plain
        obtain ⟨⟨_, receiver⟩, ran, rfl, mirrors⟩ := played.exists_of_ok
        refine ⟨.ok (_, receiver), .of_eq ran, ?_, ?_⟩
        · intro more whole moreBelow recorded
          have comes := record_flatten_comes moreBelow
          rw [recorded] at comes
          obtain ⟨_, mapped, rfl⟩ := comes.exists_of_guarded_ok
          obtain ⟨extraction, extracted, rfl⟩ := exists_of_map_eq_ok mapped
          exact plain.1 more extraction extracted
        · intro after asked
          have comes := Receiver.next_comes mirrors below
          rw [asked] at comes
          obtain ⟨⟨_, inboundAfter⟩, plainAsked, rfl, mirrorsAfter⟩ :=
            comes.exists_of_guarded_ok
          obtain ⟨whole, extracted, datagrams, rest⟩ :=
            plain.2 inboundAfter plainAsked
          have recordComes := record_flatten_comes
            (below.mono (by decide) le_rfl)
          rw [extracted] at recordComes
          obtain ⟨_, recorded, rfl⟩ := recordComes.exists_of_ok
          exact ⟨_, recorded, datagrams,
            rest.trans mirrorsAfter.buffer.symm⟩

/-- A line behind a byte of noise, cut in two. -/
def lineChunks : List Bytes :=
  [[0x2A, 0x02], [0x41, 0x03]]

def lineDatagram : Datagram :=
  { policy := Registry.plainLine, content := [0x02, 0x41, 0x03] }

/-- The same line, with requests between its chunks and behind them. -/
def lineMoves : List InboundMove :=
  [.feed [0x2A, 0x02], .ask, .feed [0x41, 0x03], .ask]

theorem record_chunking_lines :
    Registry.bothLines.StaysBelow (2 ^ 64) lineChunks.flatten.length
      ∧ record .bothLines [lineChunks.flatten]
        = .ok
          { datagrams := [lineDatagram]
            rest := []
            tally := { datagrams := 1, noiseBytes := 1, resyncs := 0 } }
      ∧ Registry.bothLines.StaysBelow capacity
        (InboundMove.fed lineMoves).length
      ∧ ∃ receiver,
        Receiver.fresh.play .bothLines lineMoves
            = .ok ([lineDatagram], receiver)
          ∧ ∀ after, receiver.next .bothLines = .ok (none, after) ->
            ∃ whole,
              record .bothLines [InboundMove.fed lineMoves] = .ok whole
                ∧ whole.datagrams = [lineDatagram] := by
  have below : Registry.bothLines.StaysBelow (2 ^ 64)
      lineChunks.flatten.length := by
    constructor <;> decide
  have movesBelow : Registry.bothLines.StaysBelow capacity
      (InboundMove.fed lineMoves).length := by
    constructor <;> decide
  have cut : record .bothLines lineChunks
      = .ok
        { datagrams := [lineDatagram]
          rest := []
          tally := { datagrams := 1, noiseBytes := 1, resyncs := 0 } } := by
    cbv
  have played : (Receiver.fresh.play .bothLines lineMoves).map Prod.fst
      = .ok [lineDatagram] := by
    cbv
  obtain ⟨chunking, schedules⟩ := record_chunking .bothLines
  obtain ⟨_, cutComes, wholeComes⟩ := chunking lineChunks below
  rw [cut] at cutComes
  obtain ⟨_, rfl, rfl⟩ := cutComes.exists_of_guarded_ok
  obtain ⟨_, whole, rfl⟩ := wholeComes.exists_of_ok
  obtain ⟨⟨_, receiver⟩, ran, rfl⟩ := exists_of_map_eq_ok played
  obtain ⟨_, playComes, drained⟩ := schedules lineMoves movesBelow
  rw [ran] at playComes
  obtain ⟨_, rfl, rfl⟩ := playComes.exists_of_guarded_ok
  refine ⟨below, whole, movesBelow, receiver, ran, ?_⟩
  intro after asked
  obtain ⟨whole, recorded, datagrams, -⟩ := drained.2 after asked
  exact ⟨whole, recorded, datagrams⟩

/-- A policy with a begin marker so far behind the other that its place is a
number only for datagrams that begin within six bytes. -/
def farLine : Policy :=
  { name := "far-line"
    kind := .delimited
    begins := [Registry.marker [0x41] 0, Registry.marker [0x42] (2 ^ 64 - 6)]
    terminator? := some (Registry.marker [0x43] 1)
    rule := .endMarker
    hasEnd := by decide
    hasBegin := by decide
    noneEmpty := by decide }

/-- Such a policy can be made. A line that may begin behind six bytes of noise
is kept if the noise was received before it. Received together they are too
much. -/
theorem record_farLine :
    Policy.ofMarkers "far-line" .delimited
        [Registry.marker [0x41] 0, Registry.marker [0x42] (2 ^ 64 - 6)]
        [Registry.marker [0x43] 1] .endMarker
      = .ok farLine
    ∧ record { policies := [farLine] } [List.replicate 6 0x00, [0x41]]
      = .ok
        { datagrams := []
          rest := [0x41]
          tally := { datagrams := 0, noiseBytes := 6, resyncs := 0 } }
    ∧ record { policies := [farLine] } [List.replicate 6 0x00 ++ [0x41]]
      = crash .overflow :=
  ⟨rfl, rfl, rfl⟩

/-! ## Every byte is accounted for -/

/-- As long as what framing adds up stays a number, what is reported chunk by
chunk is what some readings come to, and after any number of chunks the readings
so far account for the stream so far. -/
theorem extractEach_reports {registry : Registry} {chunks : List Bytes}
    (below : registry.StaysBelow (2 ^ 64) chunks.flatten.length) :
    ∃ readings,
      readings.length = chunks.length
        ∧ Comes (fun reports passes => reports = passes.map report)
          (extractEach registry .fresh chunks)
          (Reading.reportEach [] readings)
        ∧ ∀ count,
          registry.Accounts (chunks.take count).flatten
            (readings.take count) := by
  obtain ⟨readings, length, extracted, accounts⟩ :=
    registry.extractEach_accounts chunks
  refine ⟨readings, length, ?_, accounts⟩
  rw [← extracted]
  exact extractEach_comes Pass.fresh_within (by rwa [Nat.zero_add])

/-- The first chunk of the line is a byte of noise and the beginning of a line,
and the second one ends the line. -/
theorem extractEach_reports_lines :
    Registry.bothLines.StaysBelow (2 ^ 64) lineChunks.flatten.length
      ∧ ∃ reports passes readings,
        extractEach .bothLines .fresh lineChunks = .ok reports
          ∧ reports.map Report.consumed = [1, 3]
          ∧ Reading.reportEach [] readings = .ok passes
          ∧ reports = passes.map report
          ∧ Registry.bothLines.Accounts lineChunks.flatten readings := by
  have below : Registry.bothLines.StaysBelow (2 ^ 64)
      lineChunks.flatten.length := by
    constructor <;> decide
  have ran : (extractEach .bothLines .fresh lineChunks).map
      (List.map Report.consumed) = .ok [1, 3] := by
    cbv
  obtain ⟨reports, extracted, consumed⟩ := exists_of_map_eq_ok ran
  obtain ⟨readings, length, comes, accounts⟩ := extractEach_reports below
  rw [extracted] at comes
  obtain ⟨passes, reported, same⟩ := comes.exists_of_guarded_ok
  have whole := accounts lineChunks.length
  rw [List.take_length, ← length, List.take_length] at whole
  exact ⟨below, reports, passes, readings, extracted, consumed, reported, same,
    whole⟩

/-- A line that may begin behind six bytes of noise is not accounted for where
its other begin marker cannot be looked for, although none is contradicted. -/
theorem extractEach_farLine :
    ¬farLine.Contradicted [0x41]
      ∧ extractEach { policies := [farLine] } .fresh
          [List.replicate 6 0x00 ++ [0x41]]
        = crash .overflow
      ∧ ¬∃ readings,
        Comes (fun reports passes => reports = passes.map report)
          (extractEach { policies := [farLine] } .fresh
            [List.replicate 6 0x00 ++ [0x41]])
          (Reading.reportEach [] readings) := by
  have overflows : extractEach { policies := [farLine] } .fresh
      [List.replicate 6 0x00 ++ [0x41]] = crash .overflow := rfl
  refine ⟨?_, overflows, ?_⟩
  · rw [← Policy.compareBegin_eq_mismatch_iff_contradicted]
    decide
  · rintro ⟨readings, comes⟩
    rw [overflows] at comes
    cases comes

end Guarded
end PlcLink
