import Mathlib
import PlcLink.Proofs.Framing.Chunking

/-!
# Well-formed datagrams

A stream of datagrams whose headers announce their own lengths is cut into just
these datagrams by the policies of the transport, and nothing is cut out of
them.
-/

namespace PlcLink

/-- No length is announced that is too short for a data TPDU. -/
theorem Policy.minAnnounced_le_of_announcedLength {buffer : Bytes}
    {length : Nat} (known : announcedLength buffer = .known length) :
    minAnnounced ≤ length := by
  unfold announcedLength at known
  split at known
  · dsimp only at known
    split at known
    · cases known
    · rename_i longEnough
      rw [DatagramLength.known.injEq] at known
      rw [← known]
      exact Nat.not_lt.1 longEnough
  · cases known

/-- A datagram with a header that announces the datagram's own length. -/
structure Framed (datagram : Bytes) : Prop where
  begins : [0x03, 0x00] <+: datagram
  announced : Policy.announcedLength datagram = .known datagram.length

namespace Framed

variable {datagram : Bytes}

theorem minAnnounced_le (framed : Framed datagram) :
    Policy.minAnnounced ≤ datagram.length :=
  Policy.minAnnounced_le_of_announcedLength framed.announced

theorem parseBody_nil (type : TpduType) :
    Tpdu.parseBody type [] = .error .invalidFrame := by
  cases type <;> rfl

theorem length_of_parse_data {body payload : Bytes}
    {parameters : DataParameters}
    (parsed : Tpdu.parse body = .ok (.data parameters, payload)) :
    3 ≤ body.length := by
  match body with
  | [] => cases parsed
  | [_] => cases parsed
  | [indicator, typeByte] =>
      -- There is nothing for the header to be read from.
      exfalso
      unfold Tpdu.parse at parsed
      dsimp only at parsed
      split at parsed
      · cases parsed
      · split at parsed
        · cases parsed
        · obtain ⟨tpdu, body, -⟩ := exists_of_bind_eq_ok parsed
          rw [List.take_nil, parseBody_nil] at body
          cases body
  | _ :: _ :: _ :: _ => simp

/-- A frame that holds a data TPDU comes from a well-formed datagram. -/
theorem of_parse {frame : Frame} {parameters : DataParameters}
    (parsed : Frame.parse datagram = .ok frame)
    (isData : frame.tpdu = .data parameters) : Framed datagram := by
  obtain ⟨⟨header, body⟩, headerParsed, parsed⟩ :=
    exists_of_bind_eq_ok parsed
  obtain ⟨⟨tpdu, payload⟩, tpduParsed, parsed⟩ := exists_of_bind_eq_ok parsed
  have sameTpdu : tpdu = .data parameters := by
    dsimp only at parsed
    split at parsed
    · cases parsed
    · cases Except.ok.inj parsed
      exact isData
  subst sameTpdu
  have bodyLength := length_of_parse_data tpduParsed
  unfold Tpkt.parse at headerParsed
  split at headerParsed
  · dsimp only at headerParsed
    split at headerParsed
    · cases headerParsed
    · rename_i versionRight
      simp only [not_or, not_not] at versionRight
      obtain ⟨rfl, rfl⟩ := versionRight
      split at headerParsed
      · cases headerParsed
      · rename_i lengthRight
        cases Except.ok.inj headerParsed
        rw [not_not] at lengthRight
        constructor
        · exact ⟨_, rfl⟩
        · unfold Policy.announcedLength
          dsimp only
          rw [if_neg, lengthRight]
          · simp only [List.length_cons, Tpkt.headerLength]
            congr 1
            omega
          · rw [lengthRight]
            simp only [Policy.minAnnounced, Tpkt.headerLength]
            omega
  · cases headerParsed

end Framed

namespace Registry

/-- The policies of the transport go by the announced length and cut nothing
out. -/
theorem mem_transport {policy : Policy}
    (member : policy ∈ transport.policies) :
    policy.rule = .announced ∧ policy.terminator? = none
      ∧ policy.begins.filter Marker.exclusive = []
      ∧ policy.beginExtent ≤ Policy.minAnnounced := by
  revert policy
  decide

theorem strip_transport {policy : Policy}
    (member : policy ∈ transport.policies) (datagram : Bytes) :
    policy.strip datagram = .ok datagram := by
  obtain ⟨-, noTerminator, noneExclusive, -⟩ := mem_transport member
  simp only [Policy.strip, Policy.excluded, noTerminator, noneExclusive,
    Option.filter_none, List.map_nil, List.mergeSort_nil]
  rfl

/-- Bytes that begin like a datagram are claimed. -/
theorem choose_transport_ne_nobody {buffer : Bytes}
    (agrees : buffer.take 2 <+: [0x03, 0x00]) :
    transport.choose buffer ≠ .nobody := by
  intro unclaimed
  have member : anyTpdu ∈ transport.policies := List.mem_cons_self
  have differs := mismatch_of_nobody unclaimed member
  obtain ⟨other, isMarker, differs⟩ :=
    Policy.compareBegin_eq_mismatch_iff.1 differs
  obtain rfl := List.mem_singleton.1 isMarker
  exact Marker.compare_eq_mismatch_iff.1 differs agrees

/-- Bytes that agree with a datagram begin like one. -/
theorem take_two_prefix {datagram buffer : Bytes} (framed : Framed datagram)
    (agrees : buffer <+: datagram ∨ datagram <+: buffer) :
    buffer.take 2 <+: [0x03, 0x00] := by
  obtain ⟨tail, rfl⟩ := framed.begins
  obtain begun | whole := agrees
  · exact begun.take 2
  · obtain ⟨rest, rfl⟩ := whole
    exact List.prefix_rfl

/-- What is done with the bytes of a datagram once they are found. -/
theorem stepOf_transport {policy : Policy} {buffer : Bytes} {length : Nat}
    (member : policy ∈ transport.policies)
    (announced : Tpkt.headerLength ≤ buffer.length →
      Policy.announcedLength buffer = .known length)
    (longEnough : Policy.minAnnounced ≤ length) :
    (length ≤ buffer.length ∧
        stepOf policy 0 buffer = .take 0 policy length)
      ∨ (buffer.length < length ∧
        ∃ needed, stepOf policy 0 buffer = .wait 0 needed) := by
  obtain ⟨rule, -, -, extent⟩ := mem_transport member
  have minimum : policy.minimumSize = Policy.minAnnounced := by
    unfold Policy.minimumSize
    rw [rule]
    exact Nat.max_eq_right extent
  unfold stepOf
  rw [minimum]
  split
  · rename_i short
    exact .inr ⟨short.trans_le longEnough, _, rfl⟩
  · rename_i enough
    have headerThere : Tpkt.headerLength ≤ buffer.length := by
      simp only [Tpkt.headerLength, Policy.minAnnounced] at enough ⊢
      omega
    have known : policy.datagramLength buffer = .known length := by
      unfold Policy.datagramLength
      rw [rule]
      exact announced headerThere
    rw [known]
    dsimp only
    split
    · rename_i whole
      exact .inl ⟨whole, rfl⟩
    · rename_i cut
      exact .inr ⟨Nat.lt_of_not_le cut, _, rfl⟩

/-- A datagram at the front is taken. -/
theorem step_framed {datagram : Bytes} (framed : Framed datagram)
    (rest : Bytes) :
    ∃ policy ∈ transport.policies,
      transport.step (datagram ++ rest)
        = .take 0 policy datagram.length := by
  have longEnough := framed.minAnnounced_le
  have agrees := take_two_prefix framed (.inr (List.prefix_append _ rest))
  have headerThere : Tpkt.headerLength ≤ datagram.length := by
    simp only [Tpkt.headerLength, Policy.minAnnounced] at longEnough ⊢
    omega
  cases chosen : transport.choose (datagram ++ rest) with
  | nobody => exact absurd chosen (choose_transport_ne_nobody agrees)
  | pending needed =>
      -- All bytes that any policy looks at are there.
      exfalso
      obtain ⟨policy, member, goesOn⟩ := exists_of_choose_pending chosen
      have beyond := Policy.length_lt_of_partialMatch goesOn
      have extent := (mem_transport member).2.2.2
      rw [List.length_append] at beyond
      omega
  | found policy =>
      have member := (full_of_choose_found chosen).1
      refine ⟨policy, member, ?_⟩
      have announced : Policy.announcedLength (datagram ++ rest)
          = .known datagram.length := by
        rw [Policy.announcedLength_append rest headerThere, framed.announced]
      obtain ⟨-, taken⟩ | ⟨short, -⟩ :=
        stepOf_transport member (fun _ => announced) longEnough
      · cases split : datagram ++ rest with
        | nil =>
            have empty := congrArg List.length split
            rw [List.length_append, List.length_nil] at empty
            simp only [Policy.minAnnounced] at longEnough
            omega
        | cons first others =>
            rw [split] at chosen taken
            rw [step_cons_of_found chosen, taken]
      · rw [List.length_append] at short
        omega

/-- The beginning of a datagram waits for its end. -/
theorem step_begun {buffer missing : Bytes}
    (framed : Framed (buffer ++ missing))
    (begun : buffer ≠ []) (unfinished : missing ≠ []) :
    ∃ needed, transport.step buffer = .wait 0 needed := by
  have agrees := take_two_prefix framed (.inl (List.prefix_append _ missing))
  have shorter : buffer.length < (buffer ++ missing).length := by
    have positive := List.length_pos_iff.2 unfinished
    rw [List.length_append]
    omega
  obtain ⟨first, rest, rfl⟩ := List.exists_cons_of_ne_nil begun
  cases chosen : transport.choose (first :: rest) with
  | nobody => exact absurd chosen (choose_transport_ne_nobody agrees)
  | pending needed => exact ⟨needed, step_cons_of_pending chosen⟩
  | found policy =>
      have announced (headerThere : Tpkt.headerLength ≤ (first :: rest).length) :
          Policy.announcedLength (first :: rest)
            = .known (first :: rest ++ missing).length := by
        rw [← Policy.announcedLength_append missing headerThere,
          framed.announced]
      rw [step_cons_of_found chosen]
      obtain ⟨whole, -⟩ | ⟨-, waits⟩ :=
        stepOf_transport (full_of_choose_found chosen).1 announced
          framed.minAnnounced_le
      · omega
      · exact waits

/-- What a pass over the beginning of a stream of datagrams takes. -/
theorem extract_framed {datagrams : List Bytes} {buffer wire : Bytes}
    (framed : ∀ datagram ∈ datagrams, Framed datagram)
    (stream : buffer ++ wire = datagrams.flatten) :
    ∃ taken left extraction,
      datagrams = taken ++ left
        ∧ transport.extract buffer = .ok extraction
        ∧ extraction.datagrams.map Datagram.content = taken
        ∧ extraction.rest ++ wire = left.flatten
        ∧ ∀ datagram ∈ left.head?,
          extraction.rest.length < datagram.length := by
  induction datagrams generalizing buffer with
  | nil =>
      obtain ⟨rfl, rfl⟩ := List.append_eq_nil_iff.1 stream
      exact ⟨[], [], _, rfl, by rw [extract], rfl, rfl, by simp⟩
  | cons datagram others inductionHypothesis =>
      obtain ⟨isFramed, othersFramed⟩ := List.forall_mem_cons.1 framed
      rw [List.flatten_cons] at stream
      by_cases whole : datagram.length ≤ buffer.length
      · obtain ⟨behind, rfl⟩ :=
          List.prefix_of_prefix_length_le ⟨_, rfl⟩ ⟨_, stream⟩ whole
        rw [List.append_assoc, List.append_cancel_left_eq] at stream
        obtain ⟨taken, left, later, rfl, extracted, contents, rest, short⟩ :=
          inductionHypothesis othersFramed stream
        obtain ⟨policy, member, takes⟩ := step_framed isFramed behind
        refine ⟨datagram :: taken, left,
          later.after { datagrams := 1, noiseBytes := 0, resyncs := 0 }
            [{ policy, content := datagram }], rfl, ?_, ?_, rest, short⟩
        · rw [extract_of_take takes, List.take_left, List.drop_left,
            strip_transport member, extracted]
          rfl
        · rw [← contents]
          rfl
      · have shorter := Nat.lt_of_not_le whole
        obtain ⟨missing, rfl⟩ :=
          List.prefix_of_prefix_length_le ⟨_, stream⟩ ⟨_, rfl⟩ shorter.le
        have unfinished : missing ≠ [] := by
          rintro rfl
          rw [List.append_nil] at shorter
          exact Nat.lt_irrefl _ shorter
        cases buffer with
        | nil =>
            refine ⟨[], missing :: others, _, rfl, by rw [extract], rfl,
              stream, ?_⟩
            simp [List.length_pos_iff.2 unfinished]
        | cons first rest =>
            obtain ⟨needed, waits⟩ :=
              step_begun isFramed (List.cons_ne_nil _ _) unfinished
            refine ⟨[], (first :: rest ++ missing) :: others, _, rfl,
              extract_of_wait waits, rfl, stream, ?_⟩
            rintro datagram isHead
            cases Option.some.inj isHead
            exact shorter

end Registry

namespace Inbound

/-- What was received and not handed out, together with what is on its way, is
these datagrams. -/
def Holds (inbound : Inbound) (wire : Bytes) (datagrams : List Bytes) : Prop :=
  ∃ later,
    datagrams = inbound.ready.map Datagram.content ++ later
      ∧ (∀ datagram ∈ later, Framed datagram)
      ∧ inbound.buffer ++ wire = later.flatten

variable {inbound : Inbound} {wire : Bytes} {datagrams : List Bytes}

theorem Holds.empty : Holds .empty [] [] :=
  ⟨[], rfl, by simp, rfl⟩

/-- Receiving bytes leaves the datagrams as they are. -/
theorem Holds.feed {bytes : Bytes}
    (holds : inbound.Holds (bytes ++ wire) datagrams) :
    (inbound.feed bytes).Holds wire datagrams := by
  obtain ⟨later, split, framed, stream⟩ := holds
  refine ⟨later, split, framed, ?_⟩
  rw [← stream]
  exact List.append_assoc _ _ _

/-- Further datagrams may be sent. -/
theorem Holds.send {further : List Bytes}
    (holds : inbound.Holds wire datagrams)
    (framed : ∀ datagram ∈ further, Framed datagram) :
    inbound.Holds (wire ++ further.flatten) (datagrams ++ further) := by
  obtain ⟨later, rfl, laterFramed, stream⟩ := holds
  refine ⟨later ++ further, List.append_assoc _ _ _, ?_, ?_⟩
  · intro datagram member
    obtain inLater | inFurther := List.mem_append.1 member
    · exact laterFramed datagram inLater
    · exact framed datagram inFurther
  · rw [← List.append_assoc, stream, List.flatten_append]

/-- A request hands out the next of the datagrams, or none as long as it is not
there. -/
theorem Holds.next (holds : inbound.Holds wire datagrams) :
    (∃ datagram others after,
        datagrams = datagram.content :: others
          ∧ inbound.next .transport = .ok (some datagram, after)
          ∧ after.Holds wire others)
      ∨ ∃ after,
        inbound.next .transport = .ok (none, after)
          ∧ after.Holds wire datagrams
          ∧ (wire = [] → datagrams = []) := by
  obtain ⟨later, rfl, framed, stream⟩ := holds
  cases isReady : inbound.ready with
  | cons datagram ready =>
      left
      exact ⟨datagram, _, _, rfl, next_of_ready isReady, later, rfl, framed,
        stream⟩
  | nil =>
      obtain ⟨taken, left, extraction, rfl, extracted, rfl, rest, short⟩ :=
        Registry.extract_framed framed stream
      have asked := next_of_extract isReady extracted
      have leftFramed : ∀ datagram ∈ left, Framed datagram :=
        fun datagram member =>
          framed datagram (List.mem_append_right _ member)
      cases found : extraction.datagrams with
      | cons datagram ready =>
          rw [found] at asked
          left
          exact ⟨datagram, _, _, rfl, asked, left, rfl, leftFramed, rest⟩
      | nil =>
          rw [found] at asked
          right
          refine ⟨_, asked, ⟨left, rfl, leftFramed, rest⟩, ?_⟩
          rintro rfl
          -- What is left in the buffer is shorter than any datagram.
          cases left with
          | nil => rfl
          | cons datagram others =>
              have cut := short datagram rfl
              have lengths := congrArg List.length rest
              rw [List.append_nil, List.flatten_cons, List.length_append]
                at lengths
              omega

end Inbound
end PlcLink
