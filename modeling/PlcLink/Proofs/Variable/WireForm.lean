import Mathlib
import PlcLink.Proofs.Pdu.Encodable
import PlcLink.Proofs.Pdu.Grammar

/-!
# The wire form of addresses

Each address of a list is written as twelve bytes, just if it is below the
bound. Reading so many addresses takes so many strings of twelve bytes from the
front of its input, gives the addresses that are written as these strings, and
accepts nothing else.
-/

namespace PlcLink
namespace VarSpec

/-- Each address is written as the twelve bytes in its place. -/
def WrittenAs (specs : List VarSpec) (wires : List Bytes) : Prop :=
  List.Forall₂
    (fun spec wire => spec.emit.result = .ok wire ∧ wire.length = 12)
    specs wires

variable {spec : VarSpec} {specs : List VarSpec}

theorem length_of_emit {wire : Bytes}
    (emitted : spec.emit.result = .ok wire) : wire.length = 12 := by
  obtain ⟨written, sameEmitted, length⟩ := exists_emit (inRange_of_emit emitted)
  cases emitted.symm.trans sameEmitted
  exact length

theorem exists_writtenAs_iff :
    (∃ wires, WrittenAs specs wires)
      ↔ ∀ spec ∈ specs, spec.byteAddress ≤ maxByteAddress := by
  unfold WrittenAs
  rw [exists_forall₂_iff]
  refine forall₂_congr fun spec _ => ⟨?_, exists_emit⟩
  rintro ⟨wire, emitted, -⟩
  exact inRange_of_emit emitted

/-- What a list is written as is the strings of its addresses, one behind the
other. -/
theorem emitMany_eq_ok_iff {written : Bytes} :
    (emitMany specs).result = .ok written
      ↔ ∃ wires, WrittenAs specs wires ∧ written = wires.flatten := by
  constructor
  · intro emitted
    induction specs generalizing written with
    | nil =>
        cases emitted
        exact ⟨[], .nil, rfl⟩
    | cons spec others inductionHypothesis =>
        obtain ⟨front, back, first, rest, rfl⟩ :=
          Emission.exists_of_append emitted
        obtain ⟨wires, writtenAs, rfl⟩ := inductionHypothesis rest
        exact ⟨front :: wires,
          .cons ⟨first, length_of_emit first⟩ writtenAs, rfl⟩
  · rintro ⟨wires, writtenAs, rfl⟩
    induction writtenAs with
    | nil => rfl
    | cons first _ inductionHypothesis =>
        exact Emission.result_append first.1 inductionHypothesis

/-- Reading gives a list of addresses just if the strings it is written as stand
in front of the rest, and every list below the bound has such strings. -/
theorem parseMany_eq_ok_iff_writtenAs (count : Nat) (input rest : Bytes)
    (specs : List VarSpec) :
    (parseMany count input = .ok (specs, rest)
        ↔ specs.length = count
          ∧ (∀ spec ∈ specs,
            spec.byteAddress ≤ 0x1FFFFF ∧ spec.bitIndex ≤ 7)
          ∧ ∃ wires, WrittenAs specs wires ∧ input = wires.flatten ++ rest)
      ∧ ((∃ wires, WrittenAs specs wires)
        ↔ ∀ spec ∈ specs, spec.byteAddress ≤ 0x1FFFFF) := by
  refine ⟨⟨?_, ?_⟩, exists_writtenAs_iff⟩
  · intro read
    obtain ⟨counted, normal, written, emitted, rfl⟩ :=
      emitMany_of_parseMany read
    have inRange := inRange_of_emitMany emitted
    obtain ⟨wires, writtenAs, rfl⟩ := emitMany_eq_ok_iff.1 emitted
    have bounded : ∀ spec ∈ specs,
        spec.byteAddress ≤ 0x1FFFFF ∧ spec.bitIndex ≤ 7 :=
      fun spec member => ⟨inRange spec member, normal spec member⟩
    exact ⟨counted.symm, bounded, wires, writtenAs, rfl⟩
  · rintro ⟨rfl, bounded, wires, writtenAs, rfl⟩
    have normal : ∀ spec ∈ specs, spec.Normal :=
      fun spec member => (bounded spec member).2
    have emitted := emitMany_eq_ok_iff.2 ⟨wires, writtenAs, rfl⟩
    exact parseMany_emitMany normal emitted rest

/-- Bit three of byte ten of a data block. -/
example :
    parseMany 1 [0x12, 0x0A, 0x10, 0x01, 0, 1, 0, 0xFA, 0x84, 0, 0, 0x53]
      = .ok ([singleBit .dataBlock 250 10 3], []) := by
  rfl

end VarSpec
end PlcLink
