import Mathlib
import PlcLink.Proofs.Planning.Reading

/-!
# Where planned pieces begin

A piece belongs behind the earlier pieces of its variable, and a plan has it
there. A variable one of whose pieces belongs to no address has no plan.
-/

namespace PlcLink
namespace VarSpec

/-- Where a piece belongs: behind the bytes of the earlier pieces. -/
def place (spec : VarSpec) (pieces : List VarSpec) (index : Nat) : Nat :=
  spec.start + ((pieces.take index).map byteLength).sum

/-- Every piece begins where it belongs. -/
def Exact (spec : VarSpec) (pieces : List VarSpec) : Prop :=
  ∀ index piece, pieces[index]? = some piece ->
    piece.start = spec.place pieces index

variable {spec : VarSpec} {maxBytes : Nat} {pieces : List VarSpec}

/-- Pieces that follow one another begin where they belong, counted from where
the first of them begins. -/
theorem Consecutive.start_eq {first last : Nat}
    (consecutive : Consecutive spec first pieces last) (index : Nat)
    (piece : VarSpec) (isPiece : pieces[index]? = some piece) :
    piece.start = first + ((pieces.take index).map byteLength).sum := by
  induction consecutive generalizing index with
  | done place => cases isPiece
  | @piece next others stop area_eq blockNumber_eq follow inductionHypothesis =>
      cases index with
      | zero =>
          cases isPiece
          rfl
      | succ index =>
          rw [inductionHypothesis index isPiece, List.take_succ_cons,
            List.map_cons, List.sum_cons, VarSpec.stop, Nat.add_assoc]

theorem exact_pieces (cut : spec.pieces maxBytes = .ok pieces) :
    spec.Exact pieces :=
  (consecutive_pieces cut).start_eq

end VarSpec

/-- The pieces of a plan begin where they belong: at the sum of the address of
their variable and the lengths of its earlier pieces. -/
theorem BatchLimits.pieces_exact (limits : BatchLimits) :
    (∀ specs plan, ReadPlan.ofSpecs limits specs = .ok plan ->
      List.Forall₂ VarSpec.Exact specs plan.pieces)
    ∧ ∀ items plan, WritePlan.ofItems limits items = .ok plan ->
      List.Forall₂
        (fun item pieces => item.spec.Exact (pieces.map WriteItem.spec))
        items plan.pieces := by
  constructor
  · intro specs plan planned
    apply (ReadPlan.cut_of_ofSpecs planned).imp
    intro spec pieces cut
    exact VarSpec.exact_pieces cut
  · intro items plan planned
    apply (WritePlan.cut_of_ofItems planned).imp
    intro item pieces cut
    obtain ⟨_, isCut, rfl⟩ := WriteItem.exists_pieces_spec cut
    exact VarSpec.exact_pieces isCut

/-- Two pieces to read, the second of which begins at the last address. -/
def VarSpec.upToLast : VarSpec :=
  .elements .dataBlock 1 4294967073 .byte 424

/-- Two pieces to write, the second of which begins at the last address. -/
def WriteItem.upToLast : WriteItem :=
  .ofBytes .dataBlock 1 4294967083 (List.replicate 424 0)

theorem BatchLimits.pieces_exact_upToLast :
    (∃ plan,
      ReadPlan.ofSpecs (.ofPduSize 240 20) [.upToLast] = .ok plan
        ∧ plan.batches.map (List.map VarSpec.start)
          = [[4294967073], [4294967295]]
        ∧ List.Forall₂ VarSpec.Exact [.upToLast] plan.pieces)
    ∧ ∃ plan,
      WritePlan.ofItems (.ofPduSize 240 20) [.upToLast] = .ok plan
        ∧ plan.batches.map (List.map fun piece => piece.spec.start)
          = [[4294967083], [4294967295]]
        ∧ List.Forall₂
          (fun (item : WriteItem) pieces =>
            item.spec.Exact (pieces.map WriteItem.spec))
          [.upToLast] plan.pieces := by
  obtain ⟨reads, writes⟩ := pieces_exact (.ofPduSize 240 20)
  have reading : (ReadPlan.ofSpecs (.ofPduSize 240 20) [.upToLast]).map
        (fun plan => plan.batches.map (List.map VarSpec.start))
      = .ok [[4294967073], [4294967295]] := by
    decide +kernel
  have writing : (WritePlan.ofItems (.ofPduSize 240 20) [.upToLast]).map
        (fun plan =>
          plan.batches.map (List.map fun piece => piece.spec.start))
      = .ok [[4294967083], [4294967295]] := by
    decide +kernel
  obtain ⟨readPlan, readPlanned, readStarts⟩ := exists_of_map_eq_ok reading
  obtain ⟨writePlan, writePlanned, writeStarts⟩ := exists_of_map_eq_ok writing
  exact ⟨⟨readPlan, readPlanned, readStarts, reads _ _ readPlanned⟩,
    writePlan, writePlanned, writeStarts, writes _ _ writePlanned⟩

end PlcLink
