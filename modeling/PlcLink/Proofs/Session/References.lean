import PlcLink.Proofs.Session.JobTable

/-!
# The order in which references are handed out

The search for a free reference tries every reference once, in cyclic order
behind the last one that was handed out. So it finds the first that is
available, and fails only if none is.
-/

namespace PlcLink
namespace JobTable

/-! ## Cyclic order -/

/-- The references in cyclic order behind the given one, zero left out. The
first of them has skip zero. -/
def candidate (last : UInt16) (skip : Nat) : UInt16 :=
  UInt16.ofNat (1 + (last.toNat + skip) % 65535)

theorem toNat_candidate (last : UInt16) (skip : Nat) :
    (candidate last skip).toNat = 1 + (last.toNat + skip) % 65535 := by
  have bound := Nat.mod_lt (last.toNat + skip) (by decide : 0 < 65535)
  exact UInt16.toNat_ofNat_of_lt' (show _ < 65536 by omega)

theorem toNat_following (last : UInt16) :
    (following last).toNat = 1 + last.toNat % 65535 := by
  have bound := last.toNat_lt
  unfold following
  split
  · rename_i isLast
    rw [isLast]
    rfl
  · rename_i notLast
    have notLastNat : last.toNat ≠ 65535 := fun same =>
      notLast (UInt16.toNat.inj same)
    rw [UInt16.toNat_add, UInt16.toNat_one]
    omega

theorem candidate_zero (last : UInt16) : candidate last 0 = following last := by
  apply UInt16.toNat.inj
  rw [toNat_candidate, toNat_following, Nat.add_zero]

theorem candidate_following (last : UInt16) (skip : Nat) :
    candidate (following last) skip = candidate last (skip + 1) := by
  apply UInt16.toNat.inj
  rw [toNat_candidate, toNat_candidate, toNat_following]
  omega

/-- From wherever one begins, every reference but zero is met within 65535
places. -/
theorem exists_candidate (last : UInt16) {reference : UInt16}
    (nonzero : reference ≠ 0) :
    ∃ skip < 65535, candidate last skip = reference := by
  have bound := reference.toNat_lt
  have lastBound := last.toNat_lt
  have positive : reference.toNat ≠ 0 := fun zero =>
    nonzero (UInt16.toNat.inj zero)
  refine ⟨(reference.toNat + 65534 - last.toNat) % 65535,
    Nat.mod_lt _ (by decide), ?_⟩
  apply UInt16.toNat.inj
  rw [toNat_candidate]
  omega

theorem candidate_ne_zero (last : UInt16) (skip : Nat) :
    candidate last skip ≠ 0 := by
  intro zero
  have sum := toNat_candidate last skip
  rw [zero, UInt16.toNat_zero] at sum
  omega

/-! ## The search -/

/-- The search tries the references in cyclic order. -/
theorem firstFree?_eq_map_find? (isFree : UInt16 -> Bool) (count : Nat)
    (last : UInt16) :
    firstFree? isFree count last
      = ((List.range count).find? fun skip => isFree (candidate last skip)).map
        (candidate last) := by
  induction count generalizing last with
  | zero => rfl
  | succ count inductionHypothesis =>
      rw [firstFree?, List.range_succ_eq_map, List.find?_cons, candidate_zero]
      cases free : isFree (following last) with
      | true => rw [if_pos rfl, Option.map_some, candidate_zero]
      | false =>
          have shifted : candidate (following last)
              = fun skip => candidate last (skip + 1) :=
            funext (candidate_following last)
          rw [if_neg Bool.false_ne_true, inductionHypothesis, shifted,
            List.find?_map, Option.map_map]
          rfl

variable {Ticket : Type} {table : JobTable Ticket} {now : Nat}

/-- A reference is in quarantine until a time that is still to come. -/
def Quarantined (table : JobTable Ticket) (now : Nat) (reference : UInt16) :
    Prop :=
  ∃ release, table.quarantine[reference]? = some release ∧ now < release

/-- No job has the reference, and no quarantine holds it any longer. -/
def Available (table : JobTable Ticket) (now : Nat) (reference : UInt16) :
    Prop :=
  table.find? reference = none ∧ ¬table.Quarantined now reference

/-- The first available reference in cyclic order behind the last one that was
handed out. -/
def NextAvailable (table : JobTable Ticket) (now : Nat) (reference : UInt16) :
    Prop :=
  ∃ skip < 65535,
    candidate table.lastReference skip = reference
      ∧ table.Available now reference
      ∧ ∀ earlier < skip,
        ¬table.Available now (candidate table.lastReference earlier)

theorem getElem?_quarantine_release (table : JobTable Ticket) (now : Nat)
    (reference : UInt16) :
    (table.release now).quarantine[reference]?
      = table.quarantine[reference]?.filter fun release => now < release :=
  Std.TreeMap.getElem?_filter'

/-- Forgetting the quarantines that are over leaves the others. -/
theorem contains_quarantine_release {reference : UInt16} :
    (table.release now).quarantine.contains reference = true
      ↔ table.Quarantined now reference := by
  rw [Std.TreeMap.contains_eq_isSome_getElem?, getElem?_quarantine_release,
    Quarantined]
  cases table.quarantine[reference]? <;> simp

theorem isFree_release_iff {reference : UInt16} :
    (table.release now).isFree reference = true
      ↔ table.Available now reference := by
  rw [isFree, Bool.and_eq_true, Bool.not_eq_true', Bool.not_eq_true',
    Std.TreeMap.contains_eq_isSome_getElem?, Option.isSome_eq_false_iff,
    Option.isNone_iff_eq_none, ← Bool.not_eq_true,
    contains_quarantine_release, Available, find?_eq_none_iff]
  rfl

/-- The search goes through the available references. -/
theorem fst_allocate (table : JobTable Ticket) (now : Nat) :
    (table.allocate now).1
      = ((List.range 65535).find? fun skip =>
          (table.release now).isFree (candidate table.lastReference skip)).map
        (candidate table.lastReference) := by
  rw [← firstFree?_eq_map_find?]
  simp only [allocate]
  split <;> rename_i found <;> exact found.symm

/-- What is handed out is the next available reference. -/
theorem allocate_eq_some_iff {reference : UInt16} :
    (table.allocate now).1 = some reference
      ↔ table.NextAvailable now reference := by
  simp only [fst_allocate, Option.map_eq_some_iff, List.find?_range_eq_some,
    List.mem_range, Bool.not_eq_true', ← Bool.not_eq_true, isFree_release_iff]
  constructor
  · rintro ⟨skip, ⟨available, near, first⟩, rfl⟩
    exact ⟨skip, near, rfl, available, first⟩
  · rintro ⟨skip, near, rfl, available, first⟩
    exact ⟨skip, ⟨available, near, first⟩, rfl⟩

/-- Nothing is handed out only if nothing is available. -/
theorem allocate_eq_none_iff :
    (table.allocate now).1 = none
      ↔ ∀ reference ≠ 0, ¬table.Available now reference := by
  simp only [fst_allocate, Option.map_eq_none_iff, List.find?_range_eq_none,
    Bool.not_eq_true', ← Bool.not_eq_true, isFree_release_iff]
  constructor
  · intro none reference nonzero
    obtain ⟨skip, near, rfl⟩ := exists_candidate table.lastReference nonzero
    exact none skip near
  · intro none skip _
    exact none _ (candidate_ne_zero _ _)

/-- The next search begins behind the reference that was handed out. -/
theorem snd_allocate (table : JobTable Ticket) (now : Nat) :
    (table.allocate now).2
      = { table.release now with
          lastReference :=
            (table.allocate now).1.getD table.lastReference } := by
  simp only [allocate]
  split <;> rfl

end JobTable
end PlcLink
