import Mathlib
import PlcLink.Proofs.Framing.Growth

/-!
# Who owns the front of a stream

What comparing markers comes to, said of the bytes themselves: a pattern stands
at its offset, or one of the bytes there contradicts it, or the stream ends
before either shows. The policy that is found for the front of a buffer owns it,
whatever follows.
-/

namespace PlcLink

/-- A list agrees with another as far as it goes, or differs from it at some
place. -/
theorem not_prefix_iff_exists_differs {shorter longer : Bytes}
    (length : shorter.length ≤ longer.length) :
    ¬shorter <+: longer
      ↔ ∃ (place : Nat) (byte other : UInt8),
        shorter[place]? = some byte
          ∧ longer[place]? = some other
          ∧ byte ≠ other := by
  rw [List.prefix_iff_getElem, not_exists, forall_prop_of_true length]
  constructor
  · intro differs
    obtain ⟨place, within, differ⟩ := by simpa only [not_forall] using differs
    exact ⟨place, _, _, List.getElem?_eq_getElem within,
      List.getElem?_eq_getElem (within.trans_le length), differ⟩
  · rintro ⟨place, byte, other, isByte, isOther, differ⟩ agrees
    obtain ⟨within, rfl⟩ := List.getElem?_eq_some_iff.1 isByte
    obtain ⟨_, rfl⟩ := List.getElem?_eq_some_iff.1 isOther
    exact differ (agrees place within)

/-! ## Markers -/

namespace Marker

variable {marker : Marker} {stream : Bytes}

/-- The pattern stands at its offset. -/
def Stands (marker : Marker) (stream : Bytes) : Prop :=
  marker.bytes <+: stream.drop marker.offset

/-- A byte of the stream is another than the pattern has there. -/
def Contradicted (marker : Marker) (stream : Bytes) : Prop :=
  ∃ (place : Nat) (byte other : UInt8),
    marker.bytes[place]? = some byte
      ∧ stream[marker.offset + place]? = some other
      ∧ byte ≠ other

theorem compare_eq_full_iff_stands :
    marker.compare stream = .full ↔ marker.Stands stream := by
  rw [compare_eq_full_iff, Stands, List.prefix_iff_eq_take, window, eq_comm]

theorem compare_eq_mismatch_iff_contradicted :
    marker.compare stream = .mismatch ↔ marker.Contradicted stream := by
  have length : (marker.window stream).length ≤ marker.bytes.length := by
    rw [length_window]
    exact Nat.min_le_left _ _
  rw [compare_eq_mismatch_iff, not_prefix_iff_exists_differs length,
    Contradicted]
  constructor
  · rintro ⟨place, byte, other, isByte, isOther, differ⟩
    rw [window, List.getElem?_take_of_lt, List.getElem?_drop] at isByte
    · exact ⟨place, other, byte, isOther, isByte, differ.symm⟩
    · exact (List.getElem?_eq_some_iff.1 isOther).1
  · rintro ⟨place, byte, other, isByte, isOther, differ⟩
    refine ⟨place, other, byte, ?_, isByte, differ.symm⟩
    rw [window, List.getElem?_take_of_lt, List.getElem?_drop]
    · exact isOther
    · exact (List.getElem?_eq_some_iff.1 isByte).1

/-- Where a pattern stands, its bytes are cut out. -/
theorem Stands.take_drop (stands : marker.Stands stream) :
    (stream.drop marker.offset).take marker.bytes.length = marker.bytes :=
  (List.prefix_iff_eq_take.1 stands).symm

end Marker

/-! ## Policies -/

namespace Policy

variable {policy : Policy} {stream : Bytes}

/-- All begin markers stand. -/
def Begins (policy : Policy) (stream : Bytes) : Prop :=
  ∀ marker ∈ policy.begins, marker.Stands stream

/-- One of the begin markers is contradicted. -/
def Contradicted (policy : Policy) (stream : Bytes) : Prop :=
  ∃ marker ∈ policy.begins, marker.Contradicted stream

theorem compareBegin_eq_full_iff_begins :
    policy.compareBegin stream = .full ↔ policy.Begins stream := by
  simp only [compareBegin_eq_full_iff, Marker.compare_eq_full_iff_stands,
    Begins]

theorem compareBegin_eq_mismatch_iff_contradicted :
    policy.compareBegin stream = .mismatch ↔ policy.Contradicted stream := by
  simp only [compareBegin_eq_mismatch_iff,
    Marker.compare_eq_mismatch_iff_contradicted, Contradicted]

end Policy

/-! ## Registries -/

namespace Registry

variable {registry : Registry} {policy : Policy} {buffer : Bytes}

/-- One of some policies, and nobody before it reaches as far, nor anybody
behind it further. -/
def FurthestOf (policies : List Policy) (policy : Policy) : Prop :=
  ∃ before behind,
    policies = before ++ policy :: behind
      ∧ (∀ other ∈ before, other.beginExtent < policy.beginExtent)
      ∧ ∀ other ∈ behind, other.beginExtent ≤ policy.beginExtent

theorem furthestOf_of_mostSpecific? {policies : List Policy}
    (chosen : mostSpecific? policies = some policy) :
    FurthestOf policies policy := by
  induction policies generalizing policy with
  | nil => cases chosen
  | cons first policies inductionHypothesis =>
      rw [mostSpecific?] at chosen
      split at chosen
      · rename_i nobody
        cases chosen
        refine ⟨[], policies, rfl, by simp, ?_⟩
        rw [mostSpecific?_eq_none_iff.1 nobody]
        simp
      · rename_i best isBest
        obtain ⟨before, behind, rfl, shorter, notLonger⟩ :=
          inductionHypothesis isBest
        split at chosen
        · rename_i further
          cases chosen
          refine ⟨first :: before, behind, rfl, ?_, notLonger⟩
          exact List.forall_mem_cons.2 ⟨further, shorter⟩
        · rename_i notFurther
          cases chosen
          refine ⟨[], _, rfl, by simp, ?_⟩
          intro other member
          obtain isBefore | isBehind := List.mem_append.1 member
          · exact ((shorter other isBefore).trans_le
              (Nat.not_lt.1 notFurther)).le
          · obtain rfl | isBehind := List.mem_cons.1 isBehind
            · exact Nat.not_lt.1 notFurther
            · exact (notLonger other isBehind).trans (Nat.not_lt.1 notFurther)

/-- A policy owns the front of a stream: it begins there, and of the other
policies that do, none reaches further, nor as far and is registered earlier. -/
structure Owns (registry : Registry) (policy : Policy) (stream : Bytes) :
    Prop where
  begins : policy.Begins stream
  mostSpecific : ∃ before behind,
    registry.policies = before ++ policy :: behind
      ∧ (∀ other ∈ before, other.Begins stream ->
        other.beginExtent < policy.beginExtent)
      ∧ ∀ other ∈ behind, other.Begins stream ->
        other.beginExtent ≤ policy.beginExtent

theorem Owns.mem {stream : Bytes} (owns : registry.Owns policy stream) :
    policy ∈ registry.policies := by
  obtain ⟨before, behind, isAll, -⟩ := owns.mostSpecific
  rw [isAll]
  exact List.mem_append_right _ List.mem_cons_self

theorem owns_of_furthestOf_comparing
    (furthest : FurthestOf (registry.comparing .full buffer) policy) :
    registry.Owns policy buffer := by
  obtain ⟨before, behind, isSplit, shorter, notLonger⟩ := furthest
  obtain ⟨earlier, others, isAll, rfl, isOthers⟩ :=
    List.filter_eq_append_iff.1 isSplit
  obtain ⟨between, later, rfl, noneBetween, begins, rfl⟩ :=
    List.filter_eq_cons_iff.1 isOthers
  simp only [List.mem_filter, beq_iff_eq,
    Policy.compareBegin_eq_full_iff_begins]
    at begins shorter notLonger noneBetween
  refine ⟨begins, earlier ++ between, later, ?_, ?_, ?_⟩
  · rw [isAll, List.append_assoc]
  · intro other member otherBegins
    obtain isEarlier | isBetween := List.mem_append.1 member
    · exact shorter other ⟨isEarlier, otherBegins⟩
    · exact absurd otherBegins (noneBetween other isBetween)
  · intro other member otherBegins
    exact notLonger other ⟨member, otherBegins⟩

/-- The policy that was found owns the front of the stream, whatever comes after
the buffer. -/
theorem owns_append_of_choose_found (more : Bytes)
    (owned : registry.choose buffer = .found policy) :
    registry.Owns policy (buffer ++ more) := by
  have settled : ∀ needed, registry.choose buffer ≠ .pending needed := by
    simp [owned]
  have still := (choose_append more settled).trans owned
  apply owns_of_furthestOf_comparing
  exact furthestOf_of_mostSpecific? (mostSpecific?_of_choose_found still)

/-- A front that nobody claims contradicts every policy, whatever comes after
the buffer. -/
theorem contradicted_append_of_nobody (more : Bytes)
    (unclaimed : registry.choose buffer = .nobody)
    (member : policy ∈ registry.policies) :
    policy.Contradicted (buffer ++ more) := by
  rw [← Policy.compareBegin_eq_mismatch_iff_contradicted]
  apply Policy.compareBegin_append_of_mismatch
  exact mismatch_of_nobody unclaimed member

end Registry
end PlcLink
