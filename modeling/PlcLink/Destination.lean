import PlcLink.Bytes

/-!
# Where encoders write

A destination holds what was written to it. It may grow with its content, or
have room for so many more bytes and no others.
-/

namespace PlcLink

/-- What an encoder writes to. -/
structure Destination where
  content : Bytes
  /-- How many more bytes there is room for; a destination that grows has no
  bound. -/
  room? : Option Nat
  deriving DecidableEq, Repr

namespace Destination

/-- A destination that grows with its content. -/
def growing (content : Bytes) : Destination :=
  { content, room? := none }

/-- Whether there is room for so many more bytes. -/
def takes (destination : Destination) (count : Nat) : Bool :=
  destination.room?.all fun room => count ≤ room

/-- The destination with bytes behind its content. -/
def extend (destination : Destination) (bytes : Bytes) : Destination :=
  { content := destination.content ++ bytes
    room? := destination.room?.map fun room => room - bytes.length }

@[simp] theorem takes_zero (destination : Destination) :
    destination.takes 0 = true := by
  obtain ⟨content, room?⟩ := destination
  cases room? with
  | none => rfl
  | some room => exact decide_eq_true (Nat.zero_le room)

@[simp] theorem extend_nil (destination : Destination) :
    destination.extend [] = destination := by
  obtain ⟨content, room?⟩ := destination
  cases room? <;> simp [extend]

/-- There is room for two strings if there is for the first, and then for the
second. -/
theorem takes_add (destination : Destination) (first : Bytes) (count : Nat) :
    destination.takes (first.length + count)
      = (destination.takes first.length
        && (destination.extend first).takes count) := by
  obtain ⟨content, room?⟩ := destination
  cases room? with
  | none => rfl
  | some room =>
      simp only [takes, extend, Option.all_some, Option.map_some,
        ← Bool.decide_and, decide_eq_decide]
      omega

theorem extend_append (destination : Destination) (first second : Bytes) :
    destination.extend (first ++ second)
      = (destination.extend first).extend second := by
  obtain ⟨content, room?⟩ := destination
  cases room? <;> simp [extend, Nat.sub_sub]

end Destination
end PlcLink
