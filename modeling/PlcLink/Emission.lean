import PlcLink.Destination
import PlcLink.Error

/-!
# What an encoder appends

An encoder appends bytes to its destination and may stop with an error on the
way. Its effect does not depend on the destination, so it is a value: the bytes
appended, and the error that stopped it, if any. Only where a destination has no
room left is the encoder broken off.
-/

namespace PlcLink

/-- The effect of an encoder on whatever it writes to. -/
structure Emission where
  /-- The bytes appended. -/
  written : Bytes
  /-- The error that stopped the encoder. -/
  failure : Option Error
  deriving DecidableEq, Repr

namespace Emission

/-- Append the given bytes. -/
def bytes (written : Bytes) : Emission :=
  { written, failure := none }

/-- Stop without appending anything. -/
def fail (error : Error) : Emission :=
  { written := [], failure := some error }

/-- Append by the first encoder and, unless it stopped, by the second. -/
def append (first second : Emission) : Emission :=
  match first.failure with
  | some _ => first
  | none =>
      { written := first.written ++ second.written
        failure := second.failure }

instance : Append Emission where
  append := append

/-- Append by each encoder in turn until one stops. -/
def concat : List Emission -> Emission
  | [] => bytes []
  | first :: rest => first ++ concat rest

/-- The destination after the encoder ran. -/
def appendTo (emission : Emission) (destination : Bytes) : Bytes :=
  destination ++ emission.written

/-- The bytes of an encoder that ran to its end. -/
def result (emission : Emission) : Except Error Bytes :=
  match emission.failure with
  | some error => .error error
  | none => .ok emission.written

/-- Run an encoder on a destination. It returns whether it succeeded, and the
destination; where there is no room for all that it appends it is broken off
and does not return. -/
def runOn? (emission : Emission) (destination : Destination) :
    Option (Except Error Unit × Destination) :=
  if destination.takes emission.written.length then
    some
      (emission.result.map fun _ => (), destination.extend emission.written)
  else
    none

@[simp] theorem bytes_append_bytes (first second : Bytes) :
    bytes first ++ bytes second = bytes (first ++ second) := rfl

@[simp] theorem fail_append (error : Error) (second : Emission) :
    fail error ++ second = fail error := rfl

@[simp] theorem bytes_append_fail (first : Bytes) (error : Error) :
    bytes first ++ fail error =
      { written := first, failure := some error } := by
  show append (bytes first) (fail error) = _
  simp [append, bytes, fail]

@[simp] theorem result_bytes (written : Bytes) :
    (bytes written).result = .ok written := rfl

@[simp] theorem result_fail (error : Error) :
    (fail error).result = .error error := rfl

theorem runOn?_bytes (written : Bytes) (destination : Destination) :
    (bytes written).runOn? destination
      = if destination.takes written.length then
          some (.ok (), destination.extend written)
        else
          none := rfl

theorem runOn?_fail (error : Error) (destination : Destination) :
    (fail error).runOn? destination = some (.error error, destination) := by
  simp only [runOn?, fail, List.length_nil, Destination.takes_zero,
    Destination.extend_nil, if_true]
  rfl

/-- The second of two encoders runs on what the first has left, unless that
stopped. -/
theorem runOn?_append (first second : Emission) (destination : Destination) :
    (first ++ second).runOn? destination
      = (first.runOn? destination).bind fun
        | (.ok (), after) => second.runOn? after
        | stopped => some stopped := by
  obtain ⟨front, firstFailure⟩ := first
  obtain ⟨back, secondFailure⟩ := second
  cases firstFailure with
  | some error =>
      change runOn? { written := front, failure := some error } destination = _
      unfold runOn?
      split <;> rfl
  | none =>
      change runOn? { written := front ++ back, failure := secondFailure }
        destination = _
      simp only [runOn?, List.length_append, Destination.takes_add,
        Destination.extend_append]
      cases destination.takes front.length with
      | false => rfl
      | true => cases secondFailure <;> rfl

end Emission
end PlcLink
