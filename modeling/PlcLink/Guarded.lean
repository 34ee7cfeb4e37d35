import PlcLink.Bytes
import PlcLink.Error

/-!
# Guarded computations

A guarded computation looks at every step that a machine cannot always take: an
index or a slice outside of its bytes, a number its type is too narrow for, a
difference below zero, a loop that outlives its bound. Any of them stops it
with a fault, which is no error it could report.

Where such a step can fail, the guarded computation is the only one: planning
adds to addresses, and framing to places in a buffer. Where none can, a function
does without guards, and may have a guarded form that takes the steps of a
machine one by one; that the two agree says that no step fails.
-/

namespace PlcLink

/-- What a computation must never come to. -/
inductive Fault
  /-- An index or a slice that does not lie within its bytes. -/
  | outOfRange
  /-- A number its type is too narrow for. -/
  | overflow
  /-- A difference below zero. -/
  | underflow
  /-- A loop that goes round more often than it may. -/
  | endless
  deriving DecidableEq, Repr

/-- Why a guarded computation stops. -/
inductive Halt
  /-- It reports an error, as it may. -/
  | refused (error : Error)
  | crashed (fault : Fault)
  deriving DecidableEq, Repr

/-- A computation that stops where a machine would. -/
abbrev Guarded (value : Type) := Except Halt value

namespace Guarded

variable {value result : Type}

/-- Stop with a fault. -/
def crash (fault : Fault) : Guarded value :=
  .error (.crashed fault)

/-- Report an error. -/
def refuse (error : Error) : Guarded value :=
  .error (.refused error)

/-- A computation without steps that could fail. -/
def ofResult : Except Error value -> Guarded value
  | .ok value => .ok value
  | .error error => refuse error

@[simp] theorem ofResult_ok (value : value) :
    ofResult (.ok value) = .ok value := rfl

@[simp] theorem ofResult_pure (value : value) :
    ofResult (pure value) = pure value := rfl

@[simp] theorem ofResult_bind (first : Except Error value)
    (next : value -> Except Error result) :
    ofResult (first >>= next)
      = ofResult first >>= fun value => ofResult (next value) := by
  cases first with
  | error error => rfl
  | ok value => rfl

@[simp] theorem pure_eq_ok (value : value) :
    (pure value : Guarded _) = .ok value := rfl

@[simp] theorem ok_bind (first : value) (next : value -> Guarded result) :
    (.ok first : Guarded value) >>= next = next first := rfl

/-- A computation does not stop with a fault if it agrees with one that has no
steps to fail at. -/
theorem ne_crash_of_eq_ofResult {guarded : Guarded value}
    {plain : Except Error value} (agrees : guarded = ofResult plain)
    (fault : Fault) : guarded ≠ crash fault := by
  rw [agrees]
  cases plain with
  | error error => exact fun same => by cases same
  | ok value => exact fun same => by cases same

/-! ## Bytes -/

/-- The byte at a place. -/
def index (bytes : Bytes) (place : Nat) : Guarded UInt8 :=
  match bytes[place]? with
  | some byte => .ok byte
  | none => crash .outOfRange

/-- The word of the bytes at a place and behind it. -/
def word (bytes : Bytes) (place : Nat) : Guarded UInt16 := do
  return Word.ofBytes16 (<- index bytes place) (<- index bytes (place + 1))

/-- The bytes from one place up to another. -/
def slice (bytes : Bytes) (start stop : Nat) : Guarded Bytes :=
  if start ≤ stop ∧ stop ≤ bytes.length then
    .ok ((bytes.drop start).take (stop - start))
  else
    crash .outOfRange

/-- The bytes from a place on. -/
def after (bytes : Bytes) (start : Nat) : Guarded Bytes :=
  slice bytes start bytes.length

/-- The bytes up to a place. -/
def before (bytes : Bytes) (stop : Nat) : Guarded Bytes :=
  slice bytes 0 stop

theorem index_eq {bytes : Bytes} {place : Nat}
    (within : place < bytes.length) :
    index bytes place = .ok bytes[place] := by
  unfold index
  rw [List.getElem?_eq_getElem within]

theorem index_eq_getD {bytes : Bytes} {place : Nat}
    (within : place < bytes.length) :
    index bytes place = .ok (bytes.getD place 0) := by
  rw [index_eq within, List.getD_eq_getElem?_getD,
    List.getElem?_eq_getElem within, Option.getD_some]

theorem slice_eq {bytes : Bytes} {start stop : Nat} (inOrder : start ≤ stop)
    (within : stop ≤ bytes.length) :
    slice bytes start stop = .ok ((bytes.drop start).take (stop - start)) :=
  if_pos ⟨inOrder, within⟩

theorem after_eq {bytes : Bytes} {start : Nat}
    (within : start ≤ bytes.length) :
    after bytes start = .ok (bytes.drop start) := by
  unfold after
  rw [slice_eq within (Nat.le_refl _), List.take_of_length_le]
  exact Nat.le_of_eq List.length_drop

theorem before_eq {bytes : Bytes} {stop : Nat}
    (within : stop ≤ bytes.length) :
    before bytes stop = .ok (bytes.take stop) := by
  unfold before
  rw [slice_eq (Nat.zero_le _) within, List.drop_zero, Nat.sub_zero]

@[simp] theorem index_cons_zero (byte : UInt8) (bytes : Bytes) :
    index (byte :: bytes) 0 = .ok byte := rfl

@[simp] theorem index_cons_succ (byte : UInt8) (bytes : Bytes)
    (place : Nat) :
    index (byte :: bytes) (place + 1) = index bytes place := rfl

@[simp] theorem word_cons_zero (high low : UInt8) (bytes : Bytes) :
    word (high :: low :: bytes) 0 = .ok (Word.ofBytes16 high low) := rfl

@[simp] theorem word_cons_succ (byte : UInt8) (bytes : Bytes)
    (place : Nat) :
    word (byte :: bytes) (place + 1) = word bytes place := rfl

@[simp] theorem after_zero (bytes : Bytes) : after bytes 0 = .ok bytes :=
  after_eq (Nat.zero_le _)

@[simp] theorem after_cons_succ (byte : UInt8) (bytes : Bytes)
    (start : Nat) :
    after (byte :: bytes) (start + 1) = after bytes start := by
  simp only [after, slice, List.length_cons, Nat.add_le_add_iff_right,
    List.drop_succ_cons, Nat.add_sub_add_right]

/-! ## Numbers -/

/-- A sum, of a type with so many values. -/
def add (values first second : Nat) : Guarded Nat :=
  if first + second < values then .ok (first + second) else crash .overflow

/-- A product, of a type with so many values. -/
def mul (values first second : Nat) : Guarded Nat :=
  if first * second < values then .ok (first * second) else crash .overflow

/-- A difference. -/
def sub (first second : Nat) : Guarded Nat :=
  if second ≤ first then .ok (first - second) else crash .underflow

theorem add_eq {values first second : Nat} (fits : first + second < values) :
    add values first second = .ok (first + second) :=
  if_pos fits

theorem add_eq_crash {values first second : Nat}
    (outgrows : values ≤ first + second) :
    add values first second = crash .overflow :=
  if_neg (Nat.not_lt.2 outgrows)

theorem mul_eq {values first second : Nat} (fits : first * second < values) :
    mul values first second = .ok (first * second) :=
  if_pos fits

theorem sub_eq {first second : Nat} (fits : second ≤ first) :
    sub first second = .ok (first - second) :=
  if_pos fits

end Guarded
end PlcLink
