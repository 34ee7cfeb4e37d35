/-!
# Byte strings and big-endian words

Everything on the wire is a list of bytes. Words travel with their most
significant byte first; reading a written word gives it back.
-/

namespace PlcLink

/-- A string of bytes. -/
abbrev Bytes := List UInt8

namespace Word

/-- Join two bytes into a word, the high byte first. -/
def ofBytes16 (high low : UInt8) : UInt16 :=
  UInt16.ofNat (high.toNat * 256 + low.toNat)

/-- Join four bytes into a word, the highest byte first. -/
def ofBytes32 (first second third fourth : UInt8) : UInt32 :=
  UInt32.ofNat
    (((first.toNat * 256 + second.toNat) * 256 + third.toNat) * 256
      + fourth.toNat)

/-- The high byte of a 16-bit word. -/
def high (word : UInt16) : UInt8 :=
  UInt8.ofNat (word.toNat / 256)

/-- The low byte of a 16-bit word. -/
def low (word : UInt16) : UInt8 :=
  UInt8.ofNat (word.toNat % 256)

/-- Write a 16-bit word, the high byte first. -/
def bytes16 (word : UInt16) : Bytes :=
  [high word, low word]

/-- Write a 32-bit word, the highest byte first. -/
def bytes32 (word : UInt32) : Bytes :=
  [UInt8.ofNat (word.toNat / 16777216),
    UInt8.ofNat (word.toNat / 65536 % 256),
    UInt8.ofNat (word.toNat / 256 % 256),
    UInt8.ofNat (word.toNat % 256)]

@[simp] theorem length_bytes16 (word : UInt16) :
    (bytes16 word).length = 2 := rfl

@[simp] theorem length_bytes32 (word : UInt32) :
    (bytes32 word).length = 4 := rfl

@[simp] theorem ofBytes16_high_low (word : UInt16) :
    ofBytes16 (high word) (low word) = word := by
  have bound := word.toNat_lt
  apply UInt16.toNat.inj
  simp only [ofBytes16, high, low, UInt16.toNat_ofNat', UInt8.toNat_ofNat']
  omega

@[simp] theorem high_ofBytes16 (first second : UInt8) :
    high (ofBytes16 first second) = first := by
  have firstBound := first.toNat_lt
  have secondBound := second.toNat_lt
  apply UInt8.toNat.inj
  simp only [ofBytes16, high, UInt16.toNat_ofNat', UInt8.toNat_ofNat']
  omega

@[simp] theorem low_ofBytes16 (first second : UInt8) :
    low (ofBytes16 first second) = second := by
  have firstBound := first.toNat_lt
  have secondBound := second.toNat_lt
  apply UInt8.toNat.inj
  simp only [ofBytes16, low, UInt16.toNat_ofNat', UInt8.toNat_ofNat']
  omega

@[simp] theorem bytes16_ofBytes16 (first second : UInt8) :
    bytes16 (ofBytes16 first second) = [first, second] := by
  rw [bytes16, high_ofBytes16, low_ofBytes16]

end Word

end PlcLink
