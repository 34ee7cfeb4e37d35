import PlcLink.Emission
import PlcLink.Guarded
import PlcLink.Variable.Area
import PlcLink.Variable.TransportSize

/-!
# Addresses of variables

A variable is a run of elements in a memory area. Its wire form has twelve
bytes: three that never change, the transport size, the count, the block
number, the area, and the address in bits, 21 bits of byte address before three
bits of bit index.
-/

namespace PlcLink

/-- The address of a variable. -/
structure VarSpec where
  area : Area
  /-- Number of the data block, for areas that have them. -/
  blockNumber : UInt16
  byteAddress : UInt32
  transportSize : TransportSize
  /-- Number of elements. -/
  count : UInt16
  bitIndex : UInt8
  deriving DecidableEq, Repr

namespace VarSpec

/-- Number of bytes of the wire form. -/
def wireLength : Nat := 12

/-- The largest byte address with a wire form. -/
def maxByteAddress : UInt32 := 0x1FFFFF

/-- A run of elements that begins at a byte. The block number is dropped where
the area has none. -/
def elements
    (area : Area)
    (blockNumber : UInt16)
    (byteAddress : UInt32)
    (transportSize : TransportSize)
    (count : UInt16) : VarSpec :=
  { area
    blockNumber := if area.usesBlockNumber then blockNumber else 0
    byteAddress
    transportSize
    count
    bitIndex := 0 }

/-- A single bit. Its index keeps its low three bits. -/
def singleBit
    (area : Area)
    (blockNumber : UInt16)
    (byteAddress : UInt32)
    (bitIndex : UInt8) : VarSpec :=
  { elements area blockNumber byteAddress .bit 1 with
    bitIndex := UInt8.ofNat (bitIndex.toNat % 8) }

/-- Bytes of one element. -/
def elementBytes (spec : VarSpec) : Nat :=
  spec.transportSize.elementBytes

/-- Bytes of the whole variable. -/
def byteLength (spec : VarSpec) : Nat :=
  spec.count.toNat * spec.elementBytes

/-- The run of `count` elements that begins `skip` elements further on. What is
skipped is cut down to a word; a sum that is no word is a fault. -/
def subRange (spec : VarSpec) (skip : Nat) (count : UInt16) :
    Guarded VarSpec := do
  let skipped <- Guarded.mul UInt64.size skip spec.elementBytes
  let address <-
    Guarded.add UInt32.size spec.byteAddress.toNat (skipped % UInt32.size)
  return { spec with byteAddress := UInt32.ofNat address, count }

/-- The address in bits. -/
def addressBits (spec : VarSpec) : Nat :=
  spec.byteAddress.toNat % 2097152 * 8 + spec.bitIndex.toNat % 8

/-- Number of bytes of the wire form. -/
def encodedLength (_ : VarSpec) : Nat := wireLength

/-- Write an address. -/
def emit (spec : VarSpec) : Emission :=
  if maxByteAddress < spec.byteAddress then
    .fail (.encode .addressTooLarge)
  else
    .bytes
      ([0x12, 0x0A, 0x10, spec.transportSize.toByte]
        ++ Word.bytes16 spec.count
        ++ Word.bytes16 spec.blockNumber
        ++ [spec.area.toByte,
          UInt8.ofNat (spec.addressBits / 65536),
          UInt8.ofNat (spec.addressBits / 256 % 256),
          UInt8.ofNat (spec.addressBits % 256)])

/-- Read an address and hand out what follows it. -/
def parse : Bytes -> Except Error (VarSpec × Bytes)
  | item :: length :: form :: rest =>
      if item ≠ 0x12 ∨ length ≠ 0x0A ∨ form ≠ 0x10 then
        .error (.protocolViolation .varSpecForm)
      else
        match rest with
        | size :: countHigh :: countLow :: blockHigh :: blockLow ::
            areaByte :: first :: second :: third :: rest =>
            match TransportSize.ofByte? size, Area.ofByte? areaByte with
            | some transportSize, some area =>
                let bits :=
                  (first.toNat * 256 + second.toNat) * 256 + third.toNat
                .ok
                  ({ area
                     blockNumber := Word.ofBytes16 blockHigh blockLow
                     byteAddress := UInt32.ofNat (bits / 8)
                     transportSize
                     count := Word.ofBytes16 countHigh countLow
                     bitIndex := UInt8.ofNat (bits % 8) }, rest)
            | _, _ => .error .invalidFrame
        | _ => .error .invalidFrame
  | _ => .error .invalidFrame

/-- Read exactly `count` addresses and hand out what follows them. -/
def parseMany : Nat -> Bytes -> Except Error (List VarSpec × Bytes)
  | 0, input => .ok ([], input)
  | count + 1, input => do
      let (spec, rest) <- parse input
      let (specs, rest) <- parseMany count rest
      return (spec :: specs, rest)

/-- Write addresses one after the other. -/
def emitMany (specs : List VarSpec) : Emission :=
  .concat (specs.map emit)

end VarSpec
end PlcLink
