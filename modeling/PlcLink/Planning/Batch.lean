import PlcLink.Planning.Piece

/-!
# Packing pieces into batches

A batch is a list of pieces that one job asks for. Pieces are packed in order;
one that would make the request or its reply too long begins the next batch. A
piece that fits no batch still gets one of its own. While the pieces are packed,
the slot of each one is noted.
-/

namespace PlcLink

/-- What limits a batch. -/
structure BatchLimits where
  /-- The largest PDU, header included. -/
  pduSize : UInt16
  maxItems : Nat
  deriving DecidableEq, Repr

namespace BatchLimits

/-- Items of a batch unless another number is given. -/
def defaultMaxItems : Nat := 20

/-- The limits of a PDU size and a number of items, which is at least one. -/
def ofPduSize (pduSize : UInt16) (maxItems : Nat) : BatchLimits :=
  { pduSize, maxItems := max maxItems 1 }

/-- The most data one item of a read reply can carry. -/
def readChunk (limits : BatchLimits) : Nat :=
  limits.pduSize.toNat - 18

/-- The most data one item of a write request can carry. -/
def writeChunk (limits : BatchLimits) : Nat :=
  limits.pduSize.toNat - 28

end BatchLimits

/-- The size of a batch so far. -/
structure BatchSize where
  items : Nat
  /-- Bytes of the request PDU. -/
  request : Nat
  /-- Bytes of the reply PDU. -/
  reply : Nat
  /-- Whether the last item has an odd length. -/
  lastOdd : Bool
  deriving DecidableEq, Repr

namespace BatchSize

/-- The size of an empty batch. -/
def empty : BatchSize :=
  { items := 0, request := 12, reply := 14, lastOdd := false }

/-- Fill bytes that one more item makes necessary. -/
def fill (size : BatchSize) : Nat :=
  if size.lastOdd then 1 else 0

/-- Whether a piece to read still fits. -/
def fitsRead (limits : BatchLimits) (size : BatchSize) (piece : VarSpec) :
    Bool :=
  size.items < limits.maxItems
    && size.request + VarSpec.wireLength ≤ limits.pduSize.toNat
    && size.reply + size.fill + DataItem.headerLength + piece.byteLength
      ≤ limits.pduSize.toNat

/-- The size with one more piece to read. -/
def addRead (size : BatchSize) (piece : VarSpec) : BatchSize :=
  { items := size.items + 1
    request := size.request + VarSpec.wireLength
    reply :=
      size.reply + size.fill + DataItem.headerLength + piece.byteLength
    lastOdd := piece.byteLength % 2 == 1 }

/-- Bytes a piece to write adds to the request. -/
def writeGrowth (size : BatchSize) (piece : WriteItem) : Nat :=
  VarSpec.wireLength + size.fill + DataItem.headerLength
    + piece.spec.byteLength

/-- Whether a piece to write still fits. -/
def fitsWrite (limits : BatchLimits) (size : BatchSize) (piece : WriteItem) :
    Bool :=
  size.items < limits.maxItems
    && size.request + size.writeGrowth piece ≤ limits.pduSize.toNat
    && size.reply < limits.pduSize.toNat

/-- The size with one more piece to write. -/
def addWrite (size : BatchSize) (piece : WriteItem) : BatchSize :=
  { items := size.items + 1
    request := size.request + size.writeGrowth piece
    reply := size.reply + 1
    lastOdd := piece.spec.byteLength % 2 == 1 }

end BatchSize

/-- Pack pieces behind the batch begun, whose size is known. -/
def packBehind
    (fits : BatchSize -> piece -> Bool)
    (add : BatchSize -> piece -> BatchSize)
    (begun : List piece) (size : BatchSize) :
    List piece -> List (List piece)
  | [] => if begun.isEmpty then [] else [begun]
  | next :: others =>
      if begun.isEmpty || fits size next then
        packBehind fits add (begun ++ [next]) (add size next) others
      else
        begun :: packBehind fits add [next] (add .empty next) others

/-- A place in a list of batches. -/
structure Slot where
  batch : Nat
  /-- Number of pieces in front of it in its batch. -/
  index : Nat
  deriving DecidableEq, Repr

namespace Slot

/-- The first slot of all. -/
def first : Slot :=
  { batch := 0, index := 0 }

/-- The slot behind another one in the same batch. -/
def next (slot : Slot) : Slot :=
  { slot with index := slot.index + 1 }

/-- The first slot of the batch behind that of another one. -/
def nextBatch (slot : Slot) : Slot :=
  { batch := slot.batch + 1, index := 0 }

/-- What stands in a slot, if there is such a slot. -/
def find? (slot : Slot) (batches : List (List value)) : Option value :=
  batches[slot.batch]?.bind fun batch => batch[slot.index]?

end Slot

/-- Note the slots of pieces that are packed from a free slot on, in a batch
whose size is known. -/
def slotsBehind
    (fits : BatchSize -> piece -> Bool)
    (add : BatchSize -> piece -> BatchSize)
    (free : Slot) (size : BatchSize) :
    List piece -> List Slot
  | [] => []
  | next :: others =>
      if free.index == 0 || fits size next then
        free :: slotsBehind fits add free.next (add size next) others
      else
        free.nextBatch
          :: slotsBehind fits add free.nextBatch.next (add .empty next) others

/-- Pack pieces to read. -/
def packReads (limits : BatchLimits) (pieces : List VarSpec) :
    List (List VarSpec) :=
  packBehind (BatchSize.fitsRead limits) BatchSize.addRead [] .empty pieces

/-- Pack pieces to write. -/
def packWrites (limits : BatchLimits) (pieces : List WriteItem) :
    List (List WriteItem) :=
  packBehind (BatchSize.fitsWrite limits) BatchSize.addWrite [] .empty pieces

/-- The slots of packed pieces to read. -/
def readSlots (limits : BatchLimits) (pieces : List VarSpec) : List Slot :=
  slotsBehind (BatchSize.fitsRead limits) BatchSize.addRead .first .empty
    pieces

/-- The slots of packed pieces to write. -/
def writeSlots (limits : BatchLimits) (pieces : List WriteItem) : List Slot :=
  slotsBehind (BatchSize.fitsWrite limits) BatchSize.addWrite .first .empty
    pieces

/-- Packing loses nothing and keeps the order. -/
theorem flatten_packBehind
    (fits : BatchSize -> piece -> Bool)
    (add : BatchSize -> piece -> BatchSize)
    (begun : List piece) (size : BatchSize) (others : List piece) :
    (packBehind fits add begun size others).flatten = begun ++ others := by
  induction others generalizing begun size with
  | nil => cases begun <;> simp [packBehind]
  | cons next others step =>
      simp only [packBehind]
      split <;> simp [step]

end PlcLink
