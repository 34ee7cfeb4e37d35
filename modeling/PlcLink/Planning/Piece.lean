import PlcLink.Error
import PlcLink.Variable.DataItem

/-!
# Cutting variables into pieces

A variable that is too long for one PDU is cut into pieces of whole elements
that follow one another. A bit is never cut. Nobody looks ahead whether all
pieces have addresses: one that has none is a fault.
-/

namespace PlcLink

/-- Cut a run of `left` elements, `skip` elements into the whole, into runs of
at most `size` elements, each given by its own skip and count. A size of zero
cuts nothing. -/
def runs (size skip left : Nat) : List (Nat × Nat) :=
  if size = 0 ∨ left ≤ size then
    [(skip, left)]
  else
    (skip, size) :: runs size (skip + size) (left - size)
termination_by left

namespace VarSpec

/-- The most bytes an item may carry whose length is counted in bits. -/
def maxBitCountedBytes : Nat := 8191

/-- Elements that fit into the given number of data bytes. -/
def elementsWithin (spec : VarSpec) (maxBytes : Nat) : Nat :=
  let limit :=
    if spec.transportSize.variableType.lengthInBits then
      min maxBytes maxBitCountedBytes
    else
      maxBytes
  limit / spec.elementBytes

/-- The pieces of a variable, each of at most `maxBytes` data bytes. -/
def pieces (spec : VarSpec) (maxBytes : Nat) : Guarded (List VarSpec) :=
  if spec.count = 0 then
    Guarded.refuse .invalidParameter
  else if spec.transportSize = .bit then
    if spec.count = 1 then .ok [spec]
    else Guarded.refuse .invalidParameter
  else
    let size := spec.elementsWithin maxBytes
    if size = 0 then
      Guarded.refuse (.invalidConfiguration .pduTooSmallForElement)
    else
      (runs size 0 spec.count.toNat).mapM fun run =>
        spec.subRange run.1 (UInt16.ofNat run.2)

end VarSpec

namespace WriteItem

/-- Give each of the pieces its share of the data, in order. -/
def share : List VarSpec -> Bytes -> List WriteItem
  | [], _ => []
  | piece :: others, data =>
      { spec := piece, data := data.take piece.byteLength }
        :: share others (data.drop piece.byteLength)

/-- The pieces of what to write. The data must cover the variable exactly. -/
def pieces (item : WriteItem) (maxBytes : Nat) :
    Guarded (List WriteItem) :=
  if item.data.length ≠ item.spec.byteLength then
    Guarded.refuse .invalidParameter
  else do
    return share (<- item.spec.pieces maxBytes) item.data

end WriteItem
end PlcLink
