import PlcLink.Variable.VarSpec

/-!
# Data items

A data item is a return code, a variable type, a length and the data. In a list
every item of odd length but the last is followed by one fill byte.
-/

namespace PlcLink

/-- One item of a read reply or of a write request. -/
structure DataItem where
  returnCode : ReturnCode
  variableType : VariableType
  data : Bytes
  deriving DecidableEq, Repr

namespace DataItem

/-- Number of bytes in front of the data. -/
def headerLength : Nat := 4

/-- An item that carries only a return code. -/
def failed (returnCode : ReturnCode) : DataItem :=
  { returnCode, variableType := .null, data := [] }

/-- An item that carries data. -/
def succeeded (variableType : VariableType) (data : Bytes) : DataItem :=
  { returnCode := .success, variableType, data }

/-- Number of fill bytes behind an item. -/
def fill (item : DataItem) (isLast : Bool) : Nat :=
  if !isLast && item.data.length % 2 == 1 then 1 else 0

/-- The length as the item counts it. -/
def countedLength (item : DataItem) : Nat :=
  if item.variableType.lengthInBits then item.data.length * 8
  else item.data.length

/-- Number of bytes of the wire form, fill byte included. -/
def encodedLength (item : DataItem) (isLast : Bool) : Nat :=
  headerLength + item.data.length + item.fill isLast

/-- Write an item. -/
def emit (item : DataItem) (isLast : Bool) : Emission :=
  if item.countedLength < 65536 then
    .bytes
      ([item.returnCode.toByte, item.variableType.toByte]
        ++ Word.bytes16 (UInt16.ofNat item.countedLength)
        ++ item.data ++ List.replicate (item.fill isLast) 0)
  else
    .fail (.encode .itemTooLong)

/-- Bytes of data behind a counted length; a begun byte is a whole one. -/
def byteLength (variableType : VariableType) (counted : UInt16) : Nat :=
  if variableType.lengthInBits then (counted.toNat + 7) / 8
  else counted.toNat

/-- Read an item and hand out what follows it and its fill byte. -/
def parse (isLast : Bool) : Bytes -> Except Error (DataItem × Bytes)
  | code :: typeByte :: high :: low :: rest =>
      match VariableType.ofByte? typeByte with
      | none => .error (.decode .variableType)
      | some variableType =>
          let length := byteLength variableType (Word.ofBytes16 high low)
          if rest.length < length then
            .error (.insufficientData length rest.length)
          else
            let item : DataItem :=
              { returnCode := .ofByte code
                variableType
                data := rest.take length }
            let rest := rest.drop length
            if item.fill isLast = 0 then
              .ok (item, rest)
            else
              match rest with
              | [] => .error (.protocolViolation .missingFillByte)
              | _ :: rest => .ok (item, rest)
  | _ => .error .invalidFrame

/-- Read a list of exactly `count` items and hand out what follows it. -/
def parseMany : Nat -> Bytes -> Except Error (List DataItem × Bytes)
  | 0, input => .ok ([], input)
  | count + 1, input => do
      let (item, rest) <- parse (count == 0) input
      let (items, rest) <- parseMany count rest
      return (item :: items, rest)

/-- Read a list of exactly `count` items that fills the input. -/
def parseAll (count : Nat) (input : Bytes) : Except Error (List DataItem) := do
  let (items, rest) <- parseMany count input
  if rest = [] then
    return items
  else
    .error (.protocolViolation .trailingItems)

/-- Write a list of items. -/
def emitMany : List DataItem -> Emission
  | [] => .bytes []
  | item :: items => item.emit items.isEmpty ++ emitMany items

/-- Number of bytes of the wire form of a list of items. -/
def encodedLengthMany : List DataItem -> Nat
  | [] => 0
  | item :: items => item.encodedLength items.isEmpty + encodedLengthMany items

end DataItem

/-- What to write and where. -/
structure WriteItem where
  spec : VarSpec
  data : Bytes
  deriving DecidableEq, Repr

namespace WriteItem

/-- Write bytes from a byte address on. The count stops at its largest
value. -/
def ofBytes
    (area : Area)
    (blockNumber : UInt16)
    (byteAddress : UInt32)
    (data : Bytes) : WriteItem :=
  { spec :=
      .elements area blockNumber byteAddress .byte
        (UInt16.ofNat (min data.length 65535))
    data }

/-- The data item that carries what to write. -/
def toDataItem (item : WriteItem) : DataItem :=
  { returnCode := .reserved
    variableType := item.spec.transportSize.variableType
    data := item.data }

end WriteItem
end PlcLink
