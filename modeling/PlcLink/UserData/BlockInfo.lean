import PlcLink.Calendar.BlockStamp
import PlcLink.Error

/-!
# Descriptions of blocks

A block's description has at least seventy bytes at fixed places.
-/

namespace PlcLink

/-- The description of a block. -/
structure BlockInfo where
  flags : UInt8
  language : UInt8
  subBlockType : UInt8
  number : UInt16
  /-- Size in load memory. -/
  loadSize : UInt32
  codeStamp? : Option DateTime
  interfaceStamp? : Option DateTime
  sbbLength : UInt16
  addLength : UInt16
  localData : UInt16
  mc7Size : UInt16
  author : Bytes
  family : Bytes
  header : Bytes
  version : UInt8
  checksum : UInt16
  deriving DecidableEq

namespace BlockInfo

/-- Number of bytes a description has at least. -/
def minLength : Nat := 70

/-- The byte at a place. -/
def byteAt (data : Bytes) (place : Nat) : UInt8 :=
  data.getD place 0

/-- The word at a place. -/
def wordAt (data : Bytes) (place : Nat) : UInt16 :=
  Word.ofBytes16 (byteAt data place) (byteAt data (place + 1))

/-- Read a description; bytes after the seventieth are ignored. -/
def parse (data : Bytes) : Except Error BlockInfo :=
  if data.length < minLength then
    .error (.insufficientData minLength data.length)
  else
    .ok
      { flags := byteAt data 9
        language := byteAt data 10
        subBlockType := byteAt data 11
        number := wordAt data 12
        loadSize :=
          Word.ofBytes32 (byteAt data 14) (byteAt data 15) (byteAt data 16)
            (byteAt data 17)
        codeStamp? := BlockStamp.decode? (data.drop 22)
        interfaceStamp? := BlockStamp.decode? (data.drop 28)
        sbbLength := wordAt data 34
        addLength := wordAt data 36
        localData := wordAt data 38
        mc7Size := wordAt data 40
        author := (data.drop 42).take 8
        family := (data.drop 50).take 8
        header := (data.drop 58).take 8
        version := byteAt data 66
        checksum := wordAt data 68 }

end BlockInfo
end PlcLink
