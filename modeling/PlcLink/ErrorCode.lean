import PlcLink.Bytes

/-!
# Error words reported by a controller

A reply carries an error class and an error code, together one word. The word
of a class byte is recovered from the class, so unknown classes keep theirs.
-/

namespace PlcLink

/-- The class byte of a reported error. -/
inductive ErrorClass
  | noError
  | applicationRelationship
  | objectDefinition
  | noResourcesAvailable
  | errorOnServiceProcessing
  | errorOnSupplies
  | accessError
  | unknown (value : UInt8)
  deriving DecidableEq, Repr

namespace ErrorClass

/-- Read a class byte. -/
def ofByte (byte : UInt8) : ErrorClass :=
  match byte.toNat with
  | 0x00 => noError
  | 0x81 => applicationRelationship
  | 0x82 => objectDefinition
  | 0x83 => noResourcesAvailable
  | 0x84 => errorOnServiceProcessing
  | 0x85 => errorOnSupplies
  | 0x87 => accessError
  | _ => unknown byte

/-- The class byte of a class. -/
def toByte : ErrorClass -> UInt8
  | noError => 0x00
  | applicationRelationship => 0x81
  | objectDefinition => 0x82
  | noResourcesAvailable => 0x83
  | errorOnServiceProcessing => 0x84
  | errorOnSupplies => 0x85
  | accessError => 0x87
  | unknown value => value

/-- The name of a class. -/
def name : ErrorClass -> String
  | noError => "NoError"
  | applicationRelationship => "ApplicationRelationship"
  | objectDefinition => "ObjectDefinition"
  | noResourcesAvailable => "NoResourcesAvailable"
  | errorOnServiceProcessing => "ErrorOnServiceProcessing"
  | errorOnSupplies => "ErrorOnSupplies"
  | accessError => "AccessError"
  | unknown value => s!"Unknown({value.toNat})"

end ErrorClass

/-- A reported error: its class and its code within the class. -/
structure ErrorCode where
  errorClass : ErrorClass
  code : UInt8
  deriving DecidableEq, Repr

namespace ErrorCode

/-- The error of a class byte and a code byte. -/
def ofBytes (classByte code : UInt8) : ErrorCode :=
  { errorClass := .ofByte classByte, code }

/-- The code that reports no error. -/
def none : ErrorCode :=
  ofBytes 0 0

/-- The error of a word, its class in the high byte. -/
def ofWord (word : UInt16) : ErrorCode :=
  ofBytes (Word.high word) (Word.low word)

/-- The word of an error, its class in the high byte. -/
def word (error : ErrorCode) : UInt16 :=
  Word.ofBytes16 error.errorClass.toByte error.code

/-- Whether the word reports no error. -/
def isSuccess (error : ErrorCode) : Bool :=
  error.word == 0

/-- What the word means. -/
def describe (error : ErrorCode) : String :=
  match error.word.toNat with
  | 0x0000 => "success"
  | 0x0110 => "invalid block number"
  | 0x0111 => "invalid request length"
  | 0x0112 => "invalid parameter"
  | 0x0113 => "invalid block type"
  | 0x0114 => "block not found"
  | 0x0115 => "block already exists"
  | 0x0116 => "block is write-protected"
  | 0x011C => "protocol error"
  | 0x0140 => "insufficient memory"
  | 0x0141 => "job not processed"
  | 0x8001 => "service not allowed in current block state"
  | 0x8104 => "service not implemented or frame error"
  | 0x8204 => "object type mismatch"
  | 0x8301 => "memory or storage unavailable"
  | 0x8302 => "resources insufficient or CPU busy"
  | 0x8304 => "parallel upload not possible"
  | 0x8305 => "function unavailable"
  | 0x8401 => "invalid service sequence"
  | 0x8500 => "wrong PDU size"
  | 0x8702 => "address invalid"
  | 0xD209 => "block not found"
  | 0xD241 => "function protected by password"
  | 0xD602 => "information function unavailable"
  | _ => "unknown error"

/-- The upper-case hexadecimal digit of a number below sixteen. -/
def hexDigit (value : Nat) : Char :=
  if value < 10 then Char.ofNat (48 + value) else Char.ofNat (55 + value)

/-- Two upper-case hexadecimal digits of a byte. -/
def hexByte (byte : UInt8) : String :=
  String.ofList [hexDigit (byte.toNat / 16), hexDigit (byte.toNat % 16)]

/-- The word in four hexadecimal digits, then its meaning. -/
def text (error : ErrorCode) : String :=
  "0x" ++ hexByte (Word.high error.word) ++ hexByte (Word.low error.word)
    ++ " (" ++ error.describe ++ ")"

end ErrorCode
end PlcLink
