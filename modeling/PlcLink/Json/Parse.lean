import PlcLink.Json.Token

/-!
# Values of JSON texts

Tokens are read one after the other. The arrays and objects that are still open
are kept on a stack, the innermost first.
-/

namespace PlcLink

/-- An array or object that is still open, its contents in reverse. -/
inductive JsonFrame
  | array (items : List JsonTree)
  | object (members : List (Option String × JsonTree)) (key? : Option String)

/-- What may come next. -/
inductive JsonExpectation
  | value
  /-- A value, or the end of the array just opened. -/
  | firstItem
  | key
  /-- A key, or the end of the object just opened. -/
  | firstKey
  | colon
  /-- A comma, or the end of the innermost array or object. -/
  | more
  /-- Nothing, for the value is whole. -/
  | finished (tree : JsonTree)

/-- A reader between two tokens. -/
structure JsonReader where
  expectation : JsonExpectation
  frames : List JsonFrame

namespace JsonReader

/-- A reader before the first token. -/
def start : JsonReader :=
  { expectation := .value, frames := [] }

/-- Put a whole value where it belongs. -/
def place (tree : JsonTree) : List JsonFrame -> JsonReader
  | [] => { expectation := .finished tree, frames := [] }
  | .array items :: frames =>
      { expectation := .more, frames := .array (tree :: items) :: frames }
  | .object members key? :: frames =>
      { expectation := .more
        frames := .object ((key?, tree) :: members) none :: frames }

/-- Read a token where a value is to begin. -/
def readValue? (frames : List JsonFrame) : JsonToken -> Option JsonReader
  | .null => some (place .null frames)
  | .bool value => some (place (.bool value) frames)
  | .number value => some (place (.number value) frames)
  | .text value? => some (place (.text value?) frames)
  | .openArray =>
      some { expectation := .firstItem, frames := .array [] :: frames }
  | .openObject =>
      some { expectation := .firstKey, frames := .object [] none :: frames }
  | _ => none

/-- Close the innermost array or object. -/
def close? : List JsonFrame -> JsonToken -> Option JsonReader
  | .array items :: frames, .closeArray =>
      some (place (.array items.reverse) frames)
  | .object members _ :: frames, .closeObject =>
      some (place (.object members.reverse) frames)
  | _, _ => none

/-- Read a key of the innermost object. -/
def readKey? : List JsonFrame -> JsonToken -> Option JsonReader
  | .object members _ :: frames, .text key? =>
      some { expectation := .colon, frames := .object members key? :: frames }
  | _, _ => none

/-- Read a token behind a value. -/
def readMore? : List JsonFrame -> JsonToken -> Option JsonReader
  | .array items :: frames, .comma =>
      some { expectation := .value, frames := .array items :: frames }
  | .object members key? :: frames, .comma =>
      some { expectation := .key, frames := .object members key? :: frames }
  | frames, token => close? frames token

/-- Read one token. -/
def read? (reader : JsonReader) (token : JsonToken) : Option JsonReader :=
  match reader.expectation with
  | .value => readValue? reader.frames token
  | .firstItem =>
      if token = .closeArray then close? reader.frames token
      else readValue? reader.frames token
  | .key => readKey? reader.frames token
  | .firstKey =>
      if token = .closeObject then close? reader.frames token
      else readKey? reader.frames token
  | .colon =>
      if token = .colon then some { reader with expectation := .value }
      else none
  | .more => readMore? reader.frames token
  | .finished _ => none

end JsonReader

/-- The value of a text that holds exactly one. -/
def JsonTree.ofText? (text : String) : Option JsonTree := do
  let tokens <- JsonToken.ofText? text
  let reader <- tokens.foldlM JsonReader.read? JsonReader.start
  match reader.expectation with
  | .finished tree => some tree
  | _ => none

end PlcLink
