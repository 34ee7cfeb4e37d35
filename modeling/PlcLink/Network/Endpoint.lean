import PlcLink.Text.Hex

/-!
# Network addresses

An endpoint is an address of four bytes or of eight words, with a port.
Addresses of eight words are written in hexadecimal; of their runs of two or
more zeros the first longest one is left out.
-/

namespace PlcLink

/-- A network address. -/
inductive Address
  | v4 (first second third fourth : UInt8)
  | v6 (words : Vector UInt16 8)
  deriving DecidableEq, Repr

/-- An address and a port. -/
structure Endpoint where
  address : Address
  port : UInt16
  deriving DecidableEq, Repr

namespace Address

/-- The value of a digit, if it is one of the base. -/
def digit? (base : Nat) (char : Char) : Option Nat :=
  (Hex.value? char).filter fun value => value < base

/-- The number written with the given digits, of which there is at least
one. -/
def number? (base : Nat) (text : String) : Option Nat :=
  if text.isEmpty then none
  else do
    let digits <- text.toList.mapM (digit? base)
    return digits.foldl (fun value digit => value * base + digit) 0

/-- A byte in decimal digits without leading zeros. -/
def octet? (text : String) : Option UInt8 := do
  let value <- number? 10 text
  if value < 256 ∧ toString value = text then
    return UInt8.ofNat value
  else
    none

/-- A word in one to four hexadecimal digits. -/
def word? (text : String) : Option UInt16 := do
  let value <- number? 16 text
  if text.length ≤ 4 then return UInt16.ofNat value else none

/-- Read four bytes between points. -/
def parseV4? (text : String) : Option Address :=
  match text.splitOn "." with
  | [first, second, third, fourth] => do
      return .v4 (<- octet? first) (<- octet? second) (<- octet? third)
        (<- octet? fourth)
  | _ => none

/-- Read words between colons. The last two may be written as four bytes where
that is allowed. -/
def words? (mayEndInBytes : Bool) : List String -> Option (List UInt16)
  | [] => some []
  | [last] =>
      match word? last with
      | some word => some [word]
      | none =>
          match parseV4? last with
          | some (.v4 first second third fourth) =>
              if mayEndInBytes then
                some
                  [Word.ofBytes16 first second, Word.ofBytes16 third fourth]
              else
                none
          | _ => none
  | first :: rest => do
      let word <- word? first
      let words <- words? mayEndInBytes rest
      return word :: words

/-- The words of one side of a gap; the empty text has none. -/
def side? (mayEndInBytes : Bool) (text : String) : Option (List UInt16) :=
  if text.isEmpty then some []
  else words? mayEndInBytes (text.splitOn ":")

/-- The address of eight words. -/
def ofWords? (words : List UInt16) : Option Address :=
  if eight : words.length = 8 then
    some (.v6 ⟨words.toArray, by simp [eight]⟩)
  else
    none

/-- Read eight words, with one gap for one or more zeros. -/
def parseV6? (text : String) : Option Address :=
  match text.splitOn "::" with
  | [whole] => do ofWords? (<- side? true whole)
  | [before, after] => do
      let before <- side? false before
      let after <- side? true after
      let present := before.length + after.length
      if present < 8 then
        ofWords? (before ++ List.replicate (8 - present) 0 ++ after)
      else
        none
  | _ => none

/-- Write a word in hexadecimal without leading zeros. -/
def wordText (word : UInt16) : String :=
  String.ofList (Nat.toDigits 16 word.toNat)

/-- Write words with colons between them. -/
def wordsText (words : List UInt16) : String :=
  ":".intercalate (words.map wordText)

/-- Number of zeros at the front. -/
def zeros : List UInt16 -> Nat
  | [] => 0
  | word :: words => if word = 0 then zeros words + 1 else 0

/-- Beginning and length of the first longest run of zeros. -/
def longestZeros (words : List UInt16) : Nat × Nat :=
  (List.range words.length).foldl
    (fun longest start =>
      let length := zeros (words.drop start)
      if longest.2 < length then (start, length) else longest)
    (0, 0)

/-- Write an address of eight words. One that stands for four bytes ends in
them. -/
def v6Text (words : List UInt16) : String :=
  match words with
  | [0, 0, 0, 0, 0, 0xFFFF, high, low] =>
      "::ffff:" ++ ".".intercalate
        ((Word.bytes16 high ++ Word.bytes16 low).map
          fun byte => toString byte.toNat)
  | _ =>
      let (start, length) := longestZeros words
      if 1 < length then
        wordsText (words.take start) ++ "::"
          ++ wordsText (words.drop (start + length))
      else
        wordsText words

/-- Whether an address has four bytes. -/
def isV4 : Address -> Bool
  | v4 _ _ _ _ => true
  | v6 _ => false

end Address

namespace Endpoint

/-- Read a port. -/
def port? (text : String) : Option UInt16 := do
  let value <- Address.number? 10 text
  if value < 65536 then return UInt16.ofNat value else none

/-- Read an address and a port with a colon between them; an address of eight
words stands in brackets. -/
def parse? (text : String) : Option Endpoint :=
  match text.splitOn "]:" with
  | [bracketed, port] =>
      match bracketed.toList with
      | '[' :: address => do
          return {
            address := <- Address.parseV6? (String.ofList address)
            port := <- port? port }
      | _ => none
  | _ =>
      match text.splitOn ":" with
      | [address, port] => do
          return {
            address := <- Address.parseV4? address
            port := <- port? port }
      | _ => none

/-- Write an address and a port. -/
def text (endpoint : Endpoint) : String :=
  match endpoint.address with
  | .v4 first second third fourth =>
      ".".intercalate
        ([first, second, third, fourth].map fun byte => toString byte.toNat)
        ++ ":" ++ toString endpoint.port.toNat
  | .v6 words =>
      "[" ++ Address.v6Text words.toList ++ "]:"
        ++ toString endpoint.port.toNat

end Endpoint
end PlcLink
