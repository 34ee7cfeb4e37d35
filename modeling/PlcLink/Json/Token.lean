import PlcLink.Json.Tree
import PlcLink.Text.Hex

/-!
# Words of JSON texts

A text is cut into brackets, commas, colons, strings, literals and numbers, one
character after the other.
-/

namespace PlcLink

/-- A word of a JSON text. -/
inductive JsonToken
  | openArray
  | closeArray
  | openObject
  | closeObject
  | comma
  | colon
  | null
  | bool (value : Bool)
  | number (value : JsonNumber)
  | text (value? : Option String)
  deriving DecidableEq, Repr

namespace JsonToken

/-- The value of a decimal digit. -/
def digit? (char : Char) : Option Nat :=
  (Hex.value? char).filter fun value => value < 10

/-- Whether a character is a decimal digit. -/
def isDigit (char : Char) : Bool :=
  (digit? char).isSome

/-- The number of a row of digits. -/
def natural (digits : List Char) : Nat :=
  (digits.filterMap digit?).foldl (fun value digit => value * 10 + digit) 0

/-- Read an exponent: a letter, a sign or none, and digits. -/
def exponent? : List Char -> Option Int
  | [] => some 0
  | letter :: rest =>
      if letter ≠ 'e' ∧ letter ≠ 'E' then
        none
      else
        let (isNegative, digits) :=
          match rest with
          | '-' :: digits => (true, digits)
          | '+' :: digits => (false, digits)
          | digits => (false, digits)
        if digits.isEmpty || !digits.all isDigit then none
        else if isNegative then some (-(natural digits : Int))
        else some (natural digits)

/-- Read an unsigned number. A zero is not followed by digits, and a point is
not the last character. -/
def unsigned? (isNegative : Bool) (word : List Char) : Option JsonNumber := do
  let whole := word.takeWhile isDigit
  let rest := word.dropWhile isDigit
  if whole.isEmpty || (whole.head? == some '0' && whole.length ≠ 1) then
    none
  else
    match rest with
    | '.' :: rest =>
        let fraction := rest.takeWhile isDigit
        if fraction.isEmpty then
          none
        else
          let exponent <- exponent? (rest.dropWhile isDigit)
          return {
            isNegative
            isWhole := false
            digits := natural (whole ++ fraction)
            exponent := exponent - fraction.length }
    | _ =>
        return {
          isNegative
          isWhole := rest.isEmpty
          digits := natural whole
          exponent := <- exponent? rest }

/-- Read a number. -/
def number? : List Char -> Option JsonNumber
  | '-' :: word => unsigned? true word
  | word => unsigned? false word

/-- The token of a literal or a number. -/
def ofWord? (word : List Char) : Option JsonToken :=
  if word = "null".toList then some null
  else if word = "true".toList then some (bool true)
  else if word = "false".toList then some (bool false)
  else (number? word).map number

/-- The token of a bracket, a comma or a colon. -/
def ofMark? : Char -> Option JsonToken
  | '[' => some openArray
  | ']' => some closeArray
  | '\x7b' => some openObject
  | '\x7d' => some closeObject
  | ',' => some comma
  | ':' => some colon
  | _ => none

/-- Whether a character stands between words. -/
def isSpace (char : Char) : Bool :=
  char == ' ' || char == '\n' || char == '\t' || char == '\r'

/-- Whether a character can be part of a literal or a number. -/
def isWordChar (char : Char) : Bool :=
  char.isAlphanum || char == '+' || char == '-' || char == '.'

/-- The character that a single letter after a backslash stands for. -/
def escaped? : Char -> Option Char
  | '"' => some '"'
  | '\\' => some '\\'
  | '/' => some '/'
  | 'b' => some '\x08'
  | 'f' => some '\x0c'
  | 'n' => some '\n'
  | 'r' => some '\r'
  | 't' => some '\t'
  | _ => none

/-- A part of a string: a character, or a code unit by its number. -/
inductive Unit
  | char (value : Char)
  | code (value : Nat)
  deriving DecidableEq, Repr

/-- The characters of a string. A code unit of half a character must be
followed by that of the other half. -/
def characters? : List Unit -> Option (List Char)
  | [] => some []
  | .char value :: rest => (characters? rest).map (value :: ·)
  | .code high :: rest =>
      if high < 0xD800 ∨ 0xDFFF < high then
        (characters? rest).map (Char.ofNat high :: ·)
      else
        match rest with
        | .code low :: rest =>
            if high < 0xDC00 ∧ 0xDC00 ≤ low ∧ low ≤ 0xDFFF then
              (characters? rest).map
                (Char.ofNat
                  (0x10000 + (high - 0xD800) * 1024 + (low - 0xDC00)) :: ·)
            else
              none
        | _ => none

/-- The token of a string's parts, given in reverse. -/
def ofUnits (reversed : List Unit) : JsonToken :=
  .text ((characters? reversed.reverse).map String.ofList)

/-- Where a reader stands in a text. -/
inductive Place
  | betweenWords
  /-- In a literal or a number, whose characters so far are given in
  reverse. -/
  | inWord (reversed : List Char)
  /-- In a string, whose parts so far are given in reverse. -/
  | inText (reversed : List Unit)
  | behindBackslash (reversed : List Unit)
  /-- In a code unit, of which so many digits are missing. -/
  | inCode (reversed : List Unit) (missing value : Nat)
  deriving DecidableEq, Repr

/-- Read a character between words. -/
def startWord? (char : Char) : Option (List JsonToken × Place) :=
  if isSpace char then some ([], .betweenWords)
  else if char = '"' then some ([], .inText [])
  else if isWordChar char then some ([], .inWord [char])
  else (ofMark? char).map fun token => ([token], .betweenWords)

/-- Read one character, and hand out the tokens that end with it. -/
def read? : Place -> Char -> Option (List JsonToken × Place)
  | .betweenWords, char => startWord? char
  | .inWord reversed, char =>
      if isWordChar char then
        some ([], .inWord (char :: reversed))
      else do
        let token <- ofWord? reversed.reverse
        let (tokens, place) <- startWord? char
        return (token :: tokens, place)
  | .inText reversed, char =>
      if char = '"' then some ([ofUnits reversed], .betweenWords)
      else if char = '\\' then some ([], .behindBackslash reversed)
      else if char.toNat < 32 then none
      else some ([], .inText (.char char :: reversed))
  | .behindBackslash reversed, char =>
      if char = 'u' then some ([], .inCode reversed 4 0)
      else
        (escaped? char).map
          fun value => ([], .inText (.char value :: reversed))
  | .inCode reversed missing value, char => do
      let value := value * 16 + (<- Hex.value? char)
      return ([],
        if missing ≤ 1 then .inText (.code value :: reversed)
        else .inCode reversed (missing - 1) value)

/-- The tokens of the rest of a text. -/
def ofChars? : Place -> List Char -> Option (List JsonToken)
  | .betweenWords, [] => some []
  | .inWord reversed, [] => (ofWord? reversed.reverse).map ([·])
  | _, [] => none
  | place, char :: rest => do
      let (tokens, place) <- read? place char
      let later <- ofChars? place rest
      return tokens ++ later

/-- The tokens of a text. -/
def ofText? (text : String) : Option (List JsonToken) :=
  ofChars? .betweenWords text.toList

end JsonToken
end PlcLink
