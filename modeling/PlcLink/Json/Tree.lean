/-!
# JSON values

A value keeps what a reader may still want to refuse: whether a text consists
of whole characters, and whether a number is a whole one and not too large.
-/

namespace PlcLink

/-- A number as it is written. -/
structure JsonNumber where
  isNegative : Bool
  /-- Whether it has neither a fraction nor an exponent. -/
  isWhole : Bool
  /-- Its digits without point and leading zeros, as a number. -/
  digits : Nat
  /-- Exponent of ten to multiply the digits with. -/
  exponent : Int
  deriving DecidableEq, Repr

/-- A JSON value. -/
inductive JsonTree
  | null
  | bool (value : Bool)
  | number (value : JsonNumber)
  /-- A text; nothing if an escape in it is half a character. -/
  | text (value? : Option String)
  | array (items : List JsonTree)
  /-- Members in the order they are written. -/
  | object (members : List (Option String × JsonTree))

namespace JsonNumber

/-- The number of a natural number. -/
def ofNat (value : Nat) : JsonNumber :=
  { isNegative := false, isWhole := true, digits := value, exponent := 0 }

/-- The natural number that is written. A zero with a minus sign is none. -/
def natural? (number : JsonNumber) : Option Nat :=
  if number.isWhole && !number.isNegative then some number.digits else none

/-- Whether the number is less than 2^1024, as far as its size is concerned.
Numbers of more than 310 places are not looked at closely. -/
def isFinite (number : JsonNumber) : Bool :=
  let places := (toString number.digits).length + number.exponent
  number.digits == 0 || places < 309
    || places == 309
      && number.digits * Nat.pow 10 number.exponent.toNat
        < (Nat.pow 2 1024 - Nat.pow 2 970)
          * Nat.pow 10 (-number.exponent).toNat

end JsonNumber

namespace JsonTree

/-- A natural number as a value. -/
def ofNat (value : Nat) : JsonTree :=
  .number (.ofNat value)

/-- A text as a value. -/
def ofText (value : String) : JsonTree :=
  .text (some value)

/-- An object with the given members. -/
def ofMembers (members : List (String × JsonTree)) : JsonTree :=
  .object (members.map fun member => (some member.1, member.2))

/-- The truth value, if it is one. -/
def bool? : JsonTree -> Option Bool
  | bool value => some value
  | _ => none

/-- The text, if it is one in whole characters. -/
def text? : JsonTree -> Option String
  | text value? => value?
  | _ => none

/-- The natural number below a bound, if it is one. -/
def below? (bound : Nat) : JsonTree -> Option Nat
  | number value => value.natural?.filter fun natural => natural < bound
  | _ => none

mutual

/-- Number of arrays and objects inside one another. -/
def depth : JsonTree -> Nat
  | array items => depthOfItems items + 1
  | object members => depthOfMembers members + 1
  | _ => 0

/-- The greatest depth of an item. -/
def depthOfItems : List JsonTree -> Nat
  | [] => 0
  | item :: items => max item.depth (depthOfItems items)

/-- The greatest depth of a member's value. -/
def depthOfMembers : List (Option String × JsonTree) -> Nat
  | [] => 0
  | (_, value) :: members => max value.depth (depthOfMembers members)

end

mutual

/-- Whether all texts consist of whole characters and all numbers are
finite. -/
def isSound : JsonTree -> Bool
  | number value => value.isWhole || value.isFinite
  | text value? => value?.isSome
  | array items => areSoundItems items
  | object members => areSoundMembers members
  | _ => true

/-- Whether all items are sound. -/
def areSoundItems : List JsonTree -> Bool
  | [] => true
  | item :: items => item.isSound && areSoundItems items

/-- Whether all members are sound. -/
def areSoundMembers : List (Option String × JsonTree) -> Bool
  | [] => true
  | (key?, value) :: members =>
      key?.isSome && value.isSound && areSoundMembers members

end

end JsonTree
end PlcLink
