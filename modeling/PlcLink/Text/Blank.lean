/-!
# Blank texts

The characters that count as white space in any script.
-/

namespace PlcLink

/-- Whether a character is white space. -/
def isBlankChar (char : Char) : Bool :=
  let code := char.toNat
  (9 ≤ code && code ≤ 13) || code == 0x20 || code == 0x85 || code == 0xA0
    || code == 0x1680 || (0x2000 ≤ code && code ≤ 0x200A) || code == 0x2028
    || code == 0x2029 || code == 0x202F || code == 0x205F || code == 0x3000

/-- Whether a text consists of white space alone. -/
def isBlank (text : String) : Bool :=
  text.toList.all isBlankChar

end PlcLink
