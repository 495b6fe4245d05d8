import Switchboard.Text.Utf8
/-!
# ASCII

Names for the bytes that the formats of this library give a meaning to, and the classes of bytes
they share. Every class here is of ASCII bytes alone.
-/

namespace Switchboard

namespace Ascii

abbrev tab : UInt8 := 0x09
abbrev newline : UInt8 := 0x0A
abbrev formFeed : UInt8 := 0x0C
abbrev carriageReturn : UInt8 := 0x0D
abbrev space : UInt8 := 0x20
abbrev quote : UInt8 := 0x22
abbrev percent : UInt8 := 0x25
abbrev plus : UInt8 := 0x2B
abbrev comma : UInt8 := 0x2C
abbrev minus : UInt8 := 0x2D
abbrev dot : UInt8 := 0x2E
abbrev slash : UInt8 := 0x2F
abbrev zero : UInt8 := 0x30
abbrev colon : UInt8 := 0x3A
abbrev openBracket : UInt8 := 0x5B
abbrev backslash : UInt8 := 0x5C
abbrev closeBracket : UInt8 := 0x5D
abbrev underscore : UInt8 := 0x5F
abbrev openBrace : UInt8 := 0x7B
abbrev closeBrace : UInt8 := 0x7D
abbrev delete : UInt8 := 0x7F

/-- `0` to `9`. -/
def isDigit (b : UInt8) : Bool := 0x30 ≤ b && b ≤ 0x39

/-- `A` to `Z`. -/
def isUpper (b : UInt8) : Bool := 0x41 ≤ b && b ≤ 0x5A

/-- `a` to `z`. -/
def isLower (b : UInt8) : Bool := 0x61 ≤ b && b ≤ 0x7A

/-- A letter of either case. -/
def isLetter (b : UInt8) : Bool := isUpper b || isLower b

/-- A letter or a digit. -/
def isAlphanumeric (b : UInt8) : Bool := isLetter b || isDigit b

/-- A letter in lower case; every other byte unchanged. -/
def toLower (b : UInt8) : UInt8 := if isUpper b then b + 0x20 else b

/-- Tab, newline, form feed, carriage return and space. -/
def isBlank (b : UInt8) : Bool :=
  b = tab || b = newline || b = formFeed || b = carriageReturn || b = space

/-- The value of a hexadecimal digit of either case. -/
def hexValue? (b : UInt8) : Option Nat :=
  if isDigit b then some (b.toNat - 0x30)
  else if 0x41 ≤ b && b ≤ 0x46 then some (b.toNat - 0x37)
  else if 0x61 ≤ b && b ≤ 0x66 then some (b.toNat - 0x57)
  else none

/-- The hexadecimal digit of a number below sixteen, in lower case. -/
def hexDigit (n : Nat) : UInt8 := if n < 10 then 0x30 + n.toUInt8 else 0x57 + n.toUInt8

/-- The hexadecimal digit of a number below sixteen, in upper case. -/
def upperHexDigit (n : Nat) : UInt8 := if n < 10 then 0x30 + n.toUInt8 else 0x37 + n.toUInt8

end Ascii

/-- Bytes without the blanks at their start. -/
def Bytes.trimStart (s : Bytes) : Bytes := s.dropWhile Ascii.isBlank

/-- Bytes without the blanks at either end. -/
def Bytes.trim (s : Bytes) : Bytes := (s.trimStart.reverse.dropWhile Ascii.isBlank).reverse

end Switchboard
