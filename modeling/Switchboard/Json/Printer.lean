import Switchboard.Json.Value
import Switchboard.Text.Ascii
/-!
# Writing JSON

`Value.render` writes a value without blanks. A string's quotes, backslashes and control
characters are escaped, the five control characters with a short escape by it, and nothing else.
-/

namespace Switchboard.Json

open Ascii

/-- The letter of the short escape of a byte. -/
def shortEscape? (b : UInt8) : Option UInt8 :=
  if b = quote then some quote
  else if b = backslash then some backslash
  else if b = 0x08 then some 0x62
  else if b = tab then some 0x74
  else if b = newline then some 0x6E
  else if b = formFeed then some 0x66
  else if b = carriageReturn then some 0x72
  else none

/-- One byte of a string as it is written. -/
def escapeByte (b : UInt8) : Bytes :=
  match shortEscape? b with
  | some e => [backslash, e]
  | none =>
    if b < 0x20 then
      [backslash, 0x75, zero, zero, hexDigit (b.toNat / 16), hexDigit (b.toNat % 16)]
    else [b]

/-- The bytes of a string as they are written, without the quotes around them. -/
def escape (s : Bytes) : Bytes := s.flatMap escapeByte

/-- A string between quotes. -/
def renderString (s : String) : Bytes := quote :: escape (Utf8.encode s) ++ [quote]

/-- Doubles have a point and a digit after it up to `10 ^ 15` and down to `10 ^ -5`, and otherwise
an exponent with its sign and at least two digits. -/
def realStyle : Decimal.Style := ⟨-5, 15, 2⟩

/-- The text of a number. -/
def Number.render : Number → Bytes
  | .int n => Decimal.ofInt n
  | .real bits => Decimal.ofBits realStyle bits

mutual

/-- The text of a value. -/
def Value.render : Value → Bytes
  | .null => [0x6E, 0x75, 0x6C, 0x6C]
  | .bool true => [0x74, 0x72, 0x75, 0x65]
  | .bool false => [0x66, 0x61, 0x6C, 0x73, 0x65]
  | .number n => n.render
  | .string s => renderString s
  | .array [] => [openBracket, closeBracket]
  | .array (v :: vs) => openBracket :: v.render ++ renderElements vs ++ [closeBracket]
  | .object [] => [openBrace, closeBrace]
  | .object ((k, v) :: ms) =>
    openBrace :: renderString k ++ colon :: v.render ++ renderMembers ms ++ [closeBrace]

/-- The elements of an array after the first, each behind a comma. -/
def renderElements : List Value → Bytes
  | [] => []
  | v :: vs => comma :: v.render ++ renderElements vs

/-- The members of an object after the first, each behind a comma. -/
def renderMembers : List (String × Value) → Bytes
  | [] => []
  | (k, v) :: ms => comma :: renderString k ++ colon :: v.render ++ renderMembers ms

end

/-- An object of fields in the order given, which is kept. -/
def renderFields : List (String × Value) → Bytes := fun fields => (Value.object fields).render

end Switchboard.Json
