import Switchboard.Text.Ascii
/-!
# Percent encoding

Which characters are written as percent escapes depends on the part of a URL they stand in. Every
byte of a character outside ASCII is, in every part.
-/

namespace Switchboard.Url.Percent

/-- The ASCII characters that a part of a URL does not hold as they are. -/
abbrev Avoided := Char → Bool

/-- The control characters. -/
def control : Avoided := fun c => c.toNat < 0x20 || c.toNat = 0x7F

def fragment : Avoided := fun c =>
  control c || c = ' ' || c = '"' || c = '<' || c = '>' || c = '\x60'

def query : Avoided := fun c =>
  control c || c = ' ' || c = '"' || c = '#' || c = '<' || c = '>'

/-- The query of a URL whose scheme has a default port. -/
def specialQuery : Avoided := fun c => query c || c = '\''

def path : Avoided := fun c =>
  fragment c || c = '#' || c = '?' || c = '\x7b' || c = '\x7d'

def userInfo : Avoided := fun c =>
  path c || c = '/' || c = ':' || c = ';' || c = '=' || c = '@' || c = '[' || c = '\\' || c = ']'
    || c = '^' || c = '|'

/-- The escape of one byte. -/
def escape (b : UInt8) : List Char :=
  ['%', Char.ofNat (Ascii.upperHexDigit (b.toNat / 16)).toNat,
    Char.ofNat (Ascii.upperHexDigit (b.toNat % 16)).toNat]

/-- One character as a part of a URL holds it. -/
def encodeChar (avoided : Avoided) (c : Char) : List Char :=
  if c.toNat < 0x80 && !avoided c then [c] else (String.utf8EncodeChar c).flatMap escape

/-- A text as a part of a URL holds it. -/
def encode (avoided : Avoided) (s : List Char) : List Char := s.flatMap (encodeChar avoided)

/-- Undoes the escapes; a percent sign that begins none stands for itself. -/
def decode : Bytes → Bytes
  | [] => []
  | b :: rest =>
    if b = Ascii.percent then
      match rest with
      | h :: l :: tail =>
        match Ascii.hexValue? h, Ascii.hexValue? l with
        | some x, some y => (x * 16 + y).toUInt8 :: decode tail
        | _, _ => b :: decode (h :: l :: tail)
      | [h] => [b, h]
      | [] => [b]
    else b :: decode rest

end Switchboard.Url.Percent
