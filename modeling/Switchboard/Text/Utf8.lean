/-!
# Text as bytes

Frames travel as plain byte lists. `Utf8.encode` writes a string, `Utf8.decode?` reads one and
refuses every ill-formed sequence, `Utf8.validLength` is the length of the longest well-formed
start, and `Utf8.decodeLossy` puts one replacement character in place of each maximal ill-formed
piece.
-/

namespace Switchboard

/-- The bytes of a frame, a body or a file, first byte first. -/
abbrev Bytes := List UInt8

namespace Utf8

/-- The bytes of a string. -/
def encode (s : String) : Bytes := s.toList.flatMap String.utf8EncodeChar

/-- A continuation byte, the low six bits of a character. -/
def isTail (b : UInt8) : Bool := 0x80 ≤ b && b ≤ 0xBF

/-- The second byte that may follow the first byte `a` of a character of three bytes: overlong
forms and surrogates are left out. -/
def isSecondOfThree (a b : UInt8) : Bool :=
  if a = 0xE0 then 0xA0 ≤ b && b ≤ 0xBF
  else if a = 0xED then 0x80 ≤ b && b ≤ 0x9F
  else isTail b

/-- The second byte that may follow the first byte `a` of a character of four bytes: overlong forms
and numbers above `0x10FFFF` are left out. -/
def isSecondOfFour (a b : UInt8) : Bool :=
  if a = 0xF0 then 0x90 ≤ b && b ≤ 0xBF
  else if a = 0xF4 then 0x80 ≤ b && b ≤ 0x8F
  else isTail b

/-- How many bytes a character has that begins with `a`; `0` when none begins so. -/
def widthOf (a : UInt8) : Nat :=
  if a < 0x80 then 1
  else if a < 0xC2 then 0
  else if a < 0xE0 then 2
  else if a < 0xF0 then 3
  else if a < 0xF5 then 4
  else 0

/-- The character of two bytes. -/
def charOfTwo (a b : UInt8) : Char := Char.ofNat ((a.toNat - 0xC0) * 64 + (b.toNat - 0x80))

/-- The character of three bytes. -/
def charOfThree (a b c : UInt8) : Char :=
  Char.ofNat (((a.toNat - 0xE0) * 64 + (b.toNat - 0x80)) * 64 + (c.toNat - 0x80))

/-- The character of four bytes. -/
def charOfFour (a b c d : UInt8) : Char :=
  Char.ofNat
    ((((a.toNat - 0xF0) * 64 + (b.toNat - 0x80)) * 64 + (c.toNat - 0x80)) * 64 + (d.toNat - 0x80))

/-- A character, or a maximal ill-formed piece: the first bytes of no character, as many as could
have begun one. -/
inductive Piece
  | char (c : Char)
  | broken
  deriving DecidableEq, Repr

/-- Splits bytes into characters and ill-formed pieces, gathering them in reverse. -/
def piecesFrom (acc : List Piece) : Bytes → List Piece
  | [] => acc.reverse
  | a :: r₁ =>
    if widthOf a = 1 then piecesFrom (.char (Char.ofNat a.toNat) :: acc) r₁
    else if widthOf a = 0 then piecesFrom (.broken :: acc) r₁
    else
      match r₁ with
      | [] => (.broken :: acc).reverse
      | b :: r₂ =>
        if widthOf a = 2 then
          if isTail b then piecesFrom (.char (charOfTwo a b) :: acc) r₂
          else piecesFrom (.broken :: acc) (b :: r₂)
        else if (if widthOf a = 3 then isSecondOfThree a b else isSecondOfFour a b) then
          match r₂ with
          | [] => (.broken :: acc).reverse
          | c :: r₃ =>
            if isTail c then
              if widthOf a = 3 then piecesFrom (.char (charOfThree a b c) :: acc) r₃
              else
                match r₃ with
                | [] => (.broken :: acc).reverse
                | d :: r₄ =>
                  if isTail d then piecesFrom (.char (charOfFour a b c d) :: acc) r₄
                  else piecesFrom (.broken :: acc) (d :: r₄)
            else piecesFrom (.broken :: acc) (c :: r₃)
        else piecesFrom (.broken :: acc) (b :: r₂)

/-- The characters and ill-formed pieces of a byte list, in order. -/
def pieces (s : Bytes) : List Piece := piecesFrom [] s

/-- The character of a piece. -/
def Piece.char? : Piece → Option Char
  | .char c => some c
  | .broken => none

/-- The characters of well-formed bytes. -/
def chars? (s : Bytes) : Option (List Char) := (pieces s).mapM Piece.char?

/-- The string whose bytes these are. -/
def decode? (s : Bytes) : Option String := (chars? s).map String.ofList

/-- Whether the bytes are those of a string. -/
def isValid (s : Bytes) : Bool := (decode? s).isSome

/-- The length of the longest start that is well-formed. -/
def validLength (s : Bytes) : Nat :=
  (((pieces s).takeWhile (· != .broken)).filterMap Piece.char?).foldl (· + ·.utf8Size) 0

/-- The text of the bytes, each maximal ill-formed piece replaced by U+FFFD. -/
def decodeLossy (s : Bytes) : String :=
  String.ofList ((pieces s).map fun p => p.char?.getD '\ufffd')

end Utf8

end Switchboard
