import Switchboard.Json.Fault
/-!
# Scanning JSON

The functions here read one item from the front of a text and return what follows it. Strings are
read twice: `readString` undoes the escapes, `skipString` only finds the end. `skipValue` finds the
end of a value of any depth and checks the structure on the way, not the characters of the
strings.
-/

namespace Switchboard.Json

open Ascii

/-- The four blanks between tokens. -/
def isSpace (b : UInt8) : Bool := b = space || b = newline || b = tab || b = carriageReturn

/-- The text behind the blanks at its front. -/
def skipSpace (s : Bytes) : Bytes := s.dropWhile isSpace

/-- Reads the letters of a literal behind its first one. -/
def skipIdent : Bytes → Bytes → Except Fault Bytes
  | [], rest => .ok rest
  | _ :: _, [] => .error (.before .endInValue [])
  | c :: cs, b :: rest =>
    if b = c then skipIdent cs rest else .error (.before .expectedIdent rest)

/-- What follows the first letter of `null`. -/
def nullTail : Bytes := [0x75, 0x6C, 0x6C]

/-- What follows the first letter of `true`. -/
def trueTail : Bytes := [0x72, 0x75, 0x65]

/-- What follows the first letter of `false`. -/
def falseTail : Bytes := [0x61, 0x6C, 0x73, 0x65]

/-! ### Strings -/

/-- The number written by four hexadecimal digits. -/
def hexQuad? (a b c d : UInt8) : Option Nat :=
  match hexValue? a, hexValue? b, hexValue? c, hexValue? d with
  | some a, some b, some c, some d => some (((a * 16 + b) * 16 + c) * 16 + d)
  | _, _, _, _ => none

/-- The byte that a short escape stands for. -/
def unescape? (e : UInt8) : Option UInt8 :=
  if e = quote then some quote
  else if e = backslash then some backslash
  else if e = slash then some slash
  else if e = 0x62 then some 0x08
  else if e = 0x66 then some formFeed
  else if e = 0x6E then some newline
  else if e = 0x72 then some carriageReturn
  else if e = 0x74 then some tab
  else none

/-- The first half of a pair of escapes for one character. -/
def isHighSurrogate (n : Nat) : Bool := 0xD800 ≤ n && n ≤ 0xDBFF

/-- The second half of a pair of escapes for one character. -/
def isLowSurrogate (n : Nat) : Bool := 0xDC00 ≤ n && n ≤ 0xDFFF

/-- The character of a pair of escapes. -/
def pairValue (high low : Nat) : Nat := (high - 0xD800) * 1024 + (low - 0xDC00) + 0x10000

/-- Puts the bytes of a character in front of bytes gathered in reverse. -/
def pushChar (n : Nat) (acc : Bytes) : Bytes :=
  (String.utf8EncodeChar (Char.ofNat n)).reverseAux acc

/-- Reads a string behind its opening quote and undoes its escapes, gathering in reverse. -/
def readStringFrom (acc : Bytes) : Bytes → Except Fault (Bytes × Bytes)
  | [] => .error (.before .endInString [])
  | b :: r₁ =>
    if b = quote then .ok (acc.reverse, r₁)
    else if b = backslash then
      match r₁ with
      | [] => .error (.before .endInString [])
      | e :: r₂ =>
        if e = 0x75 then
          match r₂ with
          | h₁ :: h₂ :: h₃ :: h₄ :: r₃ =>
            match hexQuad? h₁ h₂ h₃ h₄ with
            | none => .error (.before .invalidEscape r₃)
            | some n =>
              if isLowSurrogate n then .error (.before .loneSurrogate r₃)
              else if isHighSurrogate n then
                match r₃ with
                | [] => .error (.before .endInString [])
                | s :: r₄ =>
                  if s = backslash then
                    match r₄ with
                    | [] => .error (.before .endInString [])
                    | u :: r₅ =>
                      if u = 0x75 then
                        match r₅ with
                        | k₁ :: k₂ :: k₃ :: k₄ :: r₆ =>
                          match hexQuad? k₁ k₂ k₃ k₄ with
                          | none => .error (.before .invalidEscape r₆)
                          | some m =>
                            if isLowSurrogate m then
                              readStringFrom (pushChar (pairValue n m) acc) r₆
                            else .error (.before .loneSurrogate r₆)
                        | _ => .error (.before .endInString [])
                      else .error (.before .unfinishedSurrogate r₅)
                  else .error (.before .unfinishedSurrogate r₄)
              else readStringFrom (pushChar n acc) r₃
          | _ => .error (.before .endInString [])
        else
          match unescape? e with
          | some c => readStringFrom (c :: acc) r₂
          | none => .error (.before .invalidEscape r₂)
    else if b < 0x20 then .error (.before .controlCharacter r₁)
    else readStringFrom (b :: acc) r₁

/-- Reads a string behind its opening quote. Its bytes must be those of a text; the fault lies at
the first that is not. -/
def readString (s : Bytes) : Except Fault (String × Bytes) := do
  let (bytes, rest) ← readStringFrom [] s
  match Utf8.decode? bytes with
  | some text => pure (text, rest)
  | none =>
    .error ⟨.invalidCodePoint, .left (rest.length + (bytes.length - Utf8.validLength bytes))⟩

/-- Finds the end of a string behind its opening quote. -/
def skipString : Bytes → Except Fault Bytes
  | [] => .error (.before .endInString [])
  | b :: r₁ =>
    if b = quote then .ok r₁
    else if b = backslash then
      match r₁ with
      | [] => .error (.before .endInString [])
      | e :: r₂ =>
        if e = 0x75 then
          match r₂ with
          | h₁ :: h₂ :: h₃ :: h₄ :: r₃ =>
            match hexQuad? h₁ h₂ h₃ h₄ with
            | none => .error (.before .invalidEscape r₃)
            | some _ => skipString r₃
          | _ => .error (.before .endInString [])
        else if (unescape? e).isSome then skipString r₂
        else .error (.before .invalidEscape r₂)
    else if b < 0x20 then .error (.before .controlCharacter (b :: r₁))
    else skipString r₁

/-! ### Numbers -/

/-- The text behind the digits at its front. -/
def skipDigits (s : Bytes) : Bytes := s.dropWhile isDigit

/-- Whether a digit stands at the front. -/
def startsWithDigit : Bytes → Bool
  | b :: _ => isDigit b
  | [] => false

/-- Finds the end of an exponent behind its letter. -/
def skipExponent (s : Bytes) : Except Fault Bytes :=
  let unsigned := match s with
    | b :: rest => if b = plus || b = minus then rest else s
    | [] => s
  match unsigned with
  | [] => .error (.before .invalidNumber [])
  | b :: rest =>
    if isDigit b then .ok (skipDigits rest) else .error (.before .invalidNumber rest)

/-- Finds the end of what may follow the digits of a number in front of its exponent. -/
def skipExponent? : Bytes → Except Fault Bytes
  | [] => .ok []
  | b :: rest => if b = 0x65 || b = 0x45 then skipExponent rest else .ok (b :: rest)

/-- Finds the end of a number behind its integer part. -/
def skipFraction : Bytes → Except Fault Bytes
  | [] => .ok []
  | b :: rest =>
    if b = dot then
      if startsWithDigit rest then skipExponent? (skipDigits rest)
      else .error (.behind .invalidNumber rest)
    else skipExponent? (b :: rest)

/-- Finds the end of a number behind its sign. -/
def skipNumber : Bytes → Except Fault Bytes
  | [] => .error (.before .invalidNumber [])
  | b :: rest =>
    if b = zero then
      if startsWithDigit rest then .error (.behind .invalidNumber rest) else skipFraction rest
    else if isDigit b then skipFraction (skipDigits rest)
    else .error (.before .invalidNumber rest)

/-! ### Values -/

/-- An array or an object that is still open. -/
inductive Nest
  | list
  | object
  deriving DecidableEq, Repr

/-- The byte that ends it. -/
def Nest.closer : Nest → UInt8
  | .list => closeBracket
  | .object => closeBrace

/-- The problem of a text that ends within it. -/
def Nest.atEnd : Nest → Problem
  | .list => .endInList
  | .object => .endInObject

/-- The problem of an element that is followed by something else than a comma or the end. -/
def Nest.afterElement : Nest → Problem
  | .list => .expectedListCommaOrEnd
  | .object => .expectedObjectCommaOrEnd

/-- Finds the value of a member behind the member's name. -/
def skipColon (s : Bytes) : Except Fault Bytes :=
  match skipSpace s with
  | [] => .error (.behind .endInObject [])
  | b :: rest => if b = colon then .ok rest else .error (.behind .expectedColon (b :: rest))

/-- Finds the next element: in a list it begins at once, in an object behind a name. -/
def Nest.skipName (nest : Nest) (s : Bytes) : Except Fault Bytes :=
  match nest with
  | .list => .ok s
  | .object =>
    match skipSpace s with
    | [] => .error (.behind .endInObject [])
    | b :: rest =>
      if b = quote then do skipColon (← skipString rest)
      else .error (.behind .keyNotString (b :: rest))

/-- What a scan of one value's front comes to. -/
inductive Front
  /-- The whole value was read. -/
  | whole (rest : Bytes)
  /-- An array or an object was opened. -/
  | opened (nest : Nest) (rest : Bytes)

/-- Reads a number, a string or a literal whole and of an array or object the opening. -/
def skipFront (s : Bytes) : Except Fault Front :=
  match skipSpace s with
  | [] => .error (.behind .endInValue [])
  | b :: rest =>
    if b = 0x6E then .whole <$> skipIdent nullTail rest
    else if b = 0x74 then .whole <$> skipIdent trueTail rest
    else if b = 0x66 then .whole <$> skipIdent falseTail rest
    else if b = minus then .whole <$> skipNumber rest
    else if isDigit b then .whole <$> skipNumber (b :: rest)
    else if b = quote then .whole <$> skipString rest
    else if b = openBracket then .ok (.opened .list rest)
    else if b = openBrace then .ok (.opened .object rest)
    else .error (.behind .expectedValue (b :: rest))

mutual

/-- Finds the end of a value and then of everything that is open around it. `fuel` bounds the
number of tokens. -/
def skipOpen : Nat → List Nest → Bytes → Except Fault Bytes
  | 0, _, s => .error (.behind .endInValue s)
  | fuel + 1, nests, s => do
    match ← skipFront s with
    | .whole rest => skipRest fuel nests rest
    | .opened nest rest =>
      match skipSpace rest with
      | [] => .error (.behind nest.atEnd [])
      | b :: tail =>
        if b = nest.closer then skipRest fuel nests tail
        else skipOpen fuel (nest :: nests) (← nest.skipName (b :: tail))

/-- Finds the end of everything that is open behind a value. -/
def skipRest : Nat → List Nest → Bytes → Except Fault Bytes
  | _, [], s => .ok s
  | 0, _ :: _, s => .error (.behind .endInValue s)
  | fuel + 1, nest :: nests, s =>
    match skipSpace s with
    | [] => .error (.behind nest.atEnd [])
    | b :: rest =>
      if b = comma then do skipOpen fuel (nest :: nests) (← nest.skipName rest)
      else if b = nest.closer then skipRest fuel nests rest
      else .error (.behind nest.afterElement (b :: rest))

end

/-- Finds the end of a value. -/
def skipValue (s : Bytes) : Except Fault Bytes := skipOpen (2 * s.length + 1) [] s

/-- Splits a value's own bytes off the front of a text. They must be those of a text themselves. -/
def captureValue (s : Bytes) : Except Fault (Bytes × Bytes) := do
  let start := skipSpace s
  let rest ← skipValue start
  let raw := start.take (start.length - rest.length)
  if Utf8.isValid raw then pure (raw, rest)
  else
    .error ⟨.invalidCodePoint, .left (rest.length + (raw.length - Utf8.validLength raw) - 1)⟩

/-- Nothing but blanks may follow a value. -/
def endText (s : Bytes) : Except Fault Unit :=
  match skipSpace s with
  | [] => .ok ()
  | b :: rest => .error (.behind .trailingCharacters (b :: rest))

/-- Whether the bytes are one JSON value with blanks around it. -/
def isJson (s : Bytes) : Bool :=
  match captureValue s with
  | .ok (_, rest) => (endText rest).isOk
  | .error _ => false

end Switchboard.Json
