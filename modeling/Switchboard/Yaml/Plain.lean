import Switchboard.Text.Decimal
import Switchboard.Text.Quoted
/-!
# What a plain scalar is

A scalar without quotes is nothing, a truth value, a number or a text, by how it is written. Digits
behind a leading zero are a text.
-/

namespace Switchboard.Yaml

/-- What a scalar is. -/
inductive Meaning
  | unit
  | bool (b : Bool)
  /-- An integer; the wide ones do not fit 64 bits. -/
  | integer (n : Int)
  /-- A number that is no integer, held by the bits of a double. -/
  | real (bits : UInt64)
  | text (s : String)
  deriving DecidableEq, Repr

namespace Meaning

/-- How a number in a message is written: without an exponent. -/
def realStyle : Decimal.Style := ⟨-400, 400, 2⟩

/-- The text of a double in a message. -/
def realText (bits : UInt64) : String :=
  if bits &&& 0x7FF0000000000000 = 0x7FF0000000000000 then
    if bits &&& 0x000FFFFFFFFFFFFF ≠ 0 then "NaN"
    else if bits >>> 63 = 1 then "-inf" else "inf"
  else Utf8.decodeLossy (Decimal.ofBits realStyle bits)

/-- How a message speaks of a scalar. -/
def describe : Meaning → String
  | unit => "unit value"
  | bool true => "boolean \x60true\x60"
  | bool false => "boolean \x60false\x60"
  | integer n =>
    "integer \x60" ++ toString n ++ "\x60" ++
      if 0x10000000000000000 ≤ n then " as u128"
      else if n < -0x8000000000000000 then " as i128" else ""
  | real bits => "floating point \x60" ++ realText bits ++ "\x60"
  | text s => "string " ++ Quoted.render s

end Meaning

/-! ### Numbers -/

/-- A text without a character in front, if it begins with it. -/
def dropSign (sign : Char) (s : List Char) : List Char :=
  match s with
  | c :: rest => if c = sign then rest else s
  | [] => []

/-- Whether a text begins with a sign. -/
def hasSign (s : List Char) : Bool := s.head? = some '+' || s.head? = some '-'

/-- Digits that are no number, as they begin with a zero. -/
def isZeroLed (s : List Char) : Bool :=
  match (if hasSign s then s.drop 1 else s) with
  | '0' :: d :: rest => (d :: rest).all Char.isDigit
  | _ => false

/-- The value of one digit or more in a base. -/
def readInBase (base : Nat) (s : List Char) : Option Nat :=
  if s.isEmpty then none
  else
    s.foldl (fun n c => do
      let d ← if c.toNat < 0x80 then Ascii.hexValue? c.toUInt8 else none
      if d < base then (fun m => m * base + d) <$> n else none) (some 0)

/-- The value of digits behind the mark of a base. -/
def readMarked (s : List Char) : Option Nat :=
  match s with
  | '0' :: 'x' :: rest => readInBase 16 rest
  | '0' :: 'o' :: rest => readInBase 8 rest
  | '0' :: 'b' :: rest => readInBase 2 rest
  | _ => none

/-- A number that is not negative. -/
def readUnsigned (s : List Char) : Option Nat :=
  let digits := dropSign '+' s
  match readMarked digits with
  | some n => some n
  | none => if hasSign digits || isZeroLed s then none else readInBase 10 digits

/-- A number behind a minus sign. -/
def readNegative (s : List Char) : Option Nat :=
  match s with
  | '-' :: digits =>
    match readMarked digits with
    | some n => some n
    | none => if isZeroLed s then none else readInBase 10 digits
  | _ => none

/-- The integer that a text writes, if it fits 128 bits. -/
def readInteger (s : List Char) : Option Int :=
  match readUnsigned s with
  | some n => if n < 0x100000000000000000000000000000000 then some n else none
  | none =>
    match readNegative s with
    | some n => if n ≤ 0x80000000000000000000000000000000 then some (-(n : Int)) else none
    | none => none

/-- The exponent of ten behind its letter. -/
def readExponent (s : List Char) : Option Int :=
  match s with
  | '-' :: digits => (readInBase 10 digits).map fun n => -(n : Int)
  | s => (readInBase 10 (dropSign '+' s)).map (·)

/-- The double nearest to a number in decimal, unless it is too great. -/
def nearest (digits : Nat) (e : Int) : Option Float :=
  let size := ((toString digits).length : Int) + e
  if digits = 0 || size < -400 then some 0
  else if 400 < size then none
  else
    let f := if 0 ≤ e then Float.ofScientific digits false e.toNat
      else Float.ofScientific digits true (-e).toNat
    if f.isFinite then some f else none

/-- A number in decimal, with a point or an exponent or both. -/
def readDecimal (s : List Char) : Option Float := do
  let whole := s.takeWhile Char.isDigit
  let rest := s.dropWhile Char.isDigit
  let (part, rest) := match rest with
    | '.' :: after => (after.takeWhile Char.isDigit, after.dropWhile Char.isDigit)
    | rest => ([], rest)
  let digits ← readInBase 10 (whole ++ part)
  let e ← match rest with
    | [] => some 0
    | c :: after => if c = 'e' || c = 'E' then readExponent after else none
  nearest digits (e - part.length)

/-- The bits of the number that a text writes, infinities and the number that is none included. -/
def readReal (s : List Char) : Option UInt64 :=
  let unsigned := dropSign '+' s
  if unsigned.length < s.length && hasSign unsigned then none
  else if [".inf", ".Inf", ".INF"].contains (String.ofList unsigned) then some 0x7FF0000000000000
  else if ["-.inf", "-.Inf", "-.INF"].contains (String.ofList s) then some 0xFFF0000000000000
  else if [".nan", ".NaN", ".NAN"].contains (String.ofList s) then some 0x7FF8000000000000
  else
    match unsigned with
    | '-' :: digits => (readDecimal digits).map fun f => (-f).toBits
    | digits => (readDecimal digits).map Float.toBits

/-! ### Scalars -/

/-- Whether a text stands for nothing. -/
def isNull (s : String) : Bool := ["null", "Null", "NULL", "~"].contains s

/-- The truth value that a text writes. -/
def readBool (s : String) : Option Bool :=
  if ["true", "True", "TRUE"].contains s then some true
  else if ["false", "False", "FALSE"].contains s then some false
  else none

/-- What a scalar without quotes is. -/
def Meaning.ofPlain (s : List Char) : Meaning :=
  let text := String.ofList s
  if s.isEmpty || isNull text then .unit
  else
    match readBool text with
    | some b => .bool b
    | none =>
      match readInteger s with
      | some n => .integer n
      | none =>
        match (if isZeroLed s then none else readReal s) with
        | some bits => .real bits
        | none => .text text

/-- What a scalar is, by its tag and by whether it stands without quotes; else the kind that its
tag asks for in vain. -/
def Meaning.ofScalar (tag : Option (List Char)) (s : List Char) ( isPlain : Bool) :
    Except String Meaning :=
  let text := String.ofList s
  let wanted {α : Type} (meaning : α → Meaning) (kind : String) : Option α → Except String Meaning
    | some a => .ok (meaning a)
    | none => .error kind
  match tag with
  | none => .ok (if isPlain then .ofPlain s else .text text)
  | some tag =>
    match String.ofList tag with
    | "tag:yaml.org,2002:bool" => wanted .bool "a boolean" (readBool text)
    | "tag:yaml.org,2002:int" => wanted .integer "an integer" (readInteger s)
    | "tag:yaml.org,2002:float" => wanted .real "a float" (readReal s)
    | "tag:yaml.org,2002:null" =>
      if isNull text then .ok .unit else .error "null"
    | _ => .ok (if tag.head? = some '!' && isPlain then .ofPlain s else .text text)

end Switchboard.Yaml
