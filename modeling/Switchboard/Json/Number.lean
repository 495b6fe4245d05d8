import Switchboard.Json.Value
import Switchboard.Json.Scanner
/-!
# Reading numbers

An integer that fits 64 bits stays an integer. Any other number is read as a double: its digits are
gathered while they fit 64 bits, and the power of ten is applied in one floating-point operation,
or in several when it exceeds the largest power of ten that is a double. The result may so differ
from the nearest double in the last bit.
-/

namespace Switchboard.Json

open Ascii

/-- The greatest number of 64 bits. -/
def maxWord : Nat := 0xFFFFFFFFFFFFFFFF

/-- The greatest number that fits 64 bits behind a minus sign. -/
def maxNegative : Nat := 0x8000000000000000

/-- The greatest power of ten that is a double. -/
def maxPower : Nat := 308

/-- `n` as a double. -/
def doubleOf (n : Nat) : Float := n.toUInt64.toFloat

/-- `10 ^ n` as the nearest double. -/
def powerOfTen (n : Nat) : Float := Float.ofScientific 1 false n

/-- `f * 10 ^ e`, or nothing when it is too great; `fuel` bounds the number of steps. -/
def scaleDouble : Nat → Float → Int → Option Float
  | 0, f, _ => some f
  | fuel + 1, f, e =>
    if e.natAbs ≤ maxPower then
      if 0 ≤ e then
        let g := f * powerOfTen e.natAbs
        if g.isInf then none else some g
      else some (f / powerOfTen e.natAbs)
    else if f == 0 then some f
    else if 0 ≤ e then none
    else scaleDouble fuel (f / powerOfTen maxPower) (e + maxPower)

/-- The double of a sign, digits and a power of ten; the fault lies in front of `rest`. -/
def finishDouble (negative : Bool) (digits : Nat) (e : Int) (rest : Bytes) :
    Except Fault (Number × Bytes) :=
  match scaleDouble (e.natAbs / maxPower + 2) (doubleOf digits) e with
  | some f => .ok (.real (if negative then -f else f).toBits, rest)
  | none => .error (.before .numberOutOfRange rest)

/-- The greatest exponent that is told apart from greater ones. -/
def maxExponent : Nat := 0x7FFFFFFF

/-- An exponent moved by another, held within 32 bits. -/
def clampExponent (e : Int) : Int := max (-maxExponent - 1) (min maxExponent e)

/-- Reads the digits of an exponent behind its first one. -/
def readExponentDigits (negative negativeExp : Bool) (digits : Nat) (start : Int) :
    Nat → Bytes → Except Fault (Number × Bytes)
  | e, [] => finishDouble negative digits (clampExponent (start + signed e)) []
  | e, b :: rest =>
    if isDigit b then
      let next := e * 10 + (b.toNat - 0x30)
      if next ≤ maxExponent then
        readExponentDigits negative negativeExp digits start next rest
      else if digits ≠ 0 ∧ negativeExp = false then .error (.before .numberOutOfRange rest)
      else .ok (.real (if negative then -0.0 else 0.0 : Float).toBits, skipDigits rest)
    else finishDouble negative digits (clampExponent (start + signed e)) (b :: rest)
where
  /-- The exponent with its sign. -/
  signed (e : Nat) : Int := if negativeExp then -e else e

/-- Reads an exponent behind its letter. -/
def readExponent (negative : Bool) (digits : Nat) (start : Int) (s : Bytes) :
    Except Fault (Number × Bytes) :=
  let (negativeExp, unsigned) := match s with
    | b :: rest =>
    if b = plus then (false, rest) else if b = minus then (true, rest) else (false, s)
    | [] => (false, s)
  match unsigned with
  | [] => .error (.before .endInValue [])
  | b :: rest =>
    if isDigit b then
      readExponentDigits negative negativeExp digits start (b.toNat - 0x30) rest
    else .error (.before .invalidNumber rest)

/-- Reads what may follow the digits of a double. -/
def readExponent? (negative : Bool) (digits : Nat) (e : Int) :
    Bytes → Except Fault (Number × Bytes)
  | [] => finishDouble negative digits e []
  | b :: rest =>
    if b = 0x65 || b = 0x45 then readExponent negative digits e rest
    else finishDouble negative digits e (b :: rest)

/-- Reads the digits behind a point; those that no longer fit are passed over. -/
def readFractionDigits (negative : Bool) :
    Nat → Int → Bytes → Except Fault (Number × Bytes)
  | digits, e, [] => readExponent? negative digits e []
  | digits, e, b :: rest =>
    if isDigit b then
      let next := digits * 10 + (b.toNat - 0x30)
      if next ≤ maxWord then readFractionDigits negative next (e - 1) rest
      else readExponent? negative digits e (skipDigits rest)
    else readExponent? negative digits e (b :: rest)

/-- Reads a fraction behind its point. -/
def readFraction (negative : Bool) (digits : Nat) (e : Int) (s : Bytes) :
    Except Fault (Number × Bytes) :=
  match s with
  | [] => .error (.behind .endInValue [])
  | b :: rest =>
    if !isDigit b then .error (.behind .invalidNumber (b :: rest))
    else if maxWord < digits * 10 + (b.toNat - 0x30) then
      readExponent? negative digits e (skipDigits rest)
    else readFractionDigits negative digits e (b :: rest)

/-- Reads the digits of an integer part that no longer fit. -/
def readLongInteger (negative : Bool) (digits : Nat) :
    Int → Bytes → Except Fault (Number × Bytes)
  | e, [] => finishDouble negative digits e []
  | e, b :: rest =>
    if isDigit b then readLongInteger negative digits (e + 1) rest
    else if b = dot then readFraction negative digits e rest
    else readExponent? negative digits e (b :: rest)

/-- An integer, or a double when the integer does not fit or is a negative zero. -/
def finishInteger (negative : Bool) (digits : Nat) : Number :=
  if negative then
    if digits = 0 ∨ maxNegative < digits then .real (-(doubleOf digits)).toBits else .int (-digits)
  else .int digits

/-- Reads what follows the integer part of a number. -/
def readAfterInteger (negative : Bool) (digits : Nat) : Bytes → Except Fault (Number × Bytes)
  | [] => .ok (finishInteger negative digits, [])
  | b :: rest =>
    if b = dot then readFraction negative digits 0 rest
    else if b = 0x65 || b = 0x45 then readExponent negative digits 0 rest
    else .ok (finishInteger negative digits, b :: rest)

/-- Reads the digits of an integer part behind its first one. -/
def readIntegerDigits (negative : Bool) : Nat → Bytes → Except Fault (Number × Bytes)
  | digits, [] => readAfterInteger negative digits []
  | digits, b :: rest =>
    if isDigit b then
      let next := digits * 10 + (b.toNat - 0x30)
      if next ≤ maxWord then readIntegerDigits negative next rest
      else readLongInteger negative digits 0 (b :: rest)
    else readAfterInteger negative digits (b :: rest)

/-- Reads a number behind its sign. -/
def readNumber (negative : Bool) : Bytes → Except Fault (Number × Bytes)
  | [] => .error (.before .endInValue [])
  | b :: rest =>
    if b = zero then
      if startsWithDigit rest then .error (.behind .invalidNumber rest)
      else readAfterInteger negative 0 rest
    else if isDigit b then readIntegerDigits negative (b.toNat - 0x30) rest
    else .error (.before .invalidNumber rest)

end Switchboard.Json
