import Switchboard.Text.Utf8
/-!
# Decimal numbers

`Decimal.digits` writes a natural number. `Decimal.shortest` finds, for a double, the decimal
number with the fewest digits that reads back as it, and of those the nearest to it.
-/

namespace Switchboard

namespace Decimal

/-- The digits of `n` in front of `acc`; `fuel` bounds their number. -/
def digitsFrom : Nat → Nat → Bytes → Bytes
  | 0, _, acc => acc
  | fuel + 1, n, acc =>
    let acc := (0x30 + (n % 10).toUInt8) :: acc
    if n < 10 then acc else digitsFrom fuel (n / 10) acc

/-- The decimal digits of a natural number, without leading zeros. -/
def digits (n : Nat) : Bytes := digitsFrom (n + 1) n []

/-- The decimal text of an integer. -/
def ofInt : Int → Bytes
  | .ofNat n => digits n
  | .negSucc n => 0x2D :: digits (n + 1)

/-- The magnitude of a double, `mantissa * 2 ^ exponent`. -/
structure Binary where
  mantissa : Nat
  exponent : Int
  /-- Whether the double below is half as far away as the double above. -/
  narrowBelow : Bool
  deriving DecidableEq, Repr

/-- The magnitude of the finite double with the given bits. -/
def Binary.ofBits (bits : UInt64) : Binary :=
  let fraction := (bits &&& 0xFFFFFFFFFFFFF).toNat
  let biased := ((bits >>> 52) &&& 0x7FF).toNat
  if biased = 0 then ⟨fraction, -1074, false⟩
  else ⟨fraction + 0x10000000000000, (biased : Int) - 1075, fraction = 0 && biased > 1⟩

/-- A quotient of natural numbers. -/
structure Ratio where
  num : Nat
  den : Nat

/-- The quotient `n * 2 ^ e`. -/
def Ratio.scaled (n : Nat) (e : Int) : Ratio :=
  if 0 ≤ e then ⟨n * Nat.pow 2 e.toNat, 1⟩ else ⟨n, Nat.pow 2 (-e).toNat⟩

/-- The quotient divided by `10 ^ e`. -/
def Ratio.overTen (r : Ratio) (e : Int) : Ratio :=
  if 0 ≤ e then ⟨r.num, r.den * Nat.pow 10 e.toNat⟩ else ⟨r.num * Nat.pow 10 (-e).toNat, r.den⟩

/-- The least `t` from `start` on, of at most `fuel` tries, with `1 ≤ r * 10 ^ t`. -/
def Ratio.firstReach (r : Ratio) : Nat → Nat → Nat
  | 0, start => start
  | fuel + 1, start =>
    if r.den ≤ r.num * Nat.pow 10 start then start else r.firstReach fuel (start + 1)

/-- The exponent of the leading digit of a positive quotient. -/
def Ratio.magnitude (r : Ratio) : Int :=
  if r.den ≤ r.num then ((digits (r.num / r.den)).length : Int) - 1
  else -((r.firstReach 400 1 : Nat) : Int)

/-- A decimal number `digits * 10 ^ exponent`. -/
structure Scientific where
  digits : Nat
  exponent : Int
  deriving DecidableEq, Repr

/-- The numbers that read back as a double lie between two quotients, the ends among them when
the double's mantissa is even. -/
structure Interval where
  low : Ratio
  high : Ratio
  closed : Bool

/-- The numbers that read back as the double. -/
def Binary.interval (b : Binary) : Interval :=
  ⟨.scaled (4 * b.mantissa - (if b.narrowBelow then 1 else 2)) (b.exponent - 2),
    .scaled (4 * b.mantissa + 2) (b.exponent - 2), b.mantissa % 2 = 0⟩

/-- Whether `n * 10 ^ e` is in the interval. -/
def Interval.holds (i : Interval) (n : Nat) (e : Int) : Bool :=
  let low := i.low.overTen e
  let high := i.high.overTen e
  if i.closed then low.num ≤ n * low.den && n * high.den ≤ high.num
  else low.num < n * low.den && n * high.den < high.num

/-- The point of the grid `10 ^ e` in the interval that is nearest to `v`; of two equally near
ones the even one. -/
def nearestOn (i : Interval) (v : Ratio) (e : Int) : Option Nat :=
  let q := v.overTen e
  let below := q.num / q.den
  match i.holds below e, i.holds (below + 1) e with
  | false, false => none
  | true, false => some below
  | false, true => some (below + 1)
  | true, true =>
    let twice := 2 * (q.num % q.den)
    if twice < q.den then some below
    else if q.den < twice then some (below + 1)
    else some (below + below % 2)

/-- Tries one digit, then two, and so on. -/
def shortestFrom (i : Interval) (v : Ratio) : Nat → Int → Scientific
  | 0, e => ⟨v.num / v.den, e⟩
  | fuel + 1, e =>
    match nearestOn i v e with
    | some n => ⟨n, e⟩
    | none => shortestFrom i v fuel (e - 1)

/-- Moves the zeros at the end of the digits into the exponent; `fuel` bounds their number. -/
def Scientific.strip : Nat → Scientific → Scientific
  | 0, s => s
  | fuel + 1, s =>
    if s.digits ≠ 0 ∧ s.digits % 10 = 0 then strip fuel ⟨s.digits / 10, s.exponent + 1⟩ else s

/-- The decimal number with the fewest digits that reads back as the double with the given bits,
and of those the nearest. Seventeen digits always suffice. -/
def shortest (bits : UInt64) : Scientific :=
  let b := Binary.ofBits bits
  let v := Ratio.scaled b.mantissa b.exponent
  if b.mantissa = 0 then ⟨0, 0⟩
  else (shortestFrom b.interval v 17 v.magnitude).strip 20

/-- How a double is written. -/
structure Style where
  /-- The least exponent of the leading digit that is written without an exponent. -/
  leastPositional : Int
  /-- The greatest such exponent. -/
  greatestPositional : Int
  /-- The least number of digits of an exponent. -/
  exponentDigits : Nat

/-- `n` zeros. -/
def zeros (n : Nat) : Bytes := List.replicate n 0x30

/-- Digits with zeros in front, at least `width` of them. -/
def padded (width n : Nat) : Bytes :=
  let ds := digits n
  zeros (width - ds.length) ++ ds

/-- The text of a positive number in positional notation, with at least one digit on each side of
the point. -/
def Scientific.positional (s : Scientific) : Bytes :=
  let ds := Decimal.digits s.digits
  let point := s.exponent + ds.length
  if point ≤ 0 then 0x30 :: 0x2E :: zeros (-point).toNat ++ ds
  else if (ds.length : Int) ≤ point then ds ++ zeros (point.toNat - ds.length) ++ [0x2E, 0x30]
  else ds.take point.toNat ++ 0x2E :: ds.drop point.toNat

/-- The text of a positive number with an exponent. -/
def Scientific.exponential (style : Style) (s : Scientific) : Bytes :=
  let ds := Decimal.digits s.digits
  let e := s.exponent + ds.length - 1
  let sign : UInt8 := if e < 0 then 0x2D else 0x2B
  let tail := 0x65 :: sign :: padded style.exponentDigits e.natAbs
  match ds with
  | [] => tail
  | [d] => d :: tail
  | d :: ds => d :: 0x2E :: ds ++ tail

/-- The text of the finite double with the given bits. -/
def ofBits (style : Style) (bits : UInt64) : Bytes :=
  let s := shortest bits
  let e := s.exponent + (Decimal.digits s.digits).length - 1
  let sign : Bytes := if bits >>> 63 = 1 then [0x2D] else []
  if s.digits = 0 then sign ++ [0x30, 0x2E, 0x30]
  else if style.leastPositional ≤ e && e ≤ style.greatestPositional then sign ++ s.positional
  else sign ++ s.exponential style

end Decimal

end Switchboard
