/-!
# Punycode

A label with characters outside ASCII is written in ASCII: its ASCII characters, a hyphen, and a
run of letters and digits that tells which other characters stand where.
-/

namespace Switchboard.Url.Punycode

/-- The letter or digit of a number below 36. -/
def digitChar (d : Nat) : Char := Char.ofNat (if d < 26 then 0x61 + d else 0x30 + (d - 26))

/-- The number of a letter of either case or of a digit. -/
def digitValue? (c : Char) : Option Nat :=
  let n := c.toNat
  if 0x61 ≤ n && n ≤ 0x7A then some (n - 0x61)
  else if 0x41 ≤ n && n ≤ 0x5A then some (n - 0x41)
  else if 0x30 ≤ n && n ≤ 0x39 then some (n - 0x30 + 26)
  else none

/-- The bound at which a digit ends a number. -/
def threshold (k bias : Nat) : Nat := max 1 (min 26 (k - bias))

/-- Divides by 35 until at most 455 is left; `fuel` bounds the number of steps. -/
def shrink : Nat → Nat → Nat → Nat × Nat
  | 0, delta, k => (delta, k)
  | fuel + 1, delta, k => if 455 < delta then shrink fuel (delta / 35) (k + 36) else (delta, k)

/-- The bias after `count` characters, the last of which was `delta` away. -/
def adapt (delta count : Nat) (first : Bool) : Nat :=
  let d := if first then delta / 700 else delta / 2
  let (d, k) := shrink 64 (d + d / count) 0
  k + 36 * d / (d + 38)

/-- A number in digits of falling weight; `fuel` bounds their count. -/
def encodeNumber (bias : Nat) : Nat → Nat → Nat → List Char
  | 0, _, _ => []
  | fuel + 1, k, q =>
    let t := threshold k bias
    if q < t then [digitChar q]
    else digitChar (t + (q - t) % (36 - t)) :: encodeNumber bias fuel (k + 36) ((q - t) / (36 - t))

/-- How far the writing of a label has come. -/
structure Progress where
  written : List Char
  delta : Nat
  bias : Nat
  count : Nat

/-- Passes over one character of the label while those of value `m` are written. -/
def encodeStep (basic m : Nat) (p : Progress) (c : Char) : Progress :=
  if c.toNat < m then { p with delta := p.delta + 1 }
  else if c.toNat = m then
    ⟨p.written ++ encodeNumber p.bias 64 36 p.delta, 0,
      adapt p.delta (p.count + 1) (p.count = basic), p.count + 1⟩
  else p

/-- Writes the characters of each value in turn, from the least on. -/
def encodeValues (label : List Char) (basic : Nat) : List Nat → Nat → Progress → Progress
  | [], _, p => p
  | m :: ms, n, p =>
    let p := { p with delta := p.delta + (m - n) * (p.count + 1) }
    let p := label.foldl (encodeStep basic m) p
    encodeValues label basic ms (m + 1) { p with delta := p.delta + 1 }

/-- Puts a number into a rising list that does not hold it. -/
def insertRising (n : Nat) : List Nat → List Nat
  | [] => [n]
  | m :: ms => if n < m then n :: m :: ms else if n = m then m :: ms else m :: insertRising n ms

/-- A label in ASCII. -/
def encode (label : List Char) : List Char :=
  let basic := label.filter (·.toNat < 0x80)
  let values := (label.filter (0x80 ≤ ·.toNat)).foldl (fun ms c => insertRising c.toNat ms) []
  let start := if basic.isEmpty then [] else basic ++ ['-']
  (encodeValues label basic.length values 0x80 ⟨start, 0, 72, basic.length⟩).written

/-- Reads one number; gives it and what follows. -/
def decodeNumber (bias : Nat) :
    Nat → Nat → Nat → List Char → Option (Nat × List Char)
  | _, _, _, [] => none
  | k, weight, n, c :: rest => do
    let d ← digitValue? c
    let n := n + d * weight
    let t := threshold k bias
    if d < t then some (n, rest) else decodeNumber bias (k + 36) (weight * (36 - t)) n rest

/-- Puts in the characters that a run of numbers tells of; `fuel` bounds their count. -/
def decodeFrom : Nat → List Char → Nat → Nat → Nat → List Char → Option (List Char)
  | _, label, _, _, _, [] => some label
  | 0, _, _, _, _, _ :: _ => none
  | fuel + 1, label, n, i, bias, s => do
    let (delta, rest) ← decodeNumber bias 36 1 0 s
    let count := label.length + 1
    let place := i + delta
    let value := n + place / count
    if 0x10FFFF < value ∨ (0xD800 ≤ value ∧ value < 0xE000) then none
    else
      let slot := place % count
      let label := label.take slot ++ Char.ofNat value :: label.drop slot
      decodeFrom fuel label value (slot + 1) (adapt delta count (i = 0)) rest

/-- The label that a text in ASCII writes. -/
def decode (s : List Char) : Option (List Char) :=
  let tail := (s.reverse.takeWhile (· ≠ '-')).reverse
  let front := s.take (s.length - tail.length - 1)
  if front.any (0x80 ≤ ·.toNat) then none
  else decodeFrom s.length front 0x80 0 72 tail

end Switchboard.Url.Punycode
