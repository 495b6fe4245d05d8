import Switchboard.Text.Quoted
/-!
# Addresses as hosts

A host whose last label is a number is an address of four bytes, written in up to four numbers in
decimal, octal or hexadecimal. A host in brackets is an address of eight pieces.
-/

namespace Switchboard.Url.Address

/-- The value of a run of digits in a base, or nothing when one is no digit of it. -/
def readDigits (base : Nat) (s : List Char) : Option Nat :=
  s.foldl (fun n c => do
    let d ← Ascii.hexValue? c.toUInt8
    if c.toNat < 0x80 ∧ d < base then (fun m => m * base + d) <$> n else none) (some 0)

/-- One number of an address of four bytes: the base follows from how it begins. -/
def readNumber (s : List Char) : Option Nat :=
  match s with
  | [] => none
  | '0' :: 'x' :: rest => readDigits 16 rest
  | '0' :: 'X' :: rest => readDigits 16 rest
  | '0' :: c :: rest => readDigits 8 (c :: rest)
  | s => readDigits 10 s

/-- Splits a text at every occurrence of a character. -/
def splitAt (sep : Char) (s : List Char) : List (List Char) :=
  s.foldr (fun c parts =>
    if c = sep then [] :: parts
    else
      match parts with
      | p :: ps => (c :: p) :: ps
      | [] => [[c]]) [[]]

/-- The labels of a host without the empty one at its end. -/
def numberLabels (host : List Char) : List (List Char) :=
  let labels := splitAt '.' host
  if labels.getLast? = some [] then labels.dropLast else labels

/-- Whether a host must be an address: its last label is a number. -/
def endsInNumber (host : List Char) : Bool :=
  match (numberLabels host).getLast? with
  | none => false
  | some last =>
    (!last.isEmpty && last.all Char.isDigit) || (readNumber last).isSome

/-- The address of four bytes that a host writes. -/
def readV4 (host : List Char) : Option Nat := do
  let labels := numberLabels host
  if 4 < labels.length then none
  let numbers ← labels.mapM readNumber
  let last ← numbers.getLast?
  let first := numbers.dropLast
  if first.any (255 < ·) then none
  if Nat.pow 256 (4 - first.length) ≤ last then none
  let high := first.zipIdx.foldl (fun sum (n, i) => sum + n * Nat.pow 256 (3 - i)) 0
  pure (high + last)

/-- The text of an address of four bytes. -/
def renderV4 (n : Nat) : String :=
  ".".intercalate [toString (n / 0x1000000 % 256), toString (n / 0x10000 % 256),
    toString (n / 0x100 % 256), toString (n % 256)]

/-! ### Eight pieces -/

/-- Reads up to four hexadecimal digits; `none` when there are more or none. -/
def readPiece (s : List Char) : Option Nat :=
  if s.isEmpty || 4 < s.length then none else readDigits 16 s

/-- One decimal number of at most 255, without leading zeros. -/
def readByte (s : List Char) : Option Nat :=
  if s.isEmpty || !s.all Char.isDigit || (s.length > 1 && s.head? = some '0') then none
  else (readDigits 10 s).bind fun n => if n ≤ 255 then some n else none

/-- The last two pieces as four decimal numbers. -/
def readEmbedded (s : List Char) : Option (List Nat) :=
  match (splitAt '.' s).mapM readByte with
  | some [a, b, c, d] => some [a * 256 + b, c * 256 + d]
  | _ => none

/-- A run of pieces; the last may be written as four decimal numbers where that is allowed. -/
def readPieces (embedded : Bool) (s : List Char) : Option (List Nat) :=
  if s.isEmpty then some []
  else
    let parts := splitAt ':' s
    match parts.getLast? with
    | none => some []
    | some last =>
      if embedded && last.contains '.' then do
        let first ← parts.dropLast.mapM readPiece
        pure (first ++ (← readEmbedded last))
      else parts.mapM readPiece

/-- Splits a text at the first two colons in a row. -/
def splitGap : List Char → Option (List Char × List Char)
  | ':' :: ':' :: rest => some ([], rest)
  | c :: rest => (splitGap rest).map fun (a, b) => (c :: a, b)
  | [] => none

/-- The address of eight pieces that a text writes. Two colons in a row stand for one run of zero
pieces, of at least one. -/
def readV6 (s : List Char) : Option (List Nat) :=
  match splitGap s with
  | none => (readPieces true s).bind fun ps => if ps.length = 8 then some ps else none
  | some (before, after) => do
    let front ← readPieces false before
    let back ← readPieces true after
    let used := front.length + back.length
    if used < 8 then pure (front ++ List.replicate (8 - used) 0 ++ back) else none

/-- The runs of zero pieces: where each begins and how long it is. -/
def zeroRuns (pieces : List Nat) : List (Nat × Nat) :=
  (pieces.zipIdx.foldl (fun (runs : List (Nat × Nat)) (p, i) =>
    if p = 0 then
      match runs with
      | (start, length) :: rest =>
        if start + length = i then (start, length + 1) :: rest else (i, 1) :: runs
      | [] => [(i, 1)]
    else runs) []).reverse

/-- The first of the longest runs of two zero pieces or more. -/
def longestRun (pieces : List Nat) : Option (Nat × Nat) :=
  (zeroRuns pieces).foldl (fun best (start, length) =>
    if length < 2 then best
    else
      match best with
      | some (_, l) => if l < length then some (start, length) else best
      | none => some (start, length)) none

/-- Pieces in hexadecimal with colons between them. -/
def renderPieces (pieces : List Nat) : String := ":".intercalate (pieces.map Quoted.hexText)

/-- The text of an address of eight pieces, its longest run of zeros left out. -/
def renderV6 (pieces : List Nat) : String :=
  match longestRun pieces with
  | none => renderPieces pieces
  | some (start, length) =>
    renderPieces (pieces.take start) ++ "::" ++ renderPieces (pieces.drop (start + length))

end Switchboard.Url.Address
