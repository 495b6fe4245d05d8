import Switchboard.Text.Ascii
/-!
# Spans of characters

Tables of what characters are. A table is written as words with blanks between them: `41-5A` is the
span between two code points in base 16, both of them in it, and `41` is a span of one.
-/

namespace Switchboard

/-- The code points from one to another. -/
structure Span where
  first : Nat
  last : Nat
  deriving DecidableEq, Repr

namespace Span

/-- Whether a code point lies in the span. -/
def contains (s : Span) (n : Nat) : Bool := s.first ≤ n && n ≤ s.last

/-- The digit that a character is in base 16. -/
def digitValue (c : Char) : Nat := if c.isDigit then c.toNat - 0x30 else c.toNat - 0x37

/-- The number that a text is in base 16. -/
def readCode (s : String) : Nat := s.toList.foldl (fun n c => 16 * n + digitValue c) 0

/-- The span that a word tells. -/
def ofWord (w : String) : Span :=
  match w.splitOn "-" with
  | [first, last] => ⟨readCode first, readCode last⟩
  | _ => ⟨readCode w, readCode w⟩

/-- The words of the lines of a table. -/
def words (lines : List String) : List String := lines.flatMap (·.splitOn " ")

/-- The spans of the lines of a table. -/
def table (lines : List String) : List Span := (words lines).map ofWord

/-- Whether a code point lies in one of the spans. -/
def covers (spans : List Span) (n : Nat) : Bool := spans.any (·.contains n)

end Span

end Switchboard
