import Switchboard.Text.Ascii
/-!
# Labels

A label names a channel of a gate: between 1 and 64 ASCII letters, digits, underscores, hyphens
and dots. Capital letters differ from small ones.
-/

namespace Switchboard.Gate

/-- The greatest length of a label. -/
def maxLabelLength : Nat := 64

/-- A byte that a label may hold. -/
def isLabelByte (b : UInt8) : Bool :=
  Ascii.isAlphanumeric b || b = Ascii.underscore || b = Ascii.minus || b = Ascii.dot

/-- Whether a text is a label. -/
def isLabel (s : String) : Bool :=
  let bytes := Utf8.encode s
  !bytes.isEmpty && bytes.length ≤ maxLabelLength && bytes.all isLabelByte

end Switchboard.Gate
