import Switchboard.Text.Composition
import Switchboard.Text.Direction
import Switchboard.Url.Address
import Switchboard.Url.Idna.Table
import Switchboard.Url.Percent
import Switchboard.Url.Punycode
/-!
# International host names

A host name is brought into one form before it is written in ASCII: letters lose their case, wide
and otherwise styled forms become plain ones, letters are joined with their marks, some characters
vanish and some are refused. A label that is then not ASCII is written in punycode behind `xn--`,
and a label that comes in that form must hold a name that is already in its one form.
-/

namespace Switchboard.Url.Idna

/-! ### The one form -/

/-- What becomes of a character. -/
inductive Fate
  | keep
  | become (s : List Char)
  | refuse
  deriving DecidableEq, Repr

/-- What becomes of a character outside ASCII. -/
def fateOfWide (c : Char) : Fate :=
  let n := c.toNat
  if Span.covers ignored n then .become []
  else if Span.covers refused n then .refuse
  else
    match shifts.findSome? (·.image? n) with
    | some target => .become [Char.ofNat target]
    | none =>
      match formRuns.findSome? (·.form? n) with
      | some form => .become form
      | none => .keep

/-- What becomes of a character. -/
def fate (c : Char) : Fate :=
  if c.toNat < 0x80 then
    if c.isUpper then .become [c.toLower] else .keep
  else fateOfWide c

/-- The characters that a character becomes, or nothing when it is refused. -/
def spell (c : Char) : Option (List Char) :=
  match fate c with
  | .keep => some [c]
  | .become s => some s
  | .refuse => none

/-- The one form of a name, or nothing when a character of it is refused. -/
def normalize (s : List Char) : Option (List Char) :=
  (s.mapM spell).map fun parts => Composition.compose parts.flatten

/-! ### Labels -/

/-- The sign of a label in punycode. -/
def sign : List Char := "xn--".toList

/-- Whether all characters are ASCII. -/
def isAscii (s : List Char) : Bool := s.all (·.toNat < 0x80)

/-- Whether a mark stands where a label begins. -/
def beginsWithMark (label : List Char) : Bool :=
  label.head?.any fun c => Span.covers marks c.toNat

/-- The two characters that keep letters apart or bring them together. -/
def isJoint (c : Char) : Bool := c.toNat = 0x200C || c.toNat = 0x200D

/-- The place of the mark that takes a letter's vowel away. -/
def vowelKillerPlace : Nat := 9

/-- Whether each joint stands behind a mark that takes a vowel away. -/
def hasSoundJoints (label : List Char) : Bool :=
  (label.zip (none :: label.map some)).all fun (c, before) =>
    !isJoint c || before.any fun b => Composition.place b = vowelKillerPlace

/-- Whether a label in its one form may be part of a name. -/
def isSound (label : List Char) : Bool := !beginsWithMark label && hasSoundJoints label

/-- What a label says: itself, or what it holds in punycode. -/
def meaning (label : List Char) : Option (List Char) :=
  if label.take 4 = sign then
    match Punycode.decode (label.drop 4) with
    | none => none
    | some inner =>
      if inner.isEmpty || isAscii inner || !isAscii label then none
      else if normalize inner = some inner && !inner.contains '.' then some inner
      else none
  else some label

/-- The ASCII form of a label that says something. -/
def labelToAscii (label : List Char) : List Char :=
  if isAscii label then label else sign ++ Punycode.encode label

/-! ### Names -/

/-- An ASCII character that no host name holds. -/
def isForbidden (c : Char) : Bool :=
  Percent.control c || " #%/:<>?@[\\]^|".toList.contains c

/-- The ASCII form of a host name. -/
def toAscii (host : List Char) : Option (List Char) := do
  let labels ← (Address.splitAt '.' (← normalize host)).mapM meaning
  if !labels.all isSound then none
  if Direction.hasRightward labels.flatten && !labels.all Direction.isUniform then none
  let name := ['.'].intercalate (labels.map labelToAscii)
  if name.any isForbidden then none else some name

end Switchboard.Url.Idna
