import Switchboard.Text.Ascii
/-!
# Header fields

Header fields are name and value pairs in the order in which they were appended. Names hold no
upper-case letters, so that equal names are equal bytes; one name may have several values.
-/

namespace Switchboard.Http

/-- One field. -/
structure Header where
  name : Bytes
  value : Bytes
  deriving DecidableEq, Repr

/-- The fields of a message. -/
structure Headers where
  fields : List Header
  deriving DecidableEq, Repr

/-- A byte that a name may hold. -/
def isTokenByte (b : UInt8) : Bool :=
  Ascii.isAlphanumeric b || (Utf8.encode "!#$%&'*+-.^_`|~").contains b

/-- The greatest length of a name. -/
def maxNameLength : Nat := 65535

/-- The name with its letters in lower case, when it is one. -/
def readName (s : Bytes) : Option Bytes :=
  if !s.isEmpty && s.length ≤ maxNameLength && s.all isTokenByte then some (s.map Ascii.toLower)
  else none

/-- A byte that a value may hold: any but the control characters, of which the tab is allowed. -/
def isValueByte (b : UInt8) : Bool := (0x20 ≤ b && b ≠ Ascii.delete) || b = Ascii.tab

/-- Whether the bytes may be a value. -/
def isValue (s : Bytes) : Bool := s.all isValueByte

/-- Why a pair of bytes is no field. -/
inductive HeaderProblem
  | invalidName
  | invalidValue
  deriving DecidableEq, Repr

/-- The wording of the problem. -/
def HeaderProblem.message : HeaderProblem → String
  | .invalidName => "invalid HTTP header name"
  | .invalidValue => "failed to parse header value"

/-- The field of a name and a value. -/
def Header.read (name value : Bytes) : Except HeaderProblem Header :=
  match readName name with
  | none => .error .invalidName
  | some name => if isValue value then .ok ⟨name, value⟩ else .error .invalidValue

namespace Headers

/-- No fields. -/
def empty : Headers := ⟨[]⟩

/-- The values of a name, in order. -/
def values (h : Headers) (name : Bytes) : List Bytes :=
  (h.fields.filter (·.name = name)).map (·.value)

/-- The first value of a name. -/
def get? (h : Headers) (name : Bytes) : Option Bytes := (h.values name).head?

/-- Whether the name has a value. -/
def contains (h : Headers) (name : Bytes) : Bool := h.fields.any (·.name = name)

/-- Adds a value to those of a name. -/
def append (h : Headers) (name value : Bytes) : Headers := ⟨h.fields ++ [⟨name, value⟩]⟩

/-- Takes away every value of a name. -/
def remove (h : Headers) (name : Bytes) : Headers := ⟨h.fields.filter (·.name ≠ name)⟩

/-- Gives a name one value in place of those it had. -/
def insert (h : Headers) (name value : Bytes) : Headers := (h.remove name).append name value

/-- Gives each name of `other` the values it has there in place of those it had. -/
def extend (h other : Headers) : Headers :=
  ⟨h.fields.filter (fun f => !other.contains f.name) ++ other.fields⟩

/-- The names, each once, in the order of their first values. -/
def names (h : Headers) : List Bytes :=
  h.fields.foldl (fun ns f => if ns.contains f.name then ns else ns ++ [f.name]) []

/-- The fields of pairs of names and values; the first pair that is no field decides. -/
def ofPairs (pairs : List (Bytes × Bytes)) : Except HeaderProblem Headers :=
  Headers.mk <$> pairs.mapM fun p => Header.read p.1 p.2

end Headers

end Switchboard.Http
