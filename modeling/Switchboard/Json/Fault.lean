import Switchboard.Text.Decimal
import Switchboard.Text.Ascii
/-!
# Faults in a JSON text

A fault is a problem and the place where it was noticed. While a text is being read a place is the
number of bytes not yet read; `Fault.message` turns it into a line and a column of the text.
-/

namespace Switchboard.Json

/-- What can be wrong with a JSON text. -/
inductive Problem
  | endInList
  | endInObject
  | endInString
  | endInValue
  | expectedColon
  | expectedListCommaOrEnd
  | expectedObjectCommaOrEnd
  | expectedIdent
  | expectedValue
  | invalidEscape
  | invalidNumber
  | numberOutOfRange
  | invalidCodePoint
  | controlCharacter
  | keyNotString
  | loneSurrogate
  | trailingComma
  | trailingCharacters
  | unfinishedSurrogate
  | tooDeep
  /-- The text is well-formed and says something its reader refuses. -/
  | refused (reason : String)
  deriving DecidableEq, Repr

/-- The wording of a problem. -/
def Problem.message : Problem → String
  | .endInList => "EOF while parsing a list"
  | .endInObject => "EOF while parsing an object"
  | .endInString => "EOF while parsing a string"
  | .endInValue => "EOF while parsing a value"
  | .expectedColon => "expected `:`"
  | .expectedListCommaOrEnd => "expected `,` or `]`"
  | .expectedObjectCommaOrEnd => "expected `,` or `\x7d`"
  | .expectedIdent => "expected ident"
  | .expectedValue => "expected value"
  | .invalidEscape => "invalid escape"
  | .invalidNumber => "invalid number"
  | .numberOutOfRange => "number out of range"
  | .invalidCodePoint => "invalid unicode code point"
  | .controlCharacter => "control character (\\u0000-\\u001F) found while parsing a string"
  | .keyNotString => "key must be a string"
  | .loneSurrogate => "lone leading surrogate in hex escape"
  | .trailingComma => "trailing comma"
  | .trailingCharacters => "trailing characters"
  | .unfinishedSurrogate => "unexpected end of hex escape"
  | .tooDeep => "recursion limit exceeded"
  | .refused reason => reason

/-- A line and a column. Lines count from 1; a column is the number of bytes of the line that come
before the place. -/
structure Position where
  line : Nat
  column : Nat
  deriving DecidableEq, Repr

/-- The position after the given bytes. -/
def Position.after (s : Bytes) : Position :=
  ⟨1 + s.count Ascii.newline, (s.reverse.takeWhile (· ≠ Ascii.newline)).length⟩

/-- Where a fault was noticed. -/
inductive Place
  /-- So many bytes of the text were not yet read. -/
  | left (bytes : Nat)
  /-- A position in a text quoted within the text. -/
  | quoted (position : Position)
  deriving DecidableEq, Repr

/-- A problem and where it was noticed. -/
structure Fault where
  problem : Problem
  place : Place
  deriving DecidableEq, Repr

/-- A problem noticed in front of the bytes `rest`. -/
def Fault.before (problem : Problem) (rest : Bytes) : Fault := ⟨problem, .left rest.length⟩

/-- A problem with the first of the bytes `rest`, noticed behind it. -/
def Fault.behind (problem : Problem) (rest : Bytes) : Fault := ⟨problem, .left (rest.length - 1)⟩

/-- The position of a fault in the text it was found in. -/
def Fault.position (text : Bytes) (fault : Fault) : Position :=
  match fault.place with
  | .left n => .after (text.take (text.length - n))
  | .quoted p => p

/-- The wording of a fault found in a text, with its line and column. -/
def Fault.message (text : Bytes) (fault : Fault) : String :=
  let p := fault.position text
  fault.problem.message ++ " at line " ++ toString p.line ++ " column " ++ toString p.column

end Switchboard.Json
