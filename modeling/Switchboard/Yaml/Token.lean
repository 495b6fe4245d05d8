/-!
# Tokens of YAML

The tokens of a text show its structure: indentation becomes tokens that open and close blocks.
-/

namespace Switchboard.Yaml

/-- A token. -/
inductive Token
  | version (major minor : Nat)
  | tagHandle (handle lead : List Char)
  | documentStart
  | documentEnd
  | textEnd
  | blockSequence
  | blockMapping
  | blockEnd
  | openSequence
  | closeSequence
  | openMapping
  | closeMapping
  | blockEntry
  | flowEntry
  | key
  | value
  | alias (name : List Char)
  | anchor (name : List Char)
  | tag (handle suffix : List Char)
  | scalar (text : List Char) ( isPlain : Bool)
  deriving DecidableEq, Repr

end Switchboard.Yaml
