import Switchboard.Yaml.Event
/-!
# Documents of YAML

A document is the run of its nodes' parts, in order; an alias points at the part that its anchor
stands on. What is wrong further on in a text is noted and shows only to a reader that gets there.
-/

namespace Switchboard.Yaml

/-- A part of a document. -/
inductive Part
  /-- The text holds no document. -/
  | void
  /-- The node that begins at a part with the given number. -/
  | alias (target : Nat)
  | scalar (tag : Option (List Char)) (text : List Char) ( isPlain : Bool)
  | openSequence
  | openMapping
  | closeSequence
  | closeMapping
  deriving DecidableEq, Repr

/-- The first document of a text. -/
structure Document where
  parts : List Part
  /-- Whether the document was read to its end. -/
  isComplete : Bool
  /-- Whether nothing but the end of the text follows it. -/
  isLast : Bool
  deriving DecidableEq, Repr

namespace Document

/-- The anchors so far: each name with its number, and each number with the part it stands on. A
name keeps its number only until it is given again. -/
structure Anchors where
  numbers : List (List Char × Nat)
  targets : List (Nat × Nat)

namespace Anchors

/-- Notes an anchor on the part with the given number. -/
def add (a : Anchors) (name : Option (List Char)) (part : Nat) : Anchors :=
  match name with
  | none => a
  | some name =>
    let number := a.numbers.length
    ⟨(name, number) :: a.numbers.filter (·.1 ≠ name),
      (number, part) :: a.targets.filter (·.1 ≠ number)⟩

end Anchors

/-- The parts of a document, with aliases by their anchors' numbers. -/
structure Parts where
  /-- The last part first. -/
  parts : List Part
  anchors : Anchors
  isComplete : Bool
  isLast : Bool

/-- Takes the parts of the first document out of events. -/
def collect : List Event → Parts → Parts
  | [], p => p
  | .documentStart :: es, p => collect es p
  | .documentEnd :: es, p => { p with isComplete := true, isLast := es = [.textEnd] }
  | .textEnd :: _, p =>
    { p with
      parts := if p.parts.isEmpty then [.void] else p.parts
      isComplete := true
      isLast := true }
  | .alias name :: es, p =>
    match p.anchors.numbers.find? (·.1 = name) with
    | some (_, number) => collect es { p with parts := .alias number :: p.parts }
    | none => p
  | .scalar anchor tag text isPlain :: es, p =>
    collect es { p with
      parts := .scalar tag text isPlain :: p.parts
      anchors := p.anchors.add anchor p.parts.length }
  | .openSequence anchor :: es, p =>
    collect es { p with
      parts := .openSequence :: p.parts
      anchors := p.anchors.add anchor p.parts.length }
  | .openMapping anchor :: es, p =>
    collect es { p with
      parts := .openMapping :: p.parts
      anchors := p.anchors.add anchor p.parts.length }
  | .closeSequence :: es, p => collect es { p with parts := .closeSequence :: p.parts }
  | .closeMapping :: es, p => collect es { p with parts := .closeMapping :: p.parts }

/-- The first document of a text. -/
def read (text : String) : Document :=
  let p := collect (Event.ofTokens (Token.scan text.toList)) ⟨[], ⟨[], []⟩, false, false⟩
  let target (number : Nat) : Nat := ((p.anchors.targets.find? (·.1 = number)).map (·.2)).getD 0
  let parts := p.parts.reverse.map fun part =>
    match part with
    | .alias number => .alias (target number)
    | part => part
  ⟨parts, p.isComplete, p.isLast⟩

end Document

end Switchboard.Yaml
