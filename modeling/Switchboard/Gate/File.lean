import Switchboard.Yaml.Document
import Switchboard.Yaml.Plain
/-!
# Gate files

A gate file names gates, the channels of each gate and the URL of each channel. Anything else in it
is passed over. What has the wrong form is refused with the place where it stands: the names that
lead to it, with points between them.
-/

namespace Switchboard.Gate

/-- The channels of a gate: labels and URLs, not yet looked at. Each label stands once. -/
abbrev Section := List (String × String)

/-- What a gate file says: gates by name, each name once. -/
structure File where
  gates : List (String × Section)
  deriving DecidableEq, Repr

namespace File

open Yaml

/-- Where in a file something stands; at the top there is no name. -/
abbrev Place := Option String

/-- A place one name further in. -/
def Place.child (p : Place) (name : String) : Place :=
  match p with
  | none => some name
  | some p => some (p ++ "." ++ name)

/-- Why a text is no gate file. -/
inductive Fault
  /-- The text is not one document of YAML. -/
  | malformed
  | wrongType (place : Place) (found expected : String)
  | wrongValue (place : Place) (text expected : String)
  | missing (place : Place) (field : String)
  | duplicate (place : Place) (field : String)
  deriving DecidableEq, Repr

/-- A message behind the place it is about. -/
def placed (place : Place) (message : String) : String :=
  match place with
  | none => message
  | some p => p ++ ": " ++ message

/-- The wording of a fault. -/
def Fault.message : Fault → String
  | malformed => "not a single YAML document"
  | wrongType place found expected =>
    placed place ("invalid type: " ++ found ++ ", expected " ++ expected)
  | wrongValue place text expected =>
    placed place ("invalid value: string " ++ Quoted.render text ++ ", expected " ++ expected)
  | missing place field => placed place ("missing field \x60" ++ field ++ "\x60")
  | duplicate place field => placed place ("duplicate field \x60" ++ field ++ "\x60")

/-- Where the reading of a document stands. -/
structure Reader where
  rest : List Part
  /-- How many aliases were followed. -/
  jumps : Nat

/-- The refusal of a part where something else is expected. -/
def refuse (place : Place) (expected : String) : Part → Fault
  | .scalar tag text isPlain =>
    match Meaning.ofScalar tag text isPlain with
    | .ok meaning => .wrongType place meaning.describe expected
    | .error kind => .wrongValue place (String.ofList text) kind
  | .openSequence => .wrongType place "sequence" expected
  | .openMapping => .wrongType place "map" expected
  | _ => .malformed

/-- The next part, an alias followed, with the reading behind it and what comes after the alias.
Aliases are followed at most a hundred times for each part of the document. -/
def enter (doc : List Part) (r : Reader) : Except Fault (Part × Reader × Option (List Part)) :=
  match r.rest with
  | [] => .error .malformed
  | .alias target :: after =>
    if 100 * doc.length < r.jumps + 1 then .error .malformed
    else
      match doc.drop target with
      | part :: inner => .ok (part, ⟨inner, r.jumps + 1⟩, some after)
      | [] => .error .malformed
  | part :: rest => .ok (part, { r with rest := rest }, none)

/-- The reading behind an alias once what it stands for has been read. -/
def leave (r : Reader) (after : Option (List Part)) : Reader :=
  match after with
  | some rest => { r with rest := rest }
  | none => r

/-- A string. Every scalar is one. -/
def readString (doc : List Part) (place : Place) (expected : String) (r : Reader) :
    Except Fault (String × Reader) := do
  match ← enter doc r with
  | (.scalar _ text _, inner, after) => pure (String.ofList text, leave inner after)
  | (part, _, _) => throw (refuse place expected part)

/-- Passes over one node; `depth` counts the nodes that are open. -/
def skipNode (depth : Nat) : List Part → Except Fault (List Part)
  | [] => .error .malformed
  | part :: rest =>
    let depth := match part with
      | .openSequence => depth + 1
      | .openMapping => depth + 1
      | .closeSequence => depth - 1
      | .closeMapping => depth - 1
      | _ => depth
    if depth = 0 then .ok rest else skipNode depth rest

/-- Reads the members of a mapping. Each is read by `member` at the place that its name leads to;
`fuel` bounds their number. -/
def readMembers {σ : Type} (place : Place)
    (member : Place → σ → Reader → Except Fault (σ × Reader)) :
    Nat → σ → Reader → Except Fault (σ × Reader)
  | 0, _, _ => .error .malformed
  | fuel + 1, s, r =>
    match r.rest with
    | [] => .error .malformed
    | .closeMapping :: rest => .ok (s, { r with rest := rest })
    | part :: _ => do
      let name := match part with
        | .scalar _ text _ => String.ofList text
        | _ => "?"
      let (s, r) ← member (place.child name) s r
      readMembers place member fuel s r

/-- Reads a mapping; nothing written is a mapping without members. -/
def readMapping {σ : Type} (doc : List Part) (place : Place) (expected : String)
    (member : Place → σ → Reader → Except Fault (σ × Reader)) (start : σ) (r : Reader) :
    Except Fault (σ × Reader) := do
  match ← enter doc r with
  | (.openMapping, inner, after) =>
    let (s, inner) ← readMembers place member (doc.length + 1) start inner
    pure (s, leave inner after)
  | (.void, inner, after) => pure (start, leave inner after)
  | (.scalar tag text isPlain, inner, after) =>
    if text.isEmpty && isPlain then pure (start, leave inner after)
    else throw (refuse place expected (.scalar tag text isPlain))
  | (part, _, _) => throw (refuse place expected part)

/-- Reads a mapping of which one field counts, and must be there. -/
def readRecord {α : Type} (doc : List Part) (place : Place) (expected field : String)
    (value : Place → Reader → Except Fault (α × Reader)) (r : Reader) :
    Except Fault (α × Reader) := do
  let member (inner : Place) (found : Option α) (r : Reader) :
      Except Fault (Option α × Reader) := do
    let (name, r) ← readString doc place "field identifier" r
    if name = field then
      if found.isSome then throw (.duplicate place field)
      let (a, r) ← value inner r
      pure (some a, r)
    else pure (found, { r with rest := ← skipNode 0 r.rest })
  match ← readMapping doc place expected member none r with
  | (some a, r) => pure (a, r)
  | (none, _) => throw (.missing place field)

/-- Puts a value under a name, in place of the one it had. -/
def put {α : Type} (name : String) (value : α) : List (String × α) → List (String × α)
  | [] => [(name, value)]
  | (n, v) :: rest => if n = name then (n, value) :: rest else (n, v) :: put name value rest

/-- Reads a mapping from names to values; of two values for one name the last counts. -/
def readTable {α : Type} (doc : List Part) (place : Place)
    (value : Place → Reader → Except Fault (α × Reader)) (r : Reader) :
    Except Fault (List (String × α) × Reader) :=
  let member (inner : Place) (table : List (String × α)) (r : Reader) :
      Except Fault (List (String × α) × Reader) := do
    let (name, r) ← readString doc place "a string" r
    let (a, r) ← value inner r
    pure (put name a table, r)
  readMapping doc place "a map" member [] r

/-- Reads a channel: its URL. -/
def readChannel (doc : List Part) (place : Place) (r : Reader) : Except Fault (String × Reader) :=
  readRecord doc place "struct ChannelSection" "url"
    (fun place r => readString doc place "a string" r) r

/-- Reads a gate: its channels. -/
def readGate (doc : List Part) (place : Place) (r : Reader) : Except Fault (Section × Reader) :=
  readRecord doc place "struct GateSection" "channels"
    (fun place r => readTable doc place (readChannel doc) r) r

/-- The gate file that a text is. -/
def parse (text : String) : Except Fault File := do
  let doc := Document.read text
  let (gates, _) ← readRecord doc.parts none "struct GatesFile" "gates"
    (fun place r => readTable doc.parts place (readGate doc.parts) r) ⟨doc.parts, 0⟩
  if doc.isComplete && doc.isLast then pure ⟨gates⟩ else throw .malformed

end File

end Switchboard.Gate
