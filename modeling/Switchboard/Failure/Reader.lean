import Switchboard.Failure.Basic
/-!
# Reading notices

A notice is read back from its text: from an object of its three fields, in any order and among
others, or from an array of the three. A kind is a string, or an object whose one member is named
for the kind and is `null`.
-/

namespace Switchboard

open Json Ascii

/-- The refusal of a name that is no kind's. -/
def Failure.Kind.unknown (name : String) : String :=
  "unknown variant `" ++ name ++ "`, expected one of "
    ++ ", ".intercalate (Failure.Kind.all.map fun k => "`" ++ k.name ++ "`")

/-- Reads the name of a kind. -/
def Failure.Kind.readName (s : Bytes) : Except Fault (Failure.Kind × Bytes) := do
  let (name, rest) ← expectString "variant identifier" s
  match Failure.Kind.ofName? name with
  | some kind => pure (kind, rest)
  | none => .error (refuse (Failure.Kind.unknown name) rest)

/-- Reads a kind. -/
def Failure.Kind.read (s : Bytes) : Except Fault (Failure.Kind × Bytes) :=
  match skipSpace s with
  | [] => .error (.behind .endInValue [])
  | b :: rest =>
    if b = quote then Failure.Kind.readName (b :: rest)
    else if b = openBrace then do
      let (kind, rest) ← Failure.Kind.readName rest
      let rest ← skipColon rest
      match skipSpace rest with
      | [] => .error (.behind .endInValue [])
      | c :: tail =>
        if c = 0x6E then
          let rest ← skipIdent nullTail tail
          match skipSpace rest with
          | [] => .error (.before .endInObject [])
          | d :: tail =>
            if d = closeBrace then pure (kind, tail)
            else .error (.before .expectedValue (d :: tail))
        else .error (wrongType "unit" (c :: tail))
    else .error (.behind .expectedValue (b :: rest))

/-- The kind that a value names. -/
def Failure.Kind.ofValue : Value → Except String Failure.Kind
  | .string name => named name
  | .object [(name, payload)] => do
    let kind ← named name
    match payload with
    | .null => .ok kind
    | v => .error ("invalid type: " ++ v.describe ++ ", expected unit")
  | .object _ => .error "invalid value: map, expected map with a single key"
  | v => .error ("invalid type: " ++ v.describe ++ ", expected string or map")
where
  /-- The kind of a name. -/
  named (name : String) : Except String Failure.Kind :=
    match Failure.Kind.ofName? name with
    | some kind => .ok kind
    | none => .error (Failure.Kind.unknown name)

namespace Notice

/-- What has been read of a notice. -/
structure Parts where
  kind : Option Failure.Kind
  message : Option String
  details : Option Value

/-- Reads one member behind its name. -/
def readMember (name : String) (parts : Parts) (s : Bytes) : Except Fault (Parts × Bytes) :=
  if name = "code" then
    if parts.kind.isSome then .error (duplicateField name s)
    else do
      let (kind, rest) ← Failure.Kind.read (← skipColon s)
      pure ({ parts with kind := some kind }, rest)
  else if name = "message" then
    if parts.message.isSome then .error (duplicateField name s)
    else do
      let (message, rest) ← expectString "a string" (← skipColon s)
      pure ({ parts with message := some message }, rest)
  else if name = "details" then
    if parts.details.isSome then .error (duplicateField name s)
    else do
      let (details, rest) ← readValue (maxDepth - 1) (← skipColon s)
      pure ({ parts with details := some details }, rest)
  else do pure (parts, ← skipMember s)

/-- The notice of the members that were read, or the first that is missing. -/
def ofParts : Parts → Except String Notice
  | ⟨none, _, _⟩ => .error "code"
  | ⟨_, none, _⟩ => .error "message"
  | ⟨_, _, none⟩ => .error "details"
  | ⟨some kind, some message, some details⟩ => .ok ⟨kind, message, details⟩

/-- Reads a notice from an object behind its brace. -/
def readObject (s : Bytes) : Except Fault (Notice × Bytes) := do
  let (parts, rest) ← foldMembers readMember (s.length + 1) true ⟨none, none, none⟩ s
  match ofParts parts with
  | .error name => .error (refuse ("missing field `" ++ name ++ "`") (givenUp rest))
  | .ok notice => pure (notice, ← endObject rest)

/-- Finds the element of an array that is the `seen`-th after the first. -/
def expectElement (seen : Nat) (s : Bytes) : Except Fault Bytes := do
  match ← nextElement (seen = 0) s with
  | some rest => pure rest
  | none =>
    .error (refuse ("invalid length " ++ toString seen
      ++ ", expected struct ControlError with 3 elements") (arrayGivenUp s))
where
  /-- The text behind an array whose reading was given up at its end. -/
  arrayGivenUp (s : Bytes) : Bytes :=
    match skipSpace s with
    | [] => []
    | _ :: rest => rest

/-- Reads a notice from an array behind its bracket. -/
def readArray (s : Bytes) : Except Fault (Notice × Bytes) := do
  let (kind, rest) ← Failure.Kind.read (← expectElement 0 s)
  let (message, rest) ← expectString "a string" (← expectElement 1 rest)
  let (details, rest) ← readValue (maxDepth - 1) (← expectElement 2 rest)
  pure (⟨kind, message, details⟩, ← endArray rest)

/-- The notice that a text holds. -/
def parse (text : Bytes) : Except Fault Notice := do
  let (notice, rest) ←
    match skipSpace text with
    | [] => .error (.behind .endInValue [])
    | b :: rest =>
      if b = openBrace then readObject rest
      else if b = openBracket then readArray rest
      else .error (wrongType "struct ControlError" (b :: rest))
  endText rest
  pure notice

end Notice

end Switchboard
