import Switchboard.Envelope.Basic
import Switchboard.Json.Reader
/-!
# Reading envelopes

A frame is read after its newlines have become spaces and the blanks around it have been taken off.
It must be one JSON object. Its member `channel` is read as a value and must be a string; the text
of its member `payload` is cut out; its other members are passed over.
-/

namespace Switchboard.Envelope

open Json

/-- Why a frame is no envelope. -/
inductive Rejection
  | notAnObject
  | missingChannel
  | channelNotString
  | malformed (reason : String)
  deriving DecidableEq, Repr

/-- The wording of a rejection. -/
def Rejection.message : Rejection → String
  | .notAnObject => "frame is not a JSON object"
  | .missingChannel => "frame has no channel"
  | .channelNotString => "channel is not a string"
  | .malformed reason => "malformed frame: " ++ reason

/-- What has been read of an envelope's members. A payload that is there and `null` is
`some none`. -/
structure Parts where
  channel : Option Value
  payload : Option (Option Bytes)

/-- Reads the payload behind its name: the text of the value, or nothing for `null`. -/
def readPayload (s : Bytes) : Except Fault (Option Bytes × Bytes) := do
  let s ← skipColon s
  match skipSpace s with
  | [] => .error (.behind .endInValue [])
  | b :: rest =>
    if b = 0x6E then pure (none, ← skipIdent nullTail rest)
    else
      let (raw, rest) ← captureValue (b :: rest)
      pure (some raw, rest)

/-- Reads one member behind its name. -/
def readMember (name : String) (parts : Parts) (s : Bytes) : Except Fault (Parts × Bytes) :=
  if name = "channel" then
    match parts.channel with
    | some _ => .error (duplicateField name s)
    | none => do
      let (v, rest) ← readValue (maxDepth - 1) (← skipColon s)
      pure (⟨some v, parts.payload⟩, rest)
  else if name = "payload" then
    match parts.payload with
    | some _ => .error (duplicateField name s)
    | none => do
      let (raw, rest) ← readPayload s
      pure (⟨parts.channel, some raw⟩, rest)
  else do pure (parts, ← skipMember s)

/-- Reads the members of an object behind its brace and the end of the text. -/
def readParts (s : Bytes) : Except Fault Parts := do
  let (parts, rest) ← foldMembers readMember (s.length + 1) true ⟨none, none⟩ s
  endText (← endObject rest)
  pure parts

/-- A frame with each newline turned into a space and the blanks at its ends taken off. -/
def normalize (raw : Bytes) : Bytes :=
  Bytes.trim (raw.map fun b => if b = Ascii.newline then Ascii.space else b)

/-- The envelope of the members that were read. -/
def ofParts : Parts → Except Rejection Envelope
  | ⟨none, _⟩ => .error .missingChannel
  | ⟨some (.string label), payload⟩ => .ok ⟨label, (payload.getD none).getD nullText⟩
  | ⟨some _, _⟩ => .error .channelNotString

/-- The envelope that a client's frame holds. -/
def decode (raw : Bytes) : Except Rejection Envelope :=
  let text := normalize raw
  match text with
  | [] => .error .notAnObject
  | b :: rest =>
    if b = Ascii.openBrace then
      match readParts rest with
      | .error fault => .error (.malformed (fault.message text))
      | .ok parts => ofParts parts
    else .error .notAnObject

end Switchboard.Envelope
