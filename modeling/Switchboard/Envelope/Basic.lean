import Switchboard.Json.Printer
/-!
# Envelopes

A client and the switchboard talk in envelopes: a channel's label and a payload, which is JSON text
that is carried and not read. The label `_control` is kept for the switchboard's own notices.
-/

namespace Switchboard

/-- A payload on its way to or from a channel. -/
structure Envelope where
  channel : String
  payload : Bytes
  deriving DecidableEq, Repr

namespace Envelope

/-- The label of the switchboard's notices. No channel has it. -/
def controlLabel : String := "_control"

/-- Whether an envelope is a notice of the switchboard. -/
def isControl (e : Envelope) : Bool := e.channel = controlLabel

/-- What stands in front of the label: a brace, the member's name and a colon. -/
def opening : Bytes := Utf8.encode "\x7b\"channel\":"

/-- What stands between the label and the payload. -/
def middle : Bytes := Utf8.encode ",\"payload\":"

/-- What stands behind the payload. -/
def closing : Bytes := Utf8.encode "\x7d"

/-- The text that an empty payload is written as, and that a missing one is read as. -/
def nullText : Bytes := Utf8.encode "null"

/-- The payload as it is written. -/
def written (e : Envelope) : Bytes := if e.payload.isEmpty then nullText else e.payload

/-- The frame of an envelope. The payload's bytes are put in as they are. -/
def encode (e : Envelope) : Bytes :=
  opening ++ Json.renderString e.channel ++ middle ++ e.written ++ closing

/-- The length of an envelope's frame, found without writing the frame. -/
def encodedLength (e : Envelope) : Nat :=
  11 + (Json.renderString e.channel).length + 11
    + (if e.payload.isEmpty then 4 else e.payload.length) + 1

end Envelope

end Switchboard
