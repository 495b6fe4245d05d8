import Switchboard.Endpoint.Basic
import Switchboard.Envelope.Decoder
/-!
# What is sent for a frame

A frame from the client is an envelope; its payload goes to the channel that it names. A frame from
a channel goes to the client in an envelope with the channel's label. What cannot be sent on is
answered to the client with a notice, and the exchange goes on.
-/

namespace Switchboard.Exchange

/-- One side of an exchange. -/
inductive Side
  | client
  | channel (label : String)
  deriving DecidableEq, Repr

/-- What is sent for a frame. -/
structure Delivery where
  target : Side
  frame : Bytes
  deriving DecidableEq, Repr

/-- The notice of a failure, for the client. -/
def Delivery.notice (f : Failure) : Delivery := ⟨.client, f.controlFrame⟩

/-- The failure of an envelope for a channel that is not there. -/
def unknownChannel (label : String) : Failure :=
  .withDetails .badInput "unknown channel" [("channel", .string label)]

/-- The failure of a channel's frame that is not JSON. -/
def notJson (label : String) : Failure :=
  .withDetails .internal "upstream frame is not valid JSON" [("channel", .string label)]

/-- The failure of a channel's frame that is too large for the client. -/
def tooLarge (label : String) : Failure :=
  .withDetails .internal "upstream frame exceeds maximum message size" [("channel", .string label)]

/-- What is sent for a frame from the client. No channel is reached under the label of notices. -/
def forClient (labels : List String) (frame : Bytes) : Delivery :=
  match Envelope.decode frame with
  | .error r => .notice (.ofRejection r)
  | .ok e =>
    if e.isControl || !labels.contains e.channel then .notice (unknownChannel e.channel)
    else ⟨.channel e.channel, e.payload⟩

/-- What is sent for a frame from a channel, with the line that is logged when it is a notice. -/
def forChannel (limit : Nat) (label : String) (frame : Bytes) : Delivery × Option LogEntry :=
  if !frame.isEmpty && !Json.isJson frame then
    (.notice (notJson label), some ⟨.warning, "upstream frame is not JSON"⟩)
  else
    let e : Envelope := ⟨label, frame⟩
    if limit < e.encodedLength then
      (.notice (tooLarge label), some ⟨.warning, "upstream frame too large for client"⟩)
    else (⟨.client, e.encode⟩, none)

end Switchboard.Exchange
