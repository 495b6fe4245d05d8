import Switchboard.Configuration
import Switchboard.Dial.Request
import Switchboard.Exchange.Step
import Switchboard.Gate.Registry
import Switchboard.Resolver
/-!
# Sessions

A session serves one client at a gate. The client's first frame is its public token, which the
resolver exchanges for an internal one; with that every channel of the gate is dialed, all at once.
Once every line is open an exchange joins the client with the channels. When the exchange ends, or
when something fails before, everything is closed.

All that comes before the exchange has to be done by one deadline. The channels live in the
session's scope, which ends with the session or with the switchboard. The client's endpoint does
not, so that its close code can be chosen before it ends.

This module holds the state of a session and what is done to it from outside.
-/

namespace Switchboard

namespace Session

/-- What has become of the dial of a channel. -/
inductive LineState
  /-- It has not been dialed. -/
  | ready
  /-- It is dialed, and nobody has answered. -/
  | ringing
  /-- The answer has come and was not looked at: nothing, or why there is no connection. -/
  | answered (problem : Option Wire.SocketError)
  /-- It leads to an endpoint of the exchange. -/
  | open
  | failed
  /-- It was given up. -/
  | dropped
  deriving DecidableEq, Repr

/-- The line to a channel. -/
structure Line where
  label : String
  url : Url
  state : LineState
  deriving DecidableEq, Repr

/-- A dial that was begun. -/
structure Call where
  label : String
  url : Url
  /-- The fields that it carries on. -/
  forwarded : Http.Headers
  deriving DecidableEq, Repr

/-- The request of a dial, with a key of the dialer's. -/
def Call.request (c : Call) (key : Bytes) : Http.Request := Dial.request c.url key c.forwarded

/-- How far a session has come. -/
inductive Stage
  /-- It waits for the client's token. -/
  | listening
  /-- It waits for what the resolver at a URL answers. -/
  | resolving (resolver : Url)
  /-- It waits for its lines to open. -/
  | dialing
  /-- It is refused, and the notice of that waits for room. -/
  | notifying (ticket : Nat)
  /-- It is refused, and the client's endpoint is waited for. -/
  | refusing
  /-- The exchange is going on. -/
  | joined
  /-- The exchange has failed, and the notice of that waits for room. -/
  | reporting (ticket : Nat)
  /-- The exchange has ended, and all endpoints are waited for. -/
  | closing
  | over
  deriving DecidableEq, Repr

end Session

open Session in
/-- A session. -/
structure Session where
  configuration : Configuration
  gate : Gate
  /-- The fields of the client's own request. -/
  headers : Http.Headers
  /-- When it began. -/
  born : Nat
  stage : Stage
  /-- The client's endpoint and those of the open lines. -/
  exchange : Exchange
  /-- A line for every channel of the gate. -/
  lines : List Line
  /-- The tokens that were sent to the resolver. -/
  asked : List String
  /-- What came of that, once it is known: nothing when no answer can come. -/
  reply : Option (Option Resolver.Reply)
  /-- The fields that go with every dial, once they are known. -/
  forwarded : Option Http.Headers
  /-- The dials that were begun. -/
  dialed : List Call
  /-- Why the session was refused. -/
  refusal : Option Failure
  /-- Whether the switchboard is being shut down. -/
  isStopping : Bool

namespace Session

/-! ### Beginning -/

/-- The exchange of a session that begins: the client's endpoint alone, its inbound queue in the
session's hands. -/
def beginning (settings : Settings) (now : Nat) (isStopping : Bool) : Exchange where
  limit := settings.maxMessageSize
  client := .idle (Endpoint.start settings now).takeInbound.2
  channels := []
  isCancelled := isStopping
  isRunning := false
  result := none
  log := [⟨.info, "client connected"⟩]

/-- A new session. -/
def start (c : Configuration) (gate : Gate) (headers : Http.Headers) (isStopping : Bool)
    (now : Nat) : Session where
  configuration := c
  gate := gate
  headers := headers
  born := now
  stage := .listening
  exchange := beginning c.endpoint now isStopping
  lines := gate.channels.map fun channel => ⟨channel.1, channel.2, .ready⟩
  asked := []
  reply := none
  forwarded := none
  dialed := []
  refusal := none
  isStopping := isStopping

/-! ### What is seen of a session -/

/-- When the exchange must have begun. -/
def deadline (s : Session) : Nat := s.born + s.configuration.handshakeTimeout.toNanos

/-- The client's endpoint. -/
def client (s : Session) : Endpoint := s.exchange.client.endpoint

/-- Whether the exchange has yet to begin and the session is not refused. -/
def isPreparing (s : Session) : Bool :=
  match s.stage with
  | .listening => true
  | .resolving _ => true
  | .dialing => true
  | _ => false

/-- Whether nothing is left of the session but endpoints that end by themselves. -/
def isOver (s : Session) : Bool := s.stage = .over

/-- The line to a channel. -/
def line? (s : Session) (label : String) : Option Line := s.lines.find? (·.label = label)

/-! ### What is done to a session -/

/-- Puts a line in a state. -/
def setLine (s : Session) (label : String) (state : LineState) : Session :=
  { s with lines := s.lines.map fun l => if l.label = label then { l with state := state } else l }

/-- Adds a line to the log. -/
def note (s : Session) (severity : Severity) (text : String) : Session :=
  { s with exchange := s.exchange.note (some ⟨severity, text⟩) }

/-- Does something to the endpoint on a side. -/
def onEndpoint (s : Session) (side : Exchange.Side) (f : Endpoint → Endpoint) : Session :=
  { s with exchange := s.exchange.onEndpoint side f }

/-- Does something to the client's endpoint. -/
def onClient (s : Session) (f : Endpoint → Endpoint) : Session := s.onEndpoint .client f

/-- The scope of the session ends, and with it the endpoints of the channels. -/
def cancel (s : Session) (now : Nat) : Session :=
  { s with exchange := { s.exchange with isCancelled := true }.onChannels (·.cancel now) }

/-- The switchboard is shut down. -/
def stop (s : Session) (now : Nat) : Session := { s with isStopping := true }.cancel now

/-- The resolver's answer comes, or it is clear that none will. -/
def answer (s : Session) (reply : Option Resolver.Reply) : Session :=
  match s.stage, s.reply with
  | .resolving _, none => { s with reply := some reply }
  | _, _ => s

/-- The answer to a dial comes, or it is clear why none will. -/
def answerDial (s : Session) (label : String) (problem : Option Wire.SocketError) : Session :=
  match s.line? label with
  | some l => if l.state = .ringing then s.setLine label (.answered problem) else s
  | none => s

end Session

end Switchboard
