import Switchboard.Endpoint.Step
import Switchboard.Exchange.Forward
/-!
# Exchanges

An exchange joins a client's endpoint with those of the channels of a gate. One relay reads the
client and one reads each channel; each takes one frame at a time and sends what it gives before it
takes the next. The first relay to end ends the exchange, and so does the end of the scope; the
others are then stopped where they are, and the endpoints are left as they are. An exchange fails
only with a relay that broke off.
-/

namespace Switchboard

namespace Exchange

/-- What a relay does. -/
inductive Relay
  /-- It has not begun. -/
  | idle
  | receiving
  /-- It waits until the other side has room. -/
  | sending (target : Side) (ticket : Nat)
  /-- It has seen the end of what it reads. -/
  | ended
  /-- It broke off, for a reason of which only the text is known. -/
  | broken (reason : String)
  /-- It was stopped with the exchange. -/
  | stopped
  deriving DecidableEq, Repr

/-- One of the two ends of a relay: an endpoint and what reads from it. -/
structure Party where
  endpoint : Endpoint
  relay : Relay
  /-- The frames that the relay has received. -/
  relayed : List Bytes
  deriving Repr

end Exchange

open Exchange in
/-- An exchange. -/
structure Exchange where
  /-- The greatest frame that goes to the client. -/
  limit : Nat
  client : Party
  /-- The channels by label, each label once. -/
  channels : List (String × Party)
  /-- Whether the scope has ended. -/
  isCancelled : Bool
  /-- Whether it is still going on. -/
  isRunning : Bool
  /-- What came of it, once it has ended. -/
  result : Option (Except Failure Unit)
  log : List LogEntry
  deriving Repr

namespace Exchange

/-- The failure of an exchange whose relay broke off. -/
def relayBroken (reason : String) : Failure :=
  .withDetails .internal "routing task failed" [("error", .string reason)]

/-- What the end of a relay means for its exchange. -/
def Relay.result? : Relay → Option (Except Failure Unit)
  | .ended => some (.ok ())
  | .broken reason => some (.error (relayBroken reason))
  | _ => none

/-- An endpoint whose relay has not begun. -/
def Party.idle (e : Endpoint) : Party := ⟨e, .idle, []⟩

/-- The relay begins to read the endpoint's inbound queue. -/
def Party.begin (p : Party) : Party :=
  { p with endpoint := p.endpoint.takeInbound.2, relay := .receiving }

/-- A new endpoint whose inbound queue is read by a relay. -/
def Party.start (settings : Settings) (now : Nat) : Party :=
  (Party.idle (.start settings now)).begin

/-- A new exchange between new endpoints. -/
def start (settings : Settings) (now : Nat) (labels : List String) : Exchange where
  limit := settings.maxMessageSize
  client := .start settings now
  channels := labels.map fun label => (label, .start settings now)
  isCancelled := false
  isRunning := true
  result := none
  log := []

/-- The relays begin. -/
def begin (x : Exchange) : Exchange :=
  { x with
    client := x.client.begin
    channels := x.channels.map fun c => (c.1, c.2.begin)
    isRunning := true }

/-- The labels of the channels. -/
def labels (x : Exchange) : List String := x.channels.map (·.1)

/-- All sides. -/
def sides (x : Exchange) : List Side := .client :: x.labels.map .channel

/-- The party on a side. -/
def party? (x : Exchange) : Side → Option Party
  | .client => some x.client
  | .channel label => (x.channels.find? (·.1 = label)).map (·.2)

/-- Puts a party in its place. -/
def setParty (x : Exchange) (side : Side) (p : Party) : Exchange :=
  match side with
  | .client => { x with client := p }
  | .channel label =>
    { x with channels := x.channels.map fun c => if c.1 = label then (label, p) else c }

/-- Adds what an endpoint has logged since an earlier state of it. -/
def noteFrom (x : Exchange) (old new : Endpoint) : Exchange :=
  { x with log := x.log ++ new.log.drop old.log.length }

/-- Adds a line to the log. -/
def note (x : Exchange) (line : Option LogEntry) : Exchange :=
  { x with log := x.log ++ line.toList }

/-- Puts an endpoint in its place. -/
def setEndpoint (x : Exchange) (side : Side) (e : Endpoint) : Exchange :=
  match x.party? side with
  | some p => (x.setParty side { p with endpoint := e }).noteFrom p.endpoint e
  | none => x

/-- Puts a relay in its place. -/
def setRelay (x : Exchange) (side : Side) (r : Relay) : Exchange :=
  match x.party? side with
  | some p => x.setParty side { p with relay := r }
  | none => x

/-- Does something to the endpoint on a side. -/
def onEndpoint (x : Exchange) (side : Side) (f : Endpoint → Endpoint) : Exchange :=
  match x.party? side with
  | some p => x.setEndpoint side (f p.endpoint)
  | none => x

/-- Does something to the endpoint of every channel. -/
def onChannels (x : Exchange) (f : Endpoint → Endpoint) : Exchange :=
  x.labels.foldl (fun x label => x.onEndpoint (.channel label) f) x

/-- Does something to every endpoint. -/
def onAll (x : Exchange) (f : Endpoint → Endpoint) : Exchange :=
  x.sides.foldl (fun x side => x.onEndpoint side f) x

/-- The scope ends, and with it the endpoints that live in it. -/
def cancel (x : Exchange) (now : Nat) : Exchange :=
  { x with isCancelled := true }.onAll (·.cancel now)

end Exchange

end Switchboard
