import Switchboard.Endpoint.Station
import Switchboard.Exchange.Step
/-!
# An exchange and a clock

As a station runs one endpoint, an exchange is run here with all its endpoints on one clock.
-/

namespace Switchboard.Exchange

/-- The first time after `now` at which something is due. -/
def nextDue (x : Exchange) (now : Nat) : Option Nat :=
  ((x.client.endpoint :: x.channels.map (·.2.endpoint)).filterMap (·.nextDue now)).min?

/-- The moves in the order in which they are tried. -/
def order (x : Exchange) : List Move :=
  x.sides.flatMap (fun side =>
    match x.party? side with
    | some p => (p.endpoint.order false).map (.endpoint side)
    | none => []) ++ x.sides.map .relay ++ .finish :: x.sides.map .join

/-- A bound on the number of moves until an exchange is settled. -/
def effort (x : Exchange) (now : Nat) : Nat :=
  (x.client.endpoint :: x.channels.map (·.2.endpoint)).foldl (fun sum e =>
    sum + 2 * e.effort now + 8 * e.inbound.length + 8 * e.arrivals.length) 32

/-- Makes moves until none is left; `fuel` bounds their number. -/
def settleFrom (now : Nat) : Nat → Exchange → Exchange
  | 0, x => x
  | fuel + 1, x =>
    match x.order.findSome? (x.perform now ·) with
    | some x => settleFrom now fuel x
    | none => x

/-- Makes moves until none is left. -/
def settle (now : Nat) (x : Exchange) : Exchange := settleFrom now (x.effort now) x

/-- An exchange and a clock. -/
structure Station where
  now : Nat
  exchange : Exchange

namespace Station

/-- A new exchange at time zero. -/
def start (settings : Settings) (labels : List String) : Station :=
  ⟨0, (Exchange.start settings 0 labels).settle 0⟩

/-- Does something to the exchange and lets it settle. -/
def act (s : Station) (f : Nat → Exchange → Exchange) : Station :=
  { s with exchange := (f s.now s.exchange).settle s.now }

/-- Lets the clock run to a time, with a stop wherever something is due; `fuel` bounds the stops. -/
def runTo (target : Nat) : Nat → Station → Station
  | 0, s => s
  | fuel + 1, s =>
    match s.exchange.nextDue s.now with
    | some t =>
      let stop := Endpoint.roundUp t
      if stop < target then runTo target fuel ⟨stop, s.exchange.settle stop⟩
      else ⟨target, s.exchange.settle target⟩
    | none => ⟨target, s.exchange.settle target⟩

/-- Lets the clock run for some milliseconds. -/
def advance (s : Station) (millis : Nat) : Station :=
  runTo (s.now + millis * nanosPerMilli) (millis + 1) s

end Station

end Switchboard.Exchange
