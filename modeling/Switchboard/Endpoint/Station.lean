import Switchboard.Endpoint.Step
/-!
# An endpoint and a clock

A station runs one endpoint on a clock of its own. After everything that is done to the endpoint it
makes moves, in one fixed order, until none is left; the clock stops at every time at which
something is due, rounded up to a millisecond.
-/

namespace Switchboard.Endpoint

/-- The first time after `now` at which something is due. -/
def nextDue (e : Endpoint) (now : Nat) : Option Nat :=
  let reading := if e.reader = .listening then [e.readDeadline] else []
  let writing := match e.writer with
    | .idle => [e.nextPing]
    | .writing deadline => [deadline]
    | .leaving _ _ deadline => [deadline]
    | .stopped => []
  let ending := match e.shutdown with
    | .waiting deadline => [deadline]
    | _ => []
  ((reading ++ writing ++ ending).filter (now < ·)).min?

/-- The moves in the order in which a station tries them. A farewell that began before the shutdown
also gives up before it. -/
def order (e : Endpoint) (farewellFirst : Bool) : List Move :=
  let isWriting := match e.writer with
    | .writing _ => true
    | _ => false
  e.waiting.map (.resume ·.ticket) ++ [.read, .deliver, .expireRead, .stopReading, .take, .ping,
      .write, .stopWriting]
    ++ (if isWriting || farewellFirst then [.expireWrite] else []) ++ [.join, .abort, .expireWrite]

/-- A bound on the number of moves until an endpoint is settled. -/
def effort (e : Endpoint) (now : Nat) : Nat :=
  let due := (now - e.born) / e.settings.pingPeriod.toNanos - e.pings
  4 * (e.arrivals.length + e.outbound.length + e.waiting.length + due) + 32

/-- Makes moves until none is left; `fuel` bounds their number. -/
def settle (now : Nat) (farewellFirst : Bool) : Nat → Endpoint → Endpoint
  | 0, e => e
  | fuel + 1, e =>
    match (e.order farewellFirst).findSome? (e.perform now ·) with
    | some e => settle now farewellFirst fuel e
    | none => e

/-- A time rounded up to a millisecond. -/
def roundUp (t : Nat) : Nat := (t + nanosPerMilli - 1) / nanosPerMilli * nanosPerMilli

/-- An endpoint and a clock. -/
structure Station where
  now : Nat
  endpoint : Endpoint
  /-- Whether the writer had begun its farewell when the shutdown began. -/
  farewellFirst : Bool

namespace Station

/-- A new endpoint at time zero. -/
def start (settings : Settings) : Station := ⟨0, .addHandle (.start settings 0), false⟩

/-- Makes moves until none is left. -/
def settle (s : Station) : Station :=
  { s with endpoint :=
    Endpoint.settle s.now s.farewellFirst (s.endpoint.effort s.now) s.endpoint }

/-- Does something to the endpoint and lets it settle. -/
def act (s : Station) (f : Nat → Endpoint → Endpoint) : Station :=
  settle { s with endpoint := f s.now s.endpoint }

/-- Asks for the endpoint's end and lets it settle. -/
def shutDown (s : Station) : Station :=
  let isLeaving := match s.endpoint.writer with
    | .leaving _ _ _ => true
    | _ => false
  { s with farewellFirst := isLeaving }.act fun now e => e.shutDown now

/-- Lets the clock run to a time, with a stop wherever something is due; `fuel` bounds the stops. -/
def runTo (target : Nat) : Nat → Station → Station
  | 0, s => s
  | fuel + 1, s =>
    match s.endpoint.nextDue s.now with
    | some t =>
      if roundUp t < target then runTo target fuel (settle { s with now := roundUp t })
      else settle { s with now := target }
    | none => settle { s with now := target }

/-- Lets the clock run for some milliseconds. -/
def advance (s : Station) (millis : Nat) : Station :=
  runTo (s.now + millis * nanosPerMilli) (millis + 1) s

end Station

end Switchboard.Endpoint
