import Switchboard.Exchange.Basic
/-!
# Steps of an exchange

What the parts of an exchange do by themselves: the moves of its endpoints, those of its relays, and
its own end. As with endpoints, nothing says which of the possible moves comes first.
-/

namespace Switchboard.Exchange

/-- A move of one part of an exchange. -/
inductive Move
  /-- A move of an endpoint, other than that of a send that waits, which its relay makes. -/
  | endpoint (side : Side) (move : Endpoint.Move)
  | relay (side : Side)
  /-- The exchange ends with its scope. -/
  | finish
  /-- The exchange ends with the relay of a side. -/
  | join (side : Side)
  deriving DecidableEq, Repr

/-- Whether a move of an endpoint is left to a relay. -/
def isRelayed : Endpoint.Move → Bool
  | .resume _ => true
  | _ => false

/-- A relay sends, and goes on to receive unless it has to wait. -/
def deliver (x : Exchange) (side : Side) (d : Delivery) : Exchange :=
  match x.party? d.target with
  | none => x
  | some p =>
    match p.endpoint.send d.frame with
    | (.finished _, e) => x.setEndpoint d.target e
    | (.waits ticket, e) => (x.setEndpoint d.target e).setRelay side (.sending d.target ticket)

/-- A relay has received a frame. -/
def receivedBy (x : Exchange) (side : Side) (frame : Bytes) : Exchange :=
  match x.party? side with
  | some p => x.setParty side { p with relayed := p.relayed ++ [frame] }
  | none => x

/-- What a relay sends for a frame from its side, with the line it logs. -/
def forFrame (x : Exchange) (side : Side) (frame : Bytes) : Delivery × Option LogEntry :=
  match side with
  | .client => (forClient x.labels frame, none)
  | .channel label => forChannel x.limit label frame

/-- The line that a relay logs at its end. -/
def endLine : Side → LogEntry
  | .client => ⟨.debug, "client inbound ended"⟩
  | .channel _ => ⟨.debug, "channel inbound ended"⟩

/-- A relay goes on. -/
def relayOn (x : Exchange) (side : Side) : Option Exchange :=
  match x.party? side with
  | none => none
  | some p =>
    match p.relay with
    | .receiving =>
      match p.endpoint.receive with
      | (.frame frame, e) =>
        let (delivery, line) := x.forFrame side frame
        some ((((x.setEndpoint side e).receivedBy side frame).note line).deliver side delivery)
      | (.pending, _) => none
      | (.ended, e) =>
        some (((x.note (some (endLine side))).setEndpoint side e.dropInbound).setRelay side .ended)
    | .sending target ticket =>
      match x.party? target with
      | none => none
      | some q =>
        (q.endpoint.resumeSend ticket).map fun (_, e) =>
          (x.setEndpoint target e).setRelay side .receiving
    | _ => none

/-- Stops the relay of a side: what it waits to send is withdrawn, and what it reads is dropped. -/
def stopRelay (x : Exchange) (side : Side) : Exchange :=
  match x.party? side with
  | none => x
  | some p =>
    match p.relay with
    | .receiving => (x.onEndpoint side Endpoint.dropInbound).setRelay side .stopped
    | .sending target ticket =>
      ((x.onEndpoint target (·.withdraw ticket)).onEndpoint side Endpoint.dropInbound).setRelay side
        .stopped
    | _ => x

/-- The exchange ends with a result: every relay is stopped where it is. -/
def finishWith (x : Exchange) (result : Except Failure Unit) : Exchange :=
  { x.sides.foldl stopRelay x with isRunning := false, result := some result }

/-- What a move makes of an exchange, where it is possible. -/
def perform (now : Nat) (x : Exchange) : Move → Option Exchange
  | .endpoint side move =>
    if isRelayed move then none
    else (x.party? side).bind fun p => (p.endpoint.perform now move).map (x.setEndpoint side ·)
  | .relay side => x.relayOn side
  | .finish => if x.isRunning && x.isCancelled then some (x.finishWith (.ok ())) else none
  | .join side =>
    if x.isRunning then ((x.party? side).bind (·.relay.result?)).map x.finishWith else none

/-- Nothing can move. -/
def Settled (now : Nat) (x : Exchange) : Prop := ∀ m, x.perform now m = none

end Switchboard.Exchange
