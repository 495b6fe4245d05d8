import Switchboard.Session.Basic
/-!
# Steps of a session

What a session does by itself. Before the exchange begins it watches three things at once: the work
in hand, the client's endpoint and its own scope; whichever gives a result first decides. A result
that is there counts even when the deadline has passed, so a session gives up only what has none.
-/

namespace Switchboard.Session

/-- A move of one part of a session. -/
inductive Move
  /-- A move of the exchange or of an endpoint. -/
  | exchange (move : Exchange.Move)
  /-- The session takes the client's first frame and sends the token to the resolver. -/
  | listen
  /-- The session takes the resolver's answer. -/
  | learn
  /-- The next line is dialed. -/
  | dial
  /-- The session looks at the answer to a dial. -/
  | connect (label : String)
  /-- The deadline ends the wait for the token or for the resolver. -/
  | expire
  /-- The deadline ends the dial of a line. -/
  | expireDial (label : String)
  /-- The session finds that the client's endpoint has ended. -/
  | loseClient
  /-- The session finds that its scope has ended. -/
  | loseScope
  /-- The notice of a failure is accepted or refused at last. -/
  | notify
  /-- The session closes everything after its exchange. -/
  | close
  /-- The session finds that everything it waits for is closed. -/
  | finish
  deriving DecidableEq, Repr

/-! ### Why a session is refused -/

/-- The client sent no token in time. -/
def noTokenInTime : Failure := .plain .badInput "timeout waiting for authentication message"

/-- The client closed before it sent a token. -/
def closedWithoutToken : Failure := .plain .communication "client closed before authenticating"

/-- The first frame is no text. -/
def tokenNotText : Failure := .plain .badInput "authentication message is not valid UTF-8"

/-- The first frame is empty. -/
def tokenEmpty : Failure := .plain .unauthorized "missing authentication token"

/-- The resolver did not answer in time. -/
def noAnswerInTime : Failure := .plain .internal "timeout resolving authentication token"

/-- A line did not open in time. -/
def noLineInTime (label : String) : Failure :=
  .withDetails .communication "channel dial timed out" [("channel", .string label)]

/-- The client went away before the exchange began. -/
def clientLeft : Failure := .plain .communication "client left during handshake"

/-- The switchboard is shut down before the exchange began. -/
def shuttingDown : Failure := .plain .communication "hub is shutting down"

/-! ### Refusing -/

/-- Whether a line is dialed and may still open. -/
def LineState.isPending : LineState → Bool
  | .ringing => true
  | .answered _ => true
  | _ => false

/-- A line that does not open any more. -/
def Line.dropPending (l : Line) : Line :=
  if l.state.isPending then { l with state := .dropped } else l

/-- Lets go of every line: those that are dialed do not open any more, and the endpoints of those
that are open have no owner. -/
def dropLines (s : Session) : Session :=
  { s with
    lines := s.lines.map Line.dropPending
    exchange := s.exchange.onChannels Endpoint.dropOwner }

/-- The close code that the client is told when the switchboard is shut down. -/
def announceStop (s : Session) (now : Nat) : Session :=
  if s.isStopping then s.onClient (·.close now Wire.CloseCode.goingAway) else s

/-- A session that is refused ends its scope and waits for the client's endpoint. -/
def dismiss (s : Session) (now : Nat) : Session :=
  { ((s.announceStop now).cancel now).onClient (·.shutDown now) with stage := .refusing }

/-- Sends the client the notice of a failure, and goes on once that is accepted or refused. While
it waits for room the session is at another stage. -/
def tell (s : Session) (f : Failure) (onward : Session → Session) (wait : Nat → Stage) : Session :=
  let s := s.note f.severity "session error"
  match s.client.send f.controlFrame with
  | (.finished _, e) => onward (s.onClient fun _ => e)
  | (.waits ticket, e) => { s.onClient fun _ => e with stage := wait ticket }

/-- Refuses the session: the client is sent a notice, after which its endpoint is shut down. -/
def refuse (s : Session) (now : Nat) (f : Failure) : Session :=
  { s.dropLines with refusal := some f }.tell f (·.dismiss now) .notifying

/-- Refuses the session because of one line; the scope in which the others were dialed ends. -/
def refuseLine (s : Session) (now : Nat) (label : String) (f : Failure) : Session :=
  let s := s.setLine label .failed
  { s with exchange := s.exchange.onChannels (·.cancel now) }.refuse now f

/-! ### Going on -/

/-- Sends a token to the resolver. -/
def ask (s : Session) (now : Nat) (token : String) : Session :=
  match Resolver.address s.configuration.resolverUrl with
  | .error p => s.refuse now p.failure
  | .ok u => { s with stage := .resolving u, asked := s.asked ++ [token] }

/-- Reads the client's first frame. -/
def present (s : Session) (now : Nat) (frame : Bytes) : Session :=
  match Utf8.decode? frame with
  | none => s.refuse now tokenNotText
  | some token => if token.isEmpty then s.refuse now tokenEmpty else s.ask now token

/-- The exchange begins once every line is open. -/
def joinWhenOpen (s : Session) : Session :=
  if s.lines.all (·.state = .open) then
    { s with stage := .joined, exchange := s.exchange.begin }.note .info "session routing"
  else s

/-- The internal token is known, and dialing begins. -/
def prepare (s : Session) (now : Nat) (token : String) : Session :=
  match Dial.forwarded s.headers token with
  | .error f => s.refuse now f
  | .ok fields => { s with stage := .dialing, forwarded := some fields }.joinWhenOpen

/-- The endpoint of a line that opens. It ends at once when the scope has ended. -/
def openEndpoint (s : Session) (now : Nat) : Endpoint :=
  let e := Endpoint.start s.configuration.endpoint now
  if s.exchange.isCancelled then e.cancel now else e

/-- A line opens. -/
def openLine (s : Session) (now : Nat) (label : String) : Session :=
  let channel := (label, Exchange.Party.idle (s.openEndpoint now))
  let x := { s.exchange with channels := s.exchange.channels ++ [channel] }
  ({ s with exchange := x }.setLine label .open).joinWhenOpen

/-- Dials a line. One that leads nowhere fails at once. -/
def dialLine (s : Session) (now : Nat) (l : Line) : Session :=
  let call : Call := ⟨l.label, l.url, s.forwarded.getD .empty⟩
  let s := { s with dialed := s.dialed ++ [call] }
  match Dial.target l.url with
  | .ok _ => s.setLine l.label .ringing
  | .error p => s.refuseLine now l.label (p.failure l.label l.url)

/-- Looks at the answer to a dial. -/
def connectLine (s : Session) (now : Nat) (l : Line) : Option Wire.SocketError → Session
  | none => s.openLine now l.label
  | some e => s.refuseLine now l.label ((Dial.Problem.socket e).failure l.label l.url)

/-- A session after its exchange ends its scope and waits for all endpoints. -/
def closeAll (s : Session) (now : Nat) : Session :=
  let s := (s.announceStop now).cancel now
  { s with stage := .closing, exchange := s.exchange.onAll (·.shutDown now) }

/-- The exchange has ended. If it failed, the client is told before everything is closed. -/
def leave (s : Session) (now : Nat) : Session :=
  match s.exchange.result with
  | some (.error f) => s.tell f (·.closeAll now) .reporting
  | _ => s.closeAll now

/-- Whether every endpoint that is waited for is shut down. -/
def isShutDown (s : Session) : Bool :=
  match s.stage with
  | .refusing => s.client.shutdown = .finished
  | .closing =>
    s.client.shutdown = .finished &&
      s.exchange.channels.all (·.2.endpoint.shutdown = .finished)
  | _ => false

/-- The line that is logged at the end of a session. -/
def farewell (s : Session) : String :=
  if s.refusal.isSome then "session refused" else "session closed"

/-! ### Moves -/

/-- What a move makes of a session, where it is possible. -/
def perform (now : Nat) (s : Session) : Move → Option Session
  | .exchange move => (s.exchange.perform now move).map fun x => { s with exchange := x }
  | .listen =>
    if s.stage = .listening then
      match s.client.receive with
      | (.frame frame, e) => some ((s.onClient fun _ => e).present now frame)
      | (.ended, _) => some (s.refuse now closedWithoutToken)
      | (.pending, _) => none
    else none
  | .learn =>
    match s.stage, s.reply with
    | .resolving u, some reply =>
      match Resolver.outcome u reply with
      | .error f => some (s.refuse now f)
      | .ok token => some (s.prepare now token)
    | _, _ => none
  | .dial =>
    if s.stage = .dialing then (s.lines.find? (·.state = .ready)).map (s.dialLine now ·) else none
  | .connect label =>
    match s.stage, s.line? label with
    | .dialing, some l =>
      match l.state with
      | .answered problem => some (s.connectLine now l problem)
      | _ => none
    | _, _ => none
  | .expire =>
    if now < s.deadline then none
    else
      match s.stage with
      | .listening =>
        if s.client.receive.1 = .pending then some (s.refuse now noTokenInTime) else none
      | .resolving _ => if s.reply.isNone then some (s.refuse now noAnswerInTime) else none
      | _ => none
  | .expireDial label =>
    match s.stage, s.line? label with
    | .dialing, some l =>
      if l.state = .ringing && s.deadline ≤ now then
        some (s.refuseLine now label (noLineInTime label))
      else none
    | _, _ => none
  | .loseClient =>
    if s.isPreparing && s.client.isDone then some (s.refuse now clientLeft) else none
  | .loseScope =>
    if s.isPreparing && s.exchange.isCancelled then some (s.refuse now shuttingDown) else none
  | .notify =>
    match s.stage with
    | .notifying ticket =>
      (s.client.resumeSend ticket).map fun (_, e) => (s.onClient fun _ => e).dismiss now
    | .reporting ticket =>
      (s.client.resumeSend ticket).map fun (_, e) => (s.onClient fun _ => e).closeAll now
    | _ => none
  | .close =>
    if s.stage = .joined && !s.exchange.isRunning then some (s.leave now) else none
  | .finish =>
    if s.isShutDown then
      some ({ s.onClient Endpoint.dropInbound with stage := .over }.note .info s.farewell)
    else none

/-- Nothing can move. -/
def Settled (now : Nat) (s : Session) : Prop := ∀ m, s.perform now m = none

end Switchboard.Session
