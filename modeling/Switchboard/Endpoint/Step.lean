import Switchboard.Endpoint.Basic
/-!
# Steps of an endpoint

What the parts of an endpoint do by themselves. Where a part could go on in more than one way, each
way is a move of its own, and nothing says which comes first; `perform` is a partial function, which
gives nothing for a move that is not possible. A state is settled when no move is.
-/

namespace Switchboard.Endpoint

/-- A move of one part of an endpoint. -/
inductive Move
  /-- The reader takes what arrived next. -/
  | read
  /-- The reader gives up waiting for a pong. -/
  | expireRead
  /-- The reader puts its frame into the inbound queue, or finds that nobody will take it. -/
  | deliver
  /-- The reader stops with the lifetime. -/
  | stopReading
  /-- The writer takes the next frame out of the queue. -/
  | take
  /-- The writer takes up a ping that is due. -/
  | ping
  /-- The writer begins its farewell. -/
  | stopWriting
  /-- The writer goes on with what it is writing. -/
  | write
  /-- The writer gives up what it is writing. -/
  | expireWrite
  /-- A send that waits goes on. -/
  | resume (ticket : Nat)
  /-- The shutdown goes on when the part that it waits for is gone. -/
  | join
  /-- The shutdown gives up waiting for the writer. -/
  | abort
  deriving DecidableEq, Repr

/-! ### The reader -/

/-- The reader stops and ends the lifetime. -/
def stopReader (e : Endpoint) (now : Nat) (cause : Cause) : Endpoint :=
  let e := match e.reader with
    | .offering frame => { e with unreceived := e.unreceived ++ [frame] }
    | _ => e
  { e with reader := .stopped }.finish now cause

/-- The log line of a close message. -/
def noteClose (e : Endpoint) (code : Option Wire.CloseCode) : Endpoint :=
  if code = some Wire.CloseCode.goingAway || code = some Wire.CloseCode.abnormal then
    e.note .debug "peer closed"
  else e.note .info "unexpected close"

/-- The reader stops at something too large. -/
def stopTooLarge (e : Endpoint) (now : Nat) : Endpoint :=
  ((e.note .warning "inbound frame too large").request Wire.CloseCode.tooBig).stopReader now
    .tooLarge

/-- The reader looks at a message. -/
def readMessage (e : Endpoint) (now : Nat) (m : Wire.Message) : Endpoint :=
  match m.content with
  | .data frame =>
    if e.settings.maxMessageSize < frame.length then
      { e with unreceived := e.unreceived ++ [frame] }.stopTooLarge now
    else { e with reader := .offering frame }
  | .pong => { e with heard := now }
  | .close code => (e.noteClose code).stopReader now .remoteClosed
  | .ping => e
  | .other => e

/-- The reader looks at what arrived. -/
def readArrival (e : Endpoint) (now : Nat) (a : Wire.Arrival) : Endpoint :=
  match a with
  | .message m => e.readMessage now m
  | .failure err =>
    if err.isTooLarge then e.stopTooLarge now
    else (e.note .debug "read error").stopReader now .readFailed
  | .finish => (e.note .debug "stream ended").stopReader now .remoteFinished

/-! ### The writer -/

/-- Records what was done to the socket. -/
def record (e : Endpoint) (now : Nat) (o : Wire.Output) : Endpoint :=
  { e with written := e.written ++ [(now, o)] }

/-- Records that something went wrong with the writer. -/
def suffer (e : Endpoint) (m : Mishap) : Endpoint := { e with mishaps := e.mishaps ++ [m] }

/-- The message in the slot reaches the socket. -/
def writeSlot (e : Endpoint) (now : Nat) (m : Wire.Message) : Endpoint :=
  { e with slot := none }.record now (.message m)

/-- The frames that the writer holds besides the queue. -/
def inHand (e : Endpoint) : List Bytes :=
  (e.slot.bind Wire.Message.frame?).toList ++
    match e.writer with
    | .leaving _ (.wait frame) _ => [frame]
    | _ => []

/-- The writer stops. What it holds and what is queued will not be written. -/
def stopWriter (e : Endpoint) : Endpoint :=
  { e with
    writer := .stopped
    slot := none
    outbound := []
    unwritten := e.unwritten ++ e.inHand ++ e.outbound }

/-- The writer begins its farewell: the lifetime ends, the queue closes and the close code is
chosen. -/
def beginFarewell (e : Endpoint) (now : Nat) (cause : Cause) : Endpoint :=
  let code := e.requested.getD Wire.CloseCode.normal
  { e with writer := .leaving code .fetch (now + e.writeWait) }.finish now cause

/-- The writer goes on with the message in its slot, unless the socket suspends it. -/
def writeOn (e : Endpoint) (now : Nat) : Option Endpoint :=
  match e.slot, e.flow with
  | some m, .open => some { e.writeSlot now m with writer := .idle }
  | some _, .failing =>
    some (((e.note .debug "write error").suffer .writeFailed).beginFarewell now .writeFailed)
  | _, _ => none

/-- A farewell at its next stage. -/
def atStage (e : Endpoint) (stage : Farewell) : Endpoint :=
  match e.writer with
  | .leaving code _ deadline => { e with writer := .leaving code stage deadline }
  | _ => e

/-- The writer stops because a frame cannot be written. -/
def failFarewell (e : Endpoint) : Endpoint :=
  (e.suffer .writeFailed).stopWriter

/-- The writer goes on with its farewell, unless the socket suspends it. -/
def farewellOn (e : Endpoint) (now : Nat) (code : Wire.CloseCode) (stage : Farewell) :
    Option Endpoint :=
  match stage, e.slot, e.flow with
  | .fetch, _, _ =>
    match e.outbound with
    | f :: rest => some ({ e with outbound := rest }.atStage (.wait f))
    | [] => some (e.atStage .waitClose)
  | .wait f, none, _ => some ({ e with slot := some (.ofFrame f) }.atStage .flush)
  | .wait _, some m, .open => some (e.writeSlot now m)
  | .wait _, some _, .failing => some e.failFarewell
  | .flush, some m, .open => some ((e.writeSlot now m).atStage .fetch)
  | .flush, some _, .failing => some e.failFarewell
  | .waitClose, none, _ => some ({ e with slot := some (.closing code "") }.atStage .flushClose)
  | .waitClose, some m, .open => some (e.writeSlot now m)
  | .waitClose, some _, .failing =>
    some ((e.suffer .writeFailed).atStage .hangUp)
  | .flushClose, some m, .open => some ((e.writeSlot now m).atStage .hangUp)
  | .flushClose, some _, .failing =>
    some ((e.suffer .writeFailed).atStage .hangUp)
  | .hangUp, some m, .open => some (e.writeSlot now m)
  | .hangUp, none, .open => some (e.record now .hangUp).stopWriter
  | .hangUp, _, .failing => some e.failFarewell
  | _, _, _ => none

/-- The writer goes on with what it is writing. -/
def goOn (e : Endpoint) (now : Nat) : Option Endpoint :=
  match e.writer with
  | .writing _ => e.writeOn now
  | .leaving code stage _ => e.farewellOn now code stage
  | _ => none

/-! ### Moves -/

/-- The place of a send among those that wait. -/
def place? (e : Endpoint) (ticket : Nat) : Option (Nat × Waiting) :=
  (e.waiting.zipIdx.find? (·.1.ticket = ticket)).map fun (w, i) => (i, w)

/-- A send that waits goes on: it is refused once the lifetime has ended, and accepted when there
is room for it and for those before it. -/
def resumeSend (e : Endpoint) (ticket : Nat) : Option (Bool × Endpoint) :=
  match e.place? ticket with
  | none => none
  | some (i, w) =>
    let waiting := e.waiting.filter (·.ticket ≠ ticket)
    if e.isDone || e.isClosed then
      some (false, { e with waiting := waiting, refused := e.refused ++ [w] })
    else if i < e.room then
      some (true, { e with
        waiting := waiting
        outbound := e.outbound ++ [w.frame]
        accepted := e.accepted ++ [w] })
    else none

/-- What a move makes of an endpoint, where it is possible. -/
def perform (now : Nat) (e : Endpoint) : Move → Option Endpoint
  | .read =>
    match e.reader, e.arrivals with
    | .listening, a :: rest =>
      some ({ e with arrivals := rest, taken := e.taken ++ [a] }.readArrival now a)
    | _, _ => none
  | .expireRead =>
    if e.reader = .listening && e.arrivals.isEmpty && e.readDeadline ≤ now then
      some ((e.note .debug "read deadline exceeded").stopReader now .silent)
    else none
  | .deliver =>
    match e.reader with
    | .offering frame =>
      if e.consumer = .gone then some (e.stopReader now .unwanted)
      else if e.inbound.length < e.settings.inboundCapacity then
        some { e with reader := .listening, inbound := e.inbound ++ [frame] }
      else none
    | _ => none
  | .stopReading =>
    match e.ending with
    | some ending => if e.reader = .stopped then none else some (e.stopReader now ending.cause)
    | none => none
  | .take =>
    match e.writer, e.outbound with
    | .idle, f :: rest =>
      some { e with
        outbound := rest
        slot := some (.ofFrame f)
        writer := .writing (now + e.writeWait) }
    | _, _ => none
  | .ping =>
    if e.writer = .idle && e.nextPing ≤ now then
      some { e with
        pings := e.pings + 1
        slot := some .emptyPing
        writer := .writing (now + e.writeWait) }
    else none
  | .stopWriting =>
    if e.writer = .idle then
      match e.ending with
      | some ending => some (e.beginFarewell now ending.cause)
      | none =>
        if e.outbound.isEmpty && !e.hasSender then some (e.beginFarewell now .abandoned) else none
    else none
  | .write => e.goOn now
  | .expireWrite =>
    match e.writer with
    | .writing deadline =>
      if (e.goOn now).isNone && deadline ≤ now then
        some (((e.note .debug "write deadline exceeded").suffer .writeLate).beginFarewell now
          .writeLate)
      else none
    | .leaving _ _ deadline =>
      if (e.goOn now).isNone && deadline ≤ now then
        some ((e.note .debug "close handshake timed out").suffer .farewellLate).stopWriter
      else none
    | _ => none
  | .resume ticket => (e.resumeSend ticket).map (·.2)
  | .join =>
    match e.shutdown with
    | .waiting _ => if e.writer = .stopped then some { e with shutdown := .joining } else none
    | .joining =>
      if e.reader = .stopped then some { e.dropOwner with shutdown := .finished } else none
    | _ => none
  | .abort =>
    match e.shutdown with
    | .waiting deadline =>
      if e.writer ≠ .stopped && deadline ≤ now then
        some { ((e.note .debug "write pump did not finish in time; aborting").suffer
          .aborted).stopWriter with shutdown := .joining }
      else none
    | _ => none

/-- Nothing can move. -/
def Settled (now : Nat) (e : Endpoint) : Prop := ∀ m, e.perform now m = none

end Switchboard.Endpoint
