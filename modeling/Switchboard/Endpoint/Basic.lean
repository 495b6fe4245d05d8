import Switchboard.Failure.Basic
import Switchboard.Settings
import Switchboard.Wire.Socket
/-!
# Endpoints

An endpoint is one WebSocket connection with a queue in each direction. A reader takes messages
from the socket and puts their frames into the inbound queue; a writer takes frames from the
outbound queue and writes them, and pings at regular times. Both share one lifetime: whoever fails
first ends it, and it ends too when someone asks for that or when nothing is left that could send.
After its end the writer still writes what was queued, then a close message, and hangs up.

This module holds the state of an endpoint and what is done to it from outside. The state keeps a
record of what has happened, so that what a run did can be read off the state it led to. Times are
in nanoseconds.
-/

namespace Switchboard

/-- A line of the log. -/
structure LogEntry where
  severity : Severity
  text : String
  deriving DecidableEq, Repr

namespace Endpoint

/-- Why a lifetime ended. -/
inductive Cause
  /-- Someone asked for it, with a close code. -/
  | closed (code : Wire.CloseCode)
  /-- The scope that the endpoint lives in ended. -/
  | scopeEnded
  /-- The other side closed. -/
  | remoteClosed
  | remoteFinished
  | readFailed
  | tooLarge
  /-- No pong came in time. -/
  | silent
  /-- A frame arrived that nobody will take. -/
  | unwanted
  | writeFailed
  /-- A write was suspended for too long. -/
  | writeLate
  /-- Nothing is left that could send. -/
  | abandoned
  deriving DecidableEq, Repr

/-- The end of a lifetime. -/
structure Ending where
  time : Nat
  cause : Cause
  deriving DecidableEq, Repr

/-- What the reader does. -/
inductive Reader
  | listening
  /-- It holds a frame for which the inbound queue has no room yet. -/
  | offering (frame : Bytes)
  | stopped
  deriving DecidableEq, Repr

/-- Who holds the receiving end of the inbound queue. -/
inductive Consumer
  /-- Nobody has asked for it yet. -/
  | untaken
  | taken
  | gone
  deriving DecidableEq, Repr

/-- What a writer does on its way out. A message that is being written lies in the slot; another
one has to wait until the slot is empty. -/
inductive Farewell
  /-- It takes the next frame out of the queue. -/
  | fetch
  /-- A frame waits for the slot. -/
  | wait (frame : Bytes)
  /-- The slot holds a frame. -/
  | flush
  /-- The close message waits for the slot. -/
  | waitClose
  /-- The slot holds the close message. -/
  | flushClose
  | hangUp
  deriving DecidableEq, Repr

/-- What the writer does. -/
inductive Writer
  | idle
  /-- The message in the slot has to be written before a time. -/
  | writing (deadline : Nat)
  /-- The rest has to be done before a time; the close code is chosen. -/
  | leaving (code : Wire.CloseCode) (stage : Farewell) (deadline : Nat)
  | stopped
  deriving DecidableEq, Repr

/-- A send that waits for room in the outbound queue. -/
structure Waiting where
  ticket : Nat
  frame : Bytes
  deriving DecidableEq, Repr

/-- How far a shutdown has come. -/
inductive Shutdown
  | unasked
  /-- The writer has until a time. -/
  | waiting (deadline : Nat)
  /-- The writer is gone and the reader is waited for. -/
  | joining
  | finished
  deriving DecidableEq, Repr

/-- What can go wrong with a writer. -/
inductive Mishap
  | writeFailed
  | writeLate
  | farewellLate
  | aborted
  deriving DecidableEq, Repr

end Endpoint

open Endpoint in
/-- An endpoint. -/
structure Endpoint where
  settings : Settings
  /-- When it began. -/
  born : Nat
  /-- The end of its lifetime, once that has come. -/
  ending : Option Ending
  /-- The close code that was asked for first. -/
  requested : Option Wire.CloseCode
  /-- What the socket holds for the reader. -/
  arrivals : List Wire.Arrival
  reader : Reader
  /-- When the last pong was taken; at first when the endpoint began. -/
  heard : Nat
  inbound : List Bytes
  consumer : Consumer
  outbound : List Bytes
  /-- The sends that wait, the one that came first in front. -/
  waiting : List Waiting
  writer : Writer
  /-- How many pings were due and taken up. -/
  pings : Nat
  /-- The message that is being written. -/
  slot : Option Wire.Message
  flow : Wire.Flow
  shutdown : Shutdown
  /-- Whether the endpoint's owner still holds it. -/
  isOwned : Bool
  /-- How many others hold its sending side. -/
  handles : Nat
  /-- What arrived and was taken by the reader. -/
  taken : List Wire.Arrival
  /-- The frames that were received out of the inbound queue. -/
  received : List Bytes
  /-- The frames that arrived and that nobody will receive. -/
  unreceived : List Bytes
  /-- The sends that succeeded, each with its ticket. -/
  accepted : List Waiting
  /-- The sends that failed. -/
  refused : List Waiting
  /-- The sends whose callers went away while they waited. -/
  withdrawn : List Waiting
  /-- How many sends were made. -/
  tickets : Nat
  /-- The frames that were accepted and that will not be written. -/
  unwritten : List Bytes
  /-- What was done to the socket, each with its time. -/
  written : List (Nat × Wire.Output)
  mishaps : List Mishap
  log : List LogEntry
  deriving Repr

namespace Endpoint

/-! ### Beginning -/

/-- Why an endpoint cannot begin: a queue must have room for a frame. -/
def noRoomMessage : String := "mpsc bounded channel requires buffer > 0"

/-- Whether both queues have room. -/
def hasRoom (s : Settings) : Bool := 0 < s.outboundCapacity && 0 < s.inboundCapacity

/-- A new endpoint. Without a time between pings its writer cannot begin. -/
def start (settings : Settings) (now : Nat) : Endpoint where
  settings := settings
  born := now
  ending := none
  requested := none
  arrivals := []
  reader := .listening
  heard := now
  inbound := []
  consumer := .untaken
  outbound := []
  waiting := []
  writer := if settings.pingPeriod.toNanos = 0 then .stopped else .idle
  pings := 0
  slot := none
  flow := .open
  shutdown := .unasked
  isOwned := true
  handles := 0
  taken := []
  received := []
  unreceived := []
  accepted := []
  refused := []
  withdrawn := []
  tickets := 0
  unwritten := []
  written := []
  mishaps := []
  log := []

/-! ### What is seen of an endpoint -/

/-- Whether the lifetime has ended. -/
def isDone (e : Endpoint) : Bool := e.ending.isSome

/-- When the reader gives up unless a pong comes. -/
def readDeadline (e : Endpoint) : Nat := e.heard + e.settings.pongWait.toNanos

/-- When the next ping is due. -/
def nextPing (e : Endpoint) : Nat := e.born + (e.pings + 1) * e.settings.pingPeriod.toNanos

/-- How long one write may take. -/
def writeWait (e : Endpoint) : Nat := e.settings.writeWait.toNanos

/-- How many frames the outbound queue still has room for. -/
def room (e : Endpoint) : Nat := e.settings.outboundCapacity - e.outbound.length

/-- Whether anything is left that could send. -/
def hasSender (e : Endpoint) : Bool := e.isOwned || 0 < e.handles || !e.waiting.isEmpty

/-- Whether the outbound queue takes no more frames. -/
def isClosed (e : Endpoint) : Bool :=
  match e.writer with
  | .idle => false
  | .writing _ => false
  | .leaving _ _ _ => true
  | .stopped => true

/-! ### What is done to an endpoint -/

/-- Adds a line to the log. -/
def note (e : Endpoint) (severity : Severity) (text : String) : Endpoint :=
  { e with log := e.log ++ [⟨severity, text⟩] }

/-- Ends the lifetime, unless it has ended. -/
def finish (e : Endpoint) (now : Nat) (cause : Cause) : Endpoint :=
  match e.ending with
  | some _ => e
  | none => { e with ending := some ⟨now, cause⟩ }

/-- Asks for a close code. The first one asked for stays. -/
def request (e : Endpoint) (code : Wire.CloseCode) : Endpoint :=
  match e.requested with
  | some _ => e
  | none => { e with requested := some code }

/-- Ends the lifetime and asks for a close code. -/
def close (e : Endpoint) (now : Nat) (code : Wire.CloseCode) : Endpoint :=
  (e.request code).finish now (.closed code)

/-- The scope that the endpoint lives in ends. -/
def cancel (e : Endpoint) (now : Nat) : Endpoint := e.finish now .scopeEnded

/-- Something arrives at the socket. -/
def arrive (e : Endpoint) (a : Wire.Arrival) : Endpoint := { e with arrivals := e.arrivals ++ [a] }

/-- How a send began. -/
inductive Sending
  | finished (success : Bool)
  | waits (ticket : Nat)
  deriving DecidableEq, Repr

/-- Sends a frame. It is refused once the lifetime has ended, and waits while there is no room or
while others wait that the room is for. -/
def send (e : Endpoint) (frame : Bytes) : Sending × Endpoint :=
  let w : Waiting := ⟨e.tickets, frame⟩
  let e := { e with tickets := e.tickets + 1 }
  if e.isDone || e.isClosed then (.finished false, { e with refused := e.refused ++ [w] })
  else if e.waiting.length < e.room then
    (.finished true, { e with outbound := e.outbound ++ [frame], accepted := e.accepted ++ [w] })
  else (.waits w.ticket, { e with waiting := e.waiting ++ [w] })

/-- A send that waits is given up by its caller. -/
def withdraw (e : Endpoint) (ticket : Nat) : Endpoint :=
  { e with
    waiting := e.waiting.filter (·.ticket ≠ ticket)
    withdrawn := e.withdrawn ++ e.waiting.filter (·.ticket = ticket) }

/-- Hands out the receiving end of the inbound queue, once. -/
def takeInbound (e : Endpoint) : Bool × Endpoint :=
  match e.consumer with
  | .untaken => (true, { e with consumer := .taken })
  | _ => (false, e)

/-- What receiving gives. -/
inductive Receipt
  | frame (f : Bytes)
  | pending
  | ended
  deriving DecidableEq, Repr

/-- Receives the next frame. The end shows only when the queue is empty and nothing can fill it. -/
def receive (e : Endpoint) : Receipt × Endpoint :=
  match e.inbound with
  | f :: rest => (.frame f, { e with inbound := rest, received := e.received ++ [f] })
  | [] => (if e.reader = .stopped then .ended else .pending, e)

/-- The receiving end of the inbound queue is dropped, with what it holds. -/
def dropInbound (e : Endpoint) : Endpoint :=
  { e with consumer := .gone, inbound := [], unreceived := e.unreceived ++ e.inbound }

/-- The owner lets go of the endpoint, and of the inbound queue unless that was handed out. -/
def dropOwner (e : Endpoint) : Endpoint :=
  let e := { e with isOwned := false }
  if e.consumer = .untaken then e.dropInbound else e

/-- Another holder of the sending side. -/
def addHandle (e : Endpoint) : Endpoint := { e with handles := e.handles + 1 }

/-- A holder of the sending side lets go of it. -/
def dropHandle (e : Endpoint) : Endpoint := { e with handles := e.handles - 1 }

/-- The socket changes how it takes what is written. -/
def setFlow (e : Endpoint) (flow : Wire.Flow) : Endpoint := { e with flow := flow }

/-- The owner asks for the endpoint's end and waits for it; the writer has one write's time. -/
def shutDown (e : Endpoint) (now : Nat) : Endpoint :=
  { e.close now Wire.CloseCode.normal with shutdown := .waiting (now + e.writeWait) }

end Endpoint

end Switchboard
