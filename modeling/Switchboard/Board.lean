import Switchboard.Front
import Switchboard.Session.Step
/-!
# The switchboard

The switchboard as a whole: what it was configured with, its registry of gates, and the sessions
that it has begun. It counts the sessions that are going on; a session is counted from its
beginning until it is over.
-/

namespace Switchboard

/-- The switchboard. -/
structure Board where
  configuration : Configuration
  registry : Registry
  /-- Every session that has begun, in that order. -/
  sessions : List Session
  /-- The number of sessions that are going on, as a machine word. -/
  active : UInt64
  /-- Whether it is being shut down. -/
  isStopping : Bool

namespace Board

/-- A switchboard without sessions. -/
def start (c : Configuration) (registry : Registry) : Board := ⟨c, registry, [], 0, false⟩

/-- What comes of a request. -/
def answer (b : Board) (hasConnection : Bool) (r : Http.Request) : Front.Outcome :=
  Front.answer b.registry b.active.toNat hasConnection r

/-- A client's connection has become a WebSocket, and its session begins. -/
def enter (b : Board) (now : Nat) (gate : Gate) (headers : Http.Headers) : Board :=
  let s := Session.start b.configuration gate headers b.isStopping now
  { b with sessions := b.sessions ++ [s], active := b.active + 1 }

/-- Every session learns that the switchboard is shut down. -/
def stop (b : Board) (now : Nat) : Board :=
  { b with sessions := b.sessions.map (·.stop now), isStopping := true }

/-- Does something to a session from outside. -/
def onSession (b : Board) (i : Nat) (f : Session → Session) : Board :=
  { b with sessions := b.sessions.modify i f }

/-- Puts a session in its place. One that is over now and was not before is counted no more. -/
def setSession (b : Board) (i : Nat) (old new : Session) : Board :=
  { b with
    sessions := b.sessions.set i new
    active := if new.isOver && !old.isOver then b.active - 1 else b.active }

/-- What a move of a session makes of the switchboard, where it is possible. -/
def perform (now : Nat) (b : Board) (i : Nat) (m : Session.Move) : Option Board :=
  b.sessions[i]?.bind fun s => (s.perform now m).map (b.setSession i s ·)

end Board

end Switchboard
