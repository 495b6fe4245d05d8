import Switchboard.Wire.Message
/-!
# Sockets

What an endpoint sees of its socket: what arrives on it, how it takes what is written to it, and
what was written.
-/

namespace Switchboard.Wire

/-- What a socket hands over. -/
inductive Arrival
  | message (m : Message)
  | failure (e : SocketError)
  /-- The other side will send no more. -/
  | finish
  deriving DecidableEq, Repr

/-- How a socket takes what is written to it. -/
inductive Flow
  | open
  /-- Writes are suspended. -/
  | blocked
  | failing
  deriving DecidableEq, Repr

/-- What an endpoint did to its socket. -/
inductive Output
  | message (m : Message)
  /-- The sending side was closed. -/
  | hangUp
  deriving DecidableEq, Repr

/-- The frame of a message that carries one. -/
def Message.frame? : Message → Option Bytes
  | .text s => some (Utf8.encode s)
  | .binary d => some d
  | _ => none

end Switchboard.Wire
