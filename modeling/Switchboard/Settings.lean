import Switchboard.Duration
/-!
# Settings of an endpoint

How long an endpoint waits, how much it holds and how large its frames may be.
-/

namespace Switchboard

/-- The settings of one WebSocket endpoint. -/
structure Settings where
  /-- The greatest length of a frame. -/
  maxMessageSize : Nat
  /-- How long the other side may go without answering a ping. -/
  pongWait : Duration
  /-- The time between two pings. -/
  pingPeriod : Duration
  /-- How long one write may take. -/
  writeWait : Duration
  readBufferSize : Nat
  writeBufferSize : Nat
  /-- How long an upgrade may take. -/
  upgradeTimeout : Duration
  /-- How many frames may wait to be written. -/
  outboundCapacity : Nat
  /-- How many frames may wait to be taken. -/
  inboundCapacity : Nat
  deriving DecidableEq, Repr

namespace Settings

/-- The greatest frame unless a settings value says otherwise: 128 million bytes. -/
def maxMessageSizeDefault : Nat := 128000000

/-- The size of a read or write buffer unless a settings value says otherwise. -/
def bufferSizeDefault : Nat := 2048

/-- The settings that both sides of the protocol rely on. -/
def standard : Settings where
  maxMessageSize := maxMessageSizeDefault
  pongWait := .ofSecs 10
  pingPeriod := .ofSecs 9
  writeWait := .ofSecs 16
  readBufferSize := bufferSizeDefault
  writeBufferSize := bufferSizeDefault
  upgradeTimeout := .ofSecs 2
  outboundCapacity := 256
  inboundCapacity := 256

/-- The time between pings for a given wait: nine tenths of it, when nine times it exists. -/
def pingPeriodFor (pongWait : Duration) : Option Duration :=
  (pongWait.mul? 9).map (·.div 10)

/-- The settings with another wait for pongs and the time between pings that goes with it. -/
def withPongWait (s : Settings) (pongWait : Duration) : Option Settings :=
  (pingPeriodFor pongWait).map fun pingPeriod =>
    { s with pongWait := pongWait, pingPeriod := pingPeriod }

end Settings

/-- The limits of one socket. -/
structure SocketLimits where
  readBufferSize : Nat
  writeBufferSize : Nat
  maxMessageSize : Nat
  maxFrameSize : Nat
  deriving DecidableEq, Repr

/-- The limits of a socket that the switchboard dialed: messages and frames are bounded alike. -/
def Settings.socketLimits (s : Settings) : SocketLimits :=
  ⟨s.readBufferSize, s.writeBufferSize, s.maxMessageSize, s.maxMessageSize⟩

end Switchboard
