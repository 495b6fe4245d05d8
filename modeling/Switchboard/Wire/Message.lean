import Switchboard.Text.Utf8
/-!
# WebSocket messages

A message as a socket hands it over or takes it, what an endpoint makes of one, and the errors of
a socket.
-/

namespace Switchboard.Wire

/-- A close code. -/
abbrev CloseCode := Nat

namespace CloseCode

/-- The connection has done what it was for. -/
def normal : CloseCode := 1000

/-- One side is going away. -/
def goingAway : CloseCode := 1001

/-- The connection broke. This code is never sent. -/
def abnormal : CloseCode := 1006

/-- A message was too large. -/
def tooBig : CloseCode := 1009

end CloseCode

/-- A message. -/
inductive Message
  | text (s : String)
  | binary (data : Bytes)
  | ping (data : Bytes)
  | pong (data : Bytes)
  | close (frame : Option (CloseCode × String))
  /-- A frame that the socket did not take apart. -/
  | raw (data : Bytes)
  deriving DecidableEq, Repr

/-- What an endpoint makes of a message. -/
inductive Content
  | data (frame : Bytes)
  | ping
  | pong
  | close (code : Option CloseCode)
  | other
  deriving DecidableEq, Repr

/-- What an endpoint makes of a message. -/
def Message.content : Message → Content
  | .text s => .data (Utf8.encode s)
  | .binary d => .data d
  | .ping _ => .ping
  | .pong _ => .pong
  | .close frame => .close (frame.map (·.1))
  | .raw _ => .other

/-- The message of a frame: a text when the frame is one, else binary. -/
def Message.ofFrame (frame : Bytes) : Message :=
  match Utf8.decode? frame with
  | some s => .text s
  | none => .binary frame

/-- The ping that an endpoint sends. -/
def Message.emptyPing : Message := .ping []

/-- The close message with a code and a reason. -/
def Message.closing (code : CloseCode) (reason : String) : Message := .close (some (code, reason))

/-- An error of a socket. -/
inductive SocketError
  | messageTooLong (size limit : Nat)
  | tooManyHeaders
  | connectionClosed
  | alreadyClosed
  | attackAttempt
  | resetWithoutClosing
  | sendAfterClosing
  | writeBufferFull
  | noHostName
  | unsupportedScheme
  | textEncoding (reason : String)
  | io (reason : String)
  /-- An error known by its text alone. -/
  | other (text : String)
  /-- An error passed on by a layer around the socket. -/
  | wrapped (inner : SocketError)
  deriving DecidableEq, Repr

namespace SocketError

/-- The wording of an error. -/
def message : SocketError → String
  | messageTooLong size limit =>
    "Space limit exceeded: Message too long: " ++ toString size ++ " > " ++ toString limit
  | tooManyHeaders => "Space limit exceeded: Too many headers"
  | connectionClosed => "Connection closed normally"
  | alreadyClosed => "Trying to work with closed connection"
  | attackAttempt => "Attack attempt detected"
  | resetWithoutClosing => "WebSocket protocol error: Connection reset without closing handshake"
  | sendAfterClosing => "WebSocket protocol error: Sending after closing is not allowed"
  | writeBufferFull => "Write buffer is full"
  | noHostName => "URL error: No host name in the URL"
  | unsupportedScheme => "URL error: URL scheme not supported"
  | textEncoding reason => "UTF-8 encoding error: " ++ reason
  | io reason => "IO error: " ++ reason
  | other text => text
  | wrapped inner => inner.message

/-- Whether the socket refused something for its size. -/
def isCapacity : SocketError → Bool
  | messageTooLong _ _ => true
  | tooManyHeaders => true
  | _ => false

/-- Whether an endpoint sees that something was refused for its size. It looks through one layer
around the socket. -/
def isTooLarge : SocketError → Bool
  | wrapped inner => inner.isCapacity
  | e => e.isCapacity

end SocketError

end Switchboard.Wire
