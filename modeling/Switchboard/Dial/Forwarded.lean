import Switchboard.Http.Headers
import Switchboard.Failure.Basic
/-!
# What a dial carries on

A channel is dialed with the header fields of the client's own request, without those that belong
to the client's connection, and with the internal token as the only authorization.
-/

namespace Switchboard.Dial

open Http

/-- The name of the field that carries a token. -/
def authorization : Bytes := Utf8.encode "authorization"

/-- The name of the field that names the server. -/
def host : Bytes := Utf8.encode "host"

def connection : Bytes := Utf8.encode "connection"

def upgrade : Bytes := Utf8.encode "upgrade"

def webSocketVersion : Bytes := Utf8.encode "sec-websocket-version"

def webSocketKey : Bytes := Utf8.encode "sec-websocket-key"

def webSocketExtensions : Bytes := Utf8.encode "sec-websocket-extensions"

def webSocketProtocol : Bytes := Utf8.encode "sec-websocket-protocol"

/-- The fields of the client's connection, which end with it. -/
def ofConnection : List Bytes :=
  [upgrade, connection, webSocketKey, webSocketVersion, webSocketExtensions, webSocketProtocol,
    host]

/-- The value that carries a token. -/
def bearer (token : String) : Bytes := Utf8.encode "Bearer " ++ Utf8.encode token

/-- The fields that go with every dial of a client's session. The token must be fit for a field. -/
def forwarded (client : Headers) (token : String) : Except Failure Headers :=
  if isValue (bearer token) then
    .ok ((ofConnection.foldl Headers.remove client).insert authorization (bearer token))
  else .error (.plain .internal "internal token is not a valid header value")

end Switchboard.Dial
