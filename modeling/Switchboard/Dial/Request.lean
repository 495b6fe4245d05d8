import Switchboard.Dial.Forwarded
import Switchboard.Http.Message
import Switchboard.Url.Basic
import Switchboard.Wire.Message
/-!
# Dialing a channel

A channel is dialed by a request at its URL that asks for a WebSocket. The fields that the dialer
needs come first; then every name of the forwarded fields takes the values it has there.
-/

namespace Switchboard.Dial

open Http

/-- The fields that every dial begins with. -/
def ownFields (u : Url) (key : Bytes) : Headers :=
  ⟨[⟨host, Utf8.encode (String.ofList u.renderServer)⟩, ⟨connection, Utf8.encode "Upgrade"⟩,
    ⟨upgrade, Utf8.encode "websocket"⟩, ⟨webSocketVersion, Utf8.encode "13"⟩,
    ⟨webSocketKey, key⟩]⟩

/-- The request that dials a channel. -/
def request (u : Url) (key : Bytes) (forwarded : Headers) : Request where
  method := "GET"
  target := Utf8.encode (String.ofList u.renderTail)
  headers := (ownFields u key).extend forwarded

/-! ### Where a dial leads -/

/-- Why a URL cannot be dialed. -/
inductive Problem
  /-- The URL makes no request, for the given reason. -/
  | noRequest (reason : String)
  | socket (e : Wire.SocketError)
  deriving DecidableEq, Repr

/-- A character that the server part of a request may hold. -/
def isServerChar (c : Char) : Bool :=
  c.isAlphanum || "-._~%!$&'()*+,;=:@[]".toList.contains c

/-- The part of a URL that names the server, as a request understands it: where no slashes follow
the scheme, all of the URL. -/
def serverPart (u : Url) : List Char :=
  if u.hasAuthority then u.renderUser ++ u.renderServer
  else (u.render.toList).takeWhile fun c => c ≠ '#'

/-- The host and the port of a dial. -/
structure Target where
  host : String
  port : Nat
  deriving DecidableEq, Repr

/-- The port in a server part. -/
def portOf (u : Url) : Option Nat :=
  match u.port with
  | some p => some p
  | none =>
    match u.schemeText with
    | "ws" => some 80
    | "wss" => some 443
    | _ => none

/-- Where a URL leads. Only the schemes of WebSockets have a port of their own here. -/
def target (u : Url) : Except Problem Target :=
  let server := serverPart u
  let text := server.takeWhile fun c => c ≠ '/' && c ≠ '?'
  if text.any (!isServerChar ·) then .error (.noRequest "invalid uri character")
  else if text.isEmpty || (!u.hasAuthority && text.length < server.length) then
    .error (.noRequest "invalid format")
  else
    match portOf u with
    | some port => .ok ⟨u.hostText, port⟩
    | none => .error (.socket .unsupportedScheme)

/-- The failure of a dial. -/
def failure (label : String) (u : Url) (message error : String) : Failure :=
  .withDetails .communication message
    [("channel", .string label), ("url", .string u.render), ("error", .string error)]

/-- The failure of a dial to a URL that leads nowhere. -/
def Problem.failure (label : String) (u : Url) : Problem → Failure
  | noRequest reason =>
    Dial.failure label u "invalid channel request" ("HTTP format error: " ++ reason)
  | socket e => Dial.failure label u "channel dial failed" e.message

/-- Opens a channel. `connect` makes the connection and has the request answered. -/
def dial {α : Type} (connect : Target → Request → Except Wire.SocketError α) (label : String)
    (u : Url) (key : Bytes) (forwarded : Headers) : Except Failure α :=
  match target u with
  | .error p => .error (p.failure label u)
  | .ok t =>
    match connect t (request u key forwarded) with
    | .ok a => .ok a
    | .error e => .error (Problem.failure label u (.socket e))

end Switchboard.Dial
