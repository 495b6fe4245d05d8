import Switchboard.Failure.Basic
import Switchboard.Dial.Request
import Switchboard.Url.Parser
/-!
# Resolving tokens

A client's public token is sent to the resolver, whose answer is the internal token that opens the
channels. Only one status means that: any other is a failure, and of those one says that the token
is not known.
-/

namespace Switchboard.Resolver

/-- What the resolver answered, once every redirection was followed. -/
structure Reply where
  status : Nat
  /-- The body as text; nothing when it did not come whole. -/
  body : Option String
  deriving DecidableEq, Repr

/-- Why no answer came. -/
inductive Problem
  /-- The resolver's address is no URL. -/
  | noUrl
  /-- The address is a URL at which no token can be sent. -/
  | notHttp (url : String)
  /-- No answer came from the address. -/
  | noReply (url : String)
  deriving DecidableEq, Repr

/-- The wording of a problem. -/
def Problem.message : Problem → String
  | noUrl => "builder error"
  | notHttp url => "builder error for url (" ++ url ++ ")"
  | noReply url => "error sending request for url (" ++ url ++ ")"

/-- A URL without who asks, which is sent in a field of the request. -/
def anonymous (u : Url) : Url := { u with user := [], password := [] }

/-- Where tokens are sent. -/
def address (text : String) : Except Problem Url :=
  match Url.parse text with
  | none => .error .noUrl
  | some u =>
    if u.host.isNone then .error (.notHttp u.render)
    else
      let u := anonymous u
      let isHttp := u.scheme = "http".toList || u.scheme = "https".toList
      if isHttp && u.renderServer.all Dial.isServerChar then .ok u else .error (.notHttp u.render)

/-- The failure of a request that was not answered. -/
def Problem.failure (p : Problem) : Failure :=
  .withDetails .internal "token resolver unreachable" [("error", .string p.message)]

/-- What an answer means. -/
def Reply.token (r : Reply) : Except Failure String :=
  match r.body with
  | none => .error (.plain .internal "token resolver response unreadable")
  | some body =>
    if r.status = 200 then .ok body
    else if r.status = 404 then .error (.plain .unauthorized "public token not recognized")
    else
      .error (.withDetails .internal "token resolver failed"
        [("status", .nat r.status), ("body", .string body)])

/-- What comes of asking at a URL: the internal token, or the failure of what was answered or of
having had no answer. -/
def outcome (u : Url) : Option Reply → Except Failure String
  | none => .error (Problem.noReply u.render).failure
  | some r => r.token

/-- Exchanges a public token for an internal one. `post` sends a token to a URL. -/
def resolve (post : Url → String → Option Reply) (url token : String) : Except Failure String :=
  match address url with
  | .error p => .error p.failure
  | .ok u => outcome u (post u token)

end Switchboard.Resolver
