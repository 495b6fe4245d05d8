import Switchboard.Gate.Registry
import Switchboard.Http.Message
import Switchboard.Dial.Forwarded
/-!
# The front

The front answers requests. At one path it tells how the switchboard is doing; under another a
client names a gate and asks for its connection to become a WebSocket. The gate is looked up first,
so that a client learns of an unknown gate from a plain response.
-/

namespace Switchboard.Front

open Http

/-- What comes of a request. -/
inductive Outcome
  | respond (r : Response)
  /-- The connection becomes a WebSocket for a session at a gate. -/
  | upgrade (gate : Gate)
  deriving Repr

/-- Where a request leads. -/
inductive Route
  | health
  /-- The name of a gate as it stands in the path. -/
  | gate (name : Bytes)
  | nowhere
  deriving DecidableEq, Repr

/-- The path that tells how the switchboard is doing. -/
def healthPath : Bytes := Utf8.encode "/health"

/-- The path in front of a gate's name. -/
def gatePath : Bytes := Utf8.encode "/ws/"

/-- Where a path leads. A gate's name is one segment that is not empty. -/
def route (path : Bytes) : Route :=
  if path = healthPath then .health
  else if gatePath.isPrefixOf path then
    let name := path.drop gatePath.length
    if name.isEmpty || name.contains Ascii.slash then .nowhere else .gate name
  else .nowhere

/-! ### Upgrades -/

/-- Why a connection does not become a WebSocket. -/
inductive UpgradeProblem
  | wrongMethod
  | connectionField
  | upgradeField
  | missingKey
  | wrongVersion
  /-- There is no connection behind the request that could change. -/
  | noConnection
  deriving DecidableEq, Repr

/-- The status of the response. -/
def UpgradeProblem.status : UpgradeProblem → Nat
  | wrongMethod => 405
  | noConnection => 426
  | _ => 400

/-- The wording of the problem. -/
def UpgradeProblem.message : UpgradeProblem → String
  | wrongMethod => "Request method must be \x60GET\x60"
  | connectionField => "Connection header did not include 'upgrade'"
  | upgradeField => "\x60Upgrade\x60 header did not include 'websocket'"
  | missingKey => "\x60Sec-WebSocket-Key\x60 header missing"
  | wrongVersion => "\x60Sec-WebSocket-Version\x60 header did not include '13'"
  | noConnection => "WebSocket request couldn't be upgraded since no upgrade state was present"

/-- Whether bytes hold others one after the other. -/
def holds (part : Bytes) : Bytes → Bool
  | [] => part.isEmpty
  | b :: rest => part.isPrefixOf (b :: rest) || holds part rest

/-- Whether the first value of a field is a word, in letters of either case. -/
def fieldIs (h : Headers) (name : Bytes) (word : String) : Bool :=
  (h.get? name).any fun v => v.map Ascii.toLower = Utf8.encode word

/-- Whether the first value of a field is a text that holds a word, in letters of either case. -/
def fieldHolds (h : Headers) (name : Bytes) (word : String) : Bool :=
  (h.get? name).any fun v => Utf8.isValid v && holds (Utf8.encode word) (v.map Ascii.toLower)

/-- The first problem with an upgrade. -/
def upgradeProblem (r : Request) (hasConnection : Bool) : Option UpgradeProblem :=
  if r.method ≠ "GET" then some .wrongMethod
  else if !fieldHolds r.headers Dial.connection "upgrade" then some .connectionField
  else if !fieldIs r.headers Dial.upgrade "websocket" then some .upgradeField
  else if !r.headers.contains Dial.webSocketKey then some .missingKey
  else if !fieldIs r.headers Dial.webSocketVersion "13" then some .wrongVersion
  else if !hasConnection then some .noConnection
  else none

/-! ### Answers -/

/-- How the switchboard is doing. -/
def health (registry : Registry) (active : Nat) : Response :=
  .json 200 (Json.Value.ofMembers [("status", .string "ok"), ("gates", .nat registry.size),
    ("active_sessions", .nat active)]).render

/-- The response that tells of a failure. -/
def failed (f : Failure) : Response := .json f.kind.status f.body

/-- The name of a gate, with its escapes undone. -/
def gateName (name : Bytes) : Option String := Utf8.decode? (Url.Percent.decode name)

/-- What comes of a request for a gate. -/
def visit (registry : Registry) (r : Request) (hasConnection : Bool) (name : Bytes) : Outcome :=
  match gateName name with
  | none => .respond (.text 400 "Invalid URL: Invalid UTF-8 in \x60gate\x60")
  | some name =>
    match registry.find name with
    | .error f => .respond (failed f)
    | .ok gate =>
      match upgradeProblem r hasConnection with
      | some p => .respond (.text p.status p.message)
      | none => .upgrade gate

/-- Whether a path answers a method. -/
def isAllowed (method : String) : Bool := method = "GET" || method = "HEAD"

/-- The response to a method that a path does not answer. -/
def notAllowed : Response :=
  ⟨405, ⟨[⟨allow, Utf8.encode "GET,HEAD"⟩]⟩, []⟩

/-- The response to be sent, with its length; without its body where only the fields are asked
for. -/
def sent (r : Request) (response : Response) : Response :=
  if r.method = "HEAD" then response.measured.withoutBody else response.measured

/-- What comes of a request, while a number of sessions is going on. -/
def answer (registry : Registry) (active : Nat) (hasConnection : Bool) (r : Request) : Outcome :=
  match route r.path with
  | .nowhere => .respond (.bare 404)
  | .health =>
    .respond (sent r (if isAllowed r.method then health registry active else notAllowed))
  | .gate name =>
    if isAllowed r.method then
      match visit registry r hasConnection name with
      | .respond response => .respond (sent r response)
      | .upgrade gate => .upgrade gate
    else .respond (sent r notAllowed)

end Switchboard.Front
