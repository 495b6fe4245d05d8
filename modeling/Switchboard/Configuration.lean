import Switchboard.Settings
import Switchboard.Text.Ascii
/-!
# Configuration

The switchboard is configured by four environment variables. Two are required; of the other two a
value that is no number of the right size counts as absent.
-/

namespace Switchboard

/-- What is configured from outside. -/
structure Configuration where
  /-- The path of the gate registry. -/
  gatesFile : String
  /-- Where public tokens are exchanged for internal ones. -/
  resolverUrl : String
  port : Nat
  /-- How long a client has to present its token and the channels to be dialed. -/
  handshakeTimeout : Duration
  endpoint : Settings
  deriving DecidableEq, Repr

namespace Configuration

/-- Reads a number below a limit: digits, with at most one plus sign in front. -/
def readNumber (limit : Nat) (s : Bytes) : Option Nat :=
  let unsigned := match s with
    | b :: rest => if b = Ascii.plus then rest else s
    | [] => s
  if unsigned.isEmpty || !unsigned.all Ascii.isDigit then none
  else
    let n := unsigned.foldl (fun n d => n * 10 + (d.toNat - 0x30)) 0
    if n < limit then some n else none

/-- The port when none is given. -/
def portDefault : Nat := 4100

/-- The number that ports stay below. -/
def portLimit : Nat := 0x10000

/-- The time for a handshake when none is given. -/
def handshakeTimeoutDefault : Duration := .ofMillis 10000

/-- The duration that a variable holds, in seconds. -/
def readSeconds (s : Bytes) : Option Duration :=
  match readNumber secondsLimit s with
  | some n => if h : n < secondsLimit then some (.ofSecs n h) else none
  | none => none

/-- A required variable is missing. -/
structure Missing where
  name : String
  deriving DecidableEq, Repr

/-- What is said of a missing variable. -/
def Missing.message (m : Missing) : String := m.name ++ " env var is required"

/-- The text of a variable; bytes that are no text count as absent. -/
def textOf (env : String → Option Bytes) (name : String) : Option String :=
  (env name).bind Utf8.decode?

/-- The text of a variable that must be there. -/
def required (env : String → Option Bytes) (name : String) : Except Missing String :=
  match textOf env name with
  | some s => .ok s
  | none => .error ⟨name⟩

/-- The configuration that an environment holds. -/
def ofEnvironment (env : String → Option Bytes) : Except Missing Configuration := do
  let gatesFile ← required env "GATES_FILE"
  let resolverUrl ← required env "RESOLVER_URL"
  pure {
    gatesFile := gatesFile
    resolverUrl := resolverUrl
    port := ((env "PORT").bind (readNumber portLimit)).getD portDefault
    handshakeTimeout :=
      ((env "HANDSHAKE_TIMEOUT_SECS").bind readSeconds).getD handshakeTimeoutDefault
    endpoint := .standard }

end Configuration

end Switchboard
