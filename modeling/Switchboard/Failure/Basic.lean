import Switchboard.Envelope.Decoder
/-!
# Failures

A failure has a kind, a message and details. Before a client's connection is upgraded it is told in
an HTTP answer, afterwards in a notice: an envelope of the label `_control`.
-/

namespace Switchboard

open Json

/-- What a failure is about. -/
inductive Failure.Kind
  /-- A malformed envelope, an unknown channel, a client that is too slow. -/
  | badInput
  /-- A public token that is missing or was rejected. -/
  | unauthorized
  /-- A gate that does not exist. -/
  | notFound
  /-- A connection that failed or ended. -/
  | communication
  /-- A failure of the switchboard or of what it depends on. -/
  | internal
  deriving DecidableEq, Repr

/-- The name of a kind, as clients read it. -/
def Failure.Kind.name : Failure.Kind → String
  | .badInput => "BadInput"
  | .unauthorized => "Unauthorized"
  | .notFound => "NotFound"
  | .communication => "WSCommunication"
  | .internal => "Internal"

/-- Every kind, in the order in which a message lists them. -/
def Failure.Kind.all : List Failure.Kind :=
  [.badInput, .unauthorized, .notFound, .communication, .internal]

/-- The kind with the given name. -/
def Failure.Kind.ofName? (name : String) : Option Failure.Kind :=
  Failure.Kind.all.find? (·.name = name)

/-- The HTTP status of a kind. -/
def Failure.Kind.status : Failure.Kind → Nat
  | .badInput => 400
  | .unauthorized => 401
  | .notFound => 404
  | .communication => 500
  | .internal => 500

/-- A failure. -/
structure Failure where
  kind : Failure.Kind
  message : String
  details : Option Value
  deriving Repr

/-- What a notice tells a client. -/
structure Notice where
  kind : Failure.Kind
  message : String
  details : Value

/-- The text of a notice, its fields in this order. -/
def Notice.render (n : Notice) : Bytes :=
  renderFields
    [("code", .string n.kind.name), ("message", .string n.message), ("details", n.details)]

/-- The envelope of a notice. -/
def Notice.envelope (n : Notice) : Envelope := ⟨Envelope.controlLabel, n.render⟩

/-- A line of the log: how grave it is, and what it says. -/
inductive Severity
  | debug
  | info
  | warning
  | error
  deriving DecidableEq, Repr

/-- The name of a severity. -/
def Severity.name : Severity → String
  | .debug => "DEBUG"
  | .info => "INFO"
  | .warning => "WARN"
  | .error => "ERROR"

namespace Failure

/-- A failure with details of the given names and values. -/
def withDetails (kind : Kind) (message : String) (details : List (String × Value)) : Failure :=
  ⟨kind, message, some (.ofMembers details)⟩

/-- A failure without details. -/
def plain (kind : Kind) (message : String) : Failure := ⟨kind, message, none⟩

/-- The kind and the message in one line. -/
def text (f : Failure) : String := f.kind.name ++ ": " ++ f.message

/-- What a failure tells a client; details that are absent are an empty object. -/
def notice (f : Failure) : Notice := ⟨f.kind, f.message, f.details.getD .empty⟩

/-- The frame that tells a client of a failure. -/
def controlFrame (f : Failure) : Bytes := f.notice.envelope.encode

/-- The body of the HTTP answer that tells of a failure; details that are absent are left out. -/
def body (f : Failure) : Bytes :=
  let details := match f.details with
    | some d => [("details", d)]
    | none => []
  renderFields
    [("error",
      .object ([("code", .string f.kind.name), ("message", .string f.message)] ++ details))]

/-- How grave a failure is. Clients come and go all the time, so the failures of their connections
do not count. -/
def severity (f : Failure) : Severity :=
  match f.kind with
  | .communication => .debug
  | .internal => .error
  | _ => .info

/-- The failure of a frame that is no envelope. -/
def ofRejection (r : Envelope.Rejection) : Failure :=
  .withDetails .badInput "malformed envelope" [("reason", .string r.message)]

end Failure

end Switchboard
