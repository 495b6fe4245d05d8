import Switchboard.Gate.File
import Switchboard.Gate.Label
import Switchboard.Envelope.Basic
import Switchboard.Failure.Basic
import Switchboard.Url.Parser
/-!
# The registry of gates

A gate joins a client to its channels, each a WebSocket URL under a label. The registry holds the
gates of a gate file, once every one of them is found sound. A gate that is not is refused with its
first unsound label in bytewise order.
-/

namespace Switchboard

/-- A gate: channels by label, in the bytewise order of the labels. -/
structure Gate where
  name : String
  channels : List (String × Url)
  deriving DecidableEq, Repr

/-- The gates that clients may ask for. -/
structure Registry where
  gates : List Gate
  deriving DecidableEq, Repr

namespace Gate

/-- What is wrong with a channel. -/
inductive Flaw
  | reserved
  | notALabel
  | notAbsolute
  | wrongScheme
  deriving DecidableEq, Repr

/-- The wording of a flaw. -/
def Flaw.message : Flaw → String
  | reserved => "channel label is reserved"
  | notALabel => "invalid channel label"
  | notAbsolute => "channel url is not absolute"
  | wrongScheme => "channel url must be ws:// or wss://"

/-- Whether a channel can be dialed at a URL. -/
def isDialable (u : Url) : Bool :=
  (u.scheme = "ws".toList || u.scheme = "wss".toList) && u.host.isSome

/-- The URL of a channel, or the first thing wrong with the channel. -/
def checkChannel (parseUrl : String → Option Url) (label url : String) : Except Flaw Url :=
  if label = Envelope.controlLabel then .error .reserved
  else if !isLabel label then .error .notALabel
  else
    match parseUrl url with
    | none => .error .notAbsolute
    | some u => if isDialable u then .ok u else .error .wrongScheme

/-- Why a file makes no registry. -/
inductive Refusal
  | noGates
  | noChannels (gate : String)
  | channel (gate label : String) (flaw : Flaw)
  deriving DecidableEq, Repr

/-- The place of a refusal. -/
def placeDetails (gate label : String) : List (String × Json.Value) :=
  [("gate", .string gate), ("channel", .string label)]

/-- The failure of a refusal. -/
def Refusal.failure : Refusal → Failure
  | noGates => .plain .internal "gate registry defines no gates"
  | noChannels gate =>
    .withDetails .internal "gate has no channels" (placeDetails gate "")
  | channel gate label flaw => .withDetails .internal flaw.message (placeDetails gate label)

/-- Puts a pair before the first one with a greater name. -/
def insertByName {α : Type} (p : String × α) : List (String × α) → List (String × α)
  | [] => [p]
  | q :: rest => if p.1 < q.1 then p :: q :: rest else q :: insertByName p rest

/-- Pairs in the bytewise order of their names. -/
def sortByName {α : Type} (pairs : List (String × α)) : List (String × α) :=
  pairs.foldr insertByName []

/-- The channels of a gate, checked one after the other. -/
def checkChannels (parseUrl : String → Option Url) (gate : String) :
    Section → Except Refusal (List (String × Url))
  | [] => .ok []
  | (label, url) :: rest =>
    match checkChannel parseUrl label url with
    | .error flaw => .error (.channel gate label flaw)
    | .ok u =>
      match checkChannels parseUrl gate rest with
      | .error r => .error r
      | .ok channels => .ok ((label, u) :: channels)

/-- The gate of a section. -/
def ofSection (parseUrl : String → Option Url) (name : String) (s : Section) :
    Except Refusal Gate :=
  if s.isEmpty then .error (.noChannels name)
  else
    match checkChannels parseUrl name (sortByName s) with
    | .error r => .error r
    | .ok channels => .ok ⟨name, channels⟩

/-- The gates of sections, checked one after the other. -/
def ofSections (parseUrl : String → Option Url) :
    List (String × Section) → Except Refusal (List Gate)
  | [] => .ok []
  | (name, s) :: rest =>
    match ofSection parseUrl name s with
    | .error r => .error r
    | .ok gate =>
      match ofSections parseUrl rest with
      | .error r => .error r
      | .ok gates => .ok (gate :: gates)

end Gate

namespace Registry

/-- The registry of a gate file. -/
def ofFile (parseUrl : String → Option Url) (f : Gate.File) : Except Gate.Refusal Registry :=
  if f.gates.isEmpty then .error .noGates
  else
    match Gate.ofSections parseUrl f.gates with
    | .error r => .error r
    | .ok gates => .ok ⟨gates⟩

/-- The number of gates. -/
def size (r : Registry) : Nat := r.gates.length

/-- Whether there are no gates. -/
def isEmpty (r : Registry) : Bool := r.gates.isEmpty

/-- The gate of a name. -/
def find (r : Registry) (name : String) : Except Failure Gate :=
  match r.gates.find? (·.name = name) with
  | some gate => .ok gate
  | none =>
    .error (.withDetails .notFound "gate not found" [("gate", .string name)])

/-- The failure of a text that is no gate file. -/
def malformed (fault : Gate.File.Fault) : Failure :=
  .withDetails .internal "invalid gate registry" [("error", .string fault.message)]

/-- The registry that a text defines. -/
def parse (text : String) : Except Failure Registry :=
  match Gate.File.parse text with
  | .error fault => .error (malformed fault)
  | .ok file =>
    match ofFile Url.parse file with
    | .error r => .error r.failure
    | .ok registry => .ok registry

end Registry

end Switchboard
