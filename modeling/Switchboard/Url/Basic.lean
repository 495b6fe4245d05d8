import Switchboard.Url.Address
/-!
# URLs

An absolute URL in its parts, each already in the form in which it is written. A URL is compared
and shown by its text, `Url.render`.
-/

namespace Switchboard

/-- Who answers at a URL. -/
inductive Url.Host
  | name (s : List Char)
  | four (address : Nat)
  | eight (pieces : List Nat)
  deriving DecidableEq, Repr

/-- What follows the host, or the scheme where there is no host. -/
inductive Url.Path
  /-- Segments, each behind a slash. -/
  | segments (list : List (List Char))
  /-- A text that the scheme alone gives a meaning to. -/
  | plain (text : List Char)
  deriving DecidableEq, Repr

/-- An absolute URL. -/
structure Url where
  scheme : List Char
  /-- Whether two slashes follow the scheme. -/
  hasAuthority : Bool
  user : List Char
  password : List Char
  host : Option Url.Host
  /-- The port, unless it is the scheme's own. -/
  port : Option Nat
  path : Url.Path
  query : Option (List Char)
  fragment : Option (List Char)
  deriving DecidableEq, Repr

namespace Url

/-- The text of a host. -/
def Host.render : Host → String
  | .name s => String.ofList s
  | .four address => Address.renderV4 address
  | .eight pieces => "[" ++ Address.renderV6 pieces ++ "]"

/-- The text of a path. -/
def Path.render : Path → List Char
  | .segments list => list.flatMap ('/' :: ·)
  | .plain text => text

/-- The port of a scheme that has one. -/
def defaultPort (scheme : List Char) : Option Nat :=
  match String.ofList scheme with
  | "http" => some 80
  | "ws" => some 80
  | "https" => some 443
  | "wss" => some 443
  | "ftp" => some 21
  | _ => none

/-- Who asks, as it is written before the host. -/
def renderUser (u : Url) : List Char :=
  if u.user.isEmpty && u.password.isEmpty then []
  else if u.password.isEmpty then u.user ++ ['@']
  else u.user ++ ':' :: u.password ++ ['@']

/-- The host's text; empty where there is none. -/
def hostText (u : Url) : String := (u.host.map Host.render).getD ""

/-- The host and the port where it is not the scheme's own. -/
def renderServer (u : Url) : List Char :=
  u.hostText.toList ++
    match u.port with
    | some p => ':' :: (toString p).toList
    | none => []

/-- Everything from the path on. Where nothing else would tell a path from an authority, a segment
of one dot comes first. -/
def renderTail (u : Url) : List Char :=
  let path := u.path.render
  (if !u.hasAuthority && path.take 2 = ['/', '/'] then ['/', '.'] else []) ++ path
    ++ (match u.query with | some q => '?' :: q | none => [])

/-- The text of a URL without its fragment. -/
def renderTarget (u : Url) : List Char :=
  u.scheme ++ ':' :: (if u.hasAuthority then '/' :: '/' :: u.renderUser ++ u.renderServer else [])
    ++ u.renderTail

/-- The text of a URL. -/
def render (u : Url) : String :=
  String.ofList (u.renderTarget ++ match u.fragment with | some f => '#' :: f | none => [])

/-- The port that a URL leads to: its own or else that of its scheme. -/
def portOrDefault (u : Url) : Option Nat :=
  match u.port with
  | some p => some p
  | none => defaultPort u.scheme

/-- The scheme as a string. -/
def schemeText (u : Url) : String := String.ofList u.scheme

end Url

end Switchboard
