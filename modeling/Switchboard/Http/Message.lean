import Switchboard.Http.Headers
import Switchboard.Text.Decimal
/-!
# Requests and responses

A request and a response as the front of the switchboard sees them, without what belongs to the
connection that carries them.
-/

namespace Switchboard.Http

/-- A request. -/
structure Request where
  method : String
  /-- The path, with the query if there is one. -/
  target : Bytes
  headers : Headers
  deriving DecidableEq, Repr

/-- A response. -/
structure Response where
  status : Nat
  headers : Headers
  body : Bytes
  deriving DecidableEq, Repr

/-- The path of a request, without the query. -/
def Request.path (r : Request) : Bytes :=
  r.target.takeWhile fun b => b ≠ 0x3F && b ≠ 0x23

/-- The names of fields that describe a body. -/
def contentType : Bytes := Utf8.encode "content-type"

def contentLength : Bytes := Utf8.encode "content-length"

def allow : Bytes := Utf8.encode "allow"

namespace Response

/-- A response with a body of a type. -/
def of (status : Nat) (type : String) (body : Bytes) : Response :=
  ⟨status, ⟨[⟨contentType, Utf8.encode type⟩]⟩, body⟩

/-- A response with a line of text. -/
def text (status : Nat) (line : String) : Response :=
  of status "text/plain; charset=utf-8" (Utf8.encode line)

/-- A response with a JSON text. -/
def json (status : Nat) (body : Bytes) : Response := of status "application/json" body

/-- A response without fields and body. -/
def bare (status : Nat) : Response := ⟨status, .empty, []⟩

/-- Declares the length of the body. -/
def measured (r : Response) : Response :=
  { r with headers := r.headers.append contentLength (Decimal.digits r.body.length) }

/-- The response to a request that asks for the fields alone. -/
def withoutBody (r : Response) : Response := { r with body := [] }

end Response

end Switchboard.Http
