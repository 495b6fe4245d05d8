import Switchboard.Url.Basic
import Switchboard.Url.Idna
/-!
# Reading URLs

Absolute URLs are read leniently: space around them and line breaks within them are dropped, and
what a part may not hold is escaped. A URL without a scheme, without a host where the scheme
demands one, or with a host or port that is none, is refused.

Schemes come in three kinds. The special ones have a host and a port of their own, and for them a
backslash counts as a slash. The scheme of files is special, has no port and may lack a host. Any
other scheme may be followed by a host, by a path or by a text of its own.
-/

namespace Switchboard.Url

/-- How a scheme is read. -/
inductive Kind
  | special
  | file
  | other
  deriving DecidableEq, Repr

/-- The kind of a scheme. -/
def kindOf (scheme : List Char) : Kind :=
  if scheme = "file".toList then .file
  else if (defaultPort scheme).isSome then .special
  else .other

/-- Whether a character ends the part before the path. -/
def isBoundary (kind : Kind) (c : Char) : Bool :=
  c = '/' || c = '?' || c = '#' || (kind ≠ .other && c = '\\')

/-- Whether a character separates segments. -/
def isSlash (kind : Kind) (c : Char) : Bool := c = '/' || (kind ≠ .other && c = '\\')

/-! ### Scheme -/

/-- Whether a character may stand in a scheme after its first. -/
def isSchemeChar (c : Char) : Bool := c.isAlphanum || c = '+' || c = '-' || c = '.'

/-- The scheme, in small letters, and what follows its colon. -/
def readScheme (s : List Char) : Option (List Char × List Char) :=
  match s with
  | c :: _ =>
    let scheme := s.takeWhile isSchemeChar
    match s.dropWhile isSchemeChar with
    | ':' :: rest => if c.isAlpha then some (scheme.map Char.toLower, rest) else none
    | _ => none
  | [] => none

/-! ### Who asks -/

/-- Splits a text at the last occurrence of a character. -/
def splitLast (sep : Char) (s : List Char) : Option (List Char × List Char) :=
  if s.contains sep then
    let back := (s.reverse.takeWhile (· ≠ sep)).reverse
    some (s.take (s.length - back.length - 1), back)
  else none

/-- The user and the password, each escaped. -/
def readUser (s : List Char) : List Char × List Char :=
  (Percent.encode Percent.userInfo (s.takeWhile (· ≠ ':')),
    Percent.encode Percent.userInfo ((s.dropWhile (· ≠ ':')).drop 1))

/-! ### Host and port -/

/-- The text of a host: it ends at a colon, unless that stands between brackets. -/
def spanHost : Bool → List Char → List Char × List Char
  | _, [] => ([], [])
  | bracketed, c :: rest =>
    if c = ':' && !bracketed then ([], c :: rest)
    else
      let (host, after) := spanHost (c = '[' || (bracketed && c ≠ ']')) rest
      (c :: host, after)

/-- The address between brackets. -/
def readBracketed (s : List Char) : Option Host :=
  if s.getLast? = some ']' then
    (Address.readV6 (s.drop 1).dropLast).map .eight
  else none

/-- The host of a special scheme or of a file. -/
def readName (s : List Char) : Option Host :=
  match s with
  | '[' :: _ => readBracketed s
  | _ => do
    let decoded := Percent.decode (Utf8.encode (String.ofList s))
    let name ← Idna.toAscii (Utf8.decodeLossy decoded).toList
    if name.isEmpty then none
    else if Address.endsInNumber name then (Address.readV4 name).map .four
    else some (.name name)

/-- The host of another scheme: any text without the characters that would end it. -/
def readOpaque (s : List Char) : Option Host :=
  match s with
  | '[' :: _ => readBracketed s
  | _ =>
    if s.any "\x00\t\n\r #/:<>?@[\\]^|".toList.contains then none
    else some (.name (Percent.encode Percent.control s))

/-- The port behind a colon; `some none` when it is left out or is the scheme's own. -/
def readPort (scheme s : List Char) : Option (Option Nat) :=
  if s.all Char.isDigit then
    let n := s.foldl (fun n d => n * 10 + (d.toNat - 0x30)) 0
    if 65535 < n then none
    else if s.isEmpty || defaultPort scheme = some n then some none
    else some (some n)
  else none

/-! ### Path -/

/-- Whether a segment stands for the folder above. -/
def isDoubleDot (s : List Char) : Bool :=
  ["..", "%2e%2e", ".%2e", "%2e."].contains (String.ofList (s.map Char.toLower))

/-- Whether a segment stands for the folder itself. -/
def isSingleDot (s : List Char) : Bool :=
  [".", "%2e"].contains (String.ofList (s.map Char.toLower))

/-- Whether a segment names a drive, which no dots lead out of. -/
def isDrive (s : List Char) : Bool :=
  match s with
  | [c, d] => c.isAlpha && (d = ':' || d = '|')
  | _ => false

/-- The folders without the last one, unless that is a drive. -/
def leave (folders : List (List Char)) : List (List Char) :=
  match folders.getLast? with
  | some last => if isDrive last then folders else folders.dropLast
  | none => []

/-- A segment as it is held: escaped, and for a file's first segment a drive's bar made a colon. -/
def holdSegment (kind : Kind) (first : Bool) (segment : List Char) : List Char :=
  let s := Percent.encode Percent.path segment
  match s with
  | [c, _] => if kind = .file && first && isDrive s then [c, ':'] else s
  | _ => s

/-- Follows the segments of a path one after the other, with the folders so far. -/
def follow (kind : Kind) (folders : List (List Char)) : List (List Char) → List (List Char)
  | [] => folders ++ [[]]
  | [last] =>
    if isDoubleDot last then leave folders ++ [[]]
    else if isSingleDot last then folders ++ [[]]
    else folders ++ [holdSegment kind folders.isEmpty last]
  | segment :: rest =>
    if isDoubleDot segment then follow kind (leave folders) rest
    else if isSingleDot segment then follow kind folders rest
    else follow kind (folders ++ [holdSegment kind folders.isEmpty segment]) rest

/-- Splits a text at every slash. -/
def splitSlashes (kind : Kind) (s : List Char) : List (List Char) :=
  s.foldr (fun c parts =>
    if isSlash kind c then [] :: parts
    else
      match parts with
      | p :: ps => (c :: p) :: ps
      | [] => [[c]]) [[]]

/-- The path that a text writes; a slash in front is no segment's. -/
def readPath (kind : Kind) (s : List Char) : Path :=
  let s := match s with
    | c :: rest => if isSlash kind c then rest else s
    | [] => []
  let segments := follow kind [] (splitSlashes kind s)
  if kind = .file then
    match segments.dropWhile List.isEmpty with
    | [] => .segments [[]]
    | kept => .segments kept
  else .segments segments

/-! ### The whole -/

/-- The query and the fragment of what follows a path. -/
def readTail (kind : Kind) (s : List Char) : Option (List Char) × Option (List Char) :=
  let front := s.takeWhile (· ≠ '#')
  let query := match front with
    | '?' :: q =>
      some (Percent.encode (if kind = .other then Percent.query else Percent.specialQuery) q)
    | _ => none
  let fragment := match s.dropWhile (· ≠ '#') with
    | '#' :: f => some (Percent.encode Percent.fragment f)
    | _ => none
  (query, fragment)

/-- Whether a character belongs to what comes before the query and the fragment. -/
def isPathChar (c : Char) : Bool := c ≠ '?' && c ≠ '#'

/-- The URL of a scheme and what follows the two slashes behind it. -/
def readAuthority (kind : Kind) (scheme s : List Char) : Option Url := do
  let authority := s.takeWhile (!isBoundary kind ·)
  let rest := s.dropWhile (!isBoundary kind ·)
  let (userText, server) := (splitLast '@' authority).getD ([], authority)
  let (user, password) := readUser userText
  let (hostText, portText) := spanHost false server
  let host ← if kind = .other then readOpaque hostText else readName hostText
  let host := if host = .name [] then none else some host
  let isNamed := !portText.isEmpty || !user.isEmpty || !password.isEmpty
    || (authority = ['@'] && !rest.isEmpty)
  if host.isNone && isNamed then none
  let port ← readPort scheme (portText.drop 1)
  let pathText := rest.takeWhile isPathChar
  let path := if kind = .other && pathText.isEmpty then .segments [] else readPath kind pathText
  let (query, fragment) := readTail kind (rest.dropWhile isPathChar)
  pure ⟨scheme, true, user, password, host, port, path, query, fragment⟩

/-- The URL of a file: its host may be missing, and a drive is no host. -/
def readFile (s : List Char) : Option Url := do
  let scheme := "file".toList
  let slashes := (s.takeWhile (isSlash .file)).length
  let authority := if 2 ≤ slashes then (s.drop 2).takeWhile (!isBoundary .file ·) else []
  let rest := if 2 ≤ slashes then s.drop 2 else s
  let isHost := !authority.isEmpty && !isDrive authority
  let host ← if isHost then (readName authority).map some else some none
  let rest := if isHost then rest.drop authority.length else rest
  let host := if host = some (.name "localhost".toList) then none else host
  let (query, fragment) := readTail .file (rest.dropWhile isPathChar)
  let path := readPath .file (rest.takeWhile isPathChar)
  let host := match path with
    | .segments (first :: _) => if isDrive first then none else host
    | _ => host
  pure ⟨scheme, true, [], [], host, none, path, query, fragment⟩

/-- The URL of a scheme without an authority. -/
def readBare (scheme s : List Char) : Url :=
  let pathText := s.takeWhile isPathChar
  let path := match pathText with
    | '/' :: _ => readPath .other pathText
    | _ => .plain (Percent.encode Percent.control pathText)
  let (query, fragment) := readTail .other (s.dropWhile isPathChar)
  ⟨scheme, false, [], [], none, none, path, query, fragment⟩

/-- Drops controls and blanks around a text and tabs and line breaks within it. -/
def clean (s : List Char) : List Char :=
  let isEdge (c : Char) : Bool := c.toNat ≤ 0x20
  ((s.dropWhile isEdge).reverse.dropWhile isEdge).reverse.filter fun c =>
    c ≠ '\t' && c ≠ '\n' && c ≠ '\r'

/-- The absolute URL that a text writes. -/
def parse (text : String) : Option Url := do
  let (scheme, rest) ← readScheme (clean text.toList)
  match kindOf scheme with
  | .special => readAuthority .special scheme (rest.dropWhile (isSlash .special))
  | .file => readFile rest
  | .other =>
    match rest with
    | '/' :: '/' :: after => readAuthority .other scheme after
    | _ => pure (readBare scheme rest)

end Switchboard.Url
