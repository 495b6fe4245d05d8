import Switchboard.Gate.Registry
import Switchboard.SystemError
/-!
# Where gate files are kept

A gate file is read by its path. A folder is modelled by what it holds, so that reading by a path
is a function; why a file cannot be read is told as the operating system tells it.
-/

namespace Switchboard

/-- What a name in a folder stands for. -/
inductive Entry
  | file (content : Bytes)
  | folder (entries : List (Bytes × Entry))
  deriving Repr

/-- Why a file cannot be read. -/
inductive ReadProblem
  | system (e : SystemError)
  | nulInName
  | notText
  deriving DecidableEq, Repr

/-- The wording of the problem. -/
def ReadProblem.message : ReadProblem → String
  | system e => e.message
  | nulInName => "file name contained an unexpected NUL byte"
  | notText => "stream did not contain valid UTF-8"

namespace Entry

/-- The greatest length of a name. -/
def maxNameLength : Nat := 255

/-- The length that a path must stay below. -/
def maxPathLength : Nat := 4096

/-- The names of a path. -/
def namesOf (path : Bytes) : List Bytes :=
  path.foldr (fun b names =>
    if b = Ascii.slash then [] :: names
    else
      match names with
      | n :: ns => (b :: n) :: ns
      | [] => [[b]]) [[]]

/-- Follows names from an entry; `above` are the folders around it. -/
def walk : List Bytes → List Entry → Entry → Except ReadProblem Entry
  | [], _, e => .ok e
  | name :: names, above, e =>
    match e with
    | .file _ => .error (.system .notAFolder)
    | .folder entries =>
      if name.isEmpty || name = [Ascii.dot] then walk names above e
      else if name = [Ascii.dot, Ascii.dot] then
        match above with
        | parent :: rest => walk names rest parent
        | [] => walk names [] e
      else if maxNameLength < name.length then .error (.system .nameTooLong)
      else
        match entries.find? (·.1 = name) with
        | some (_, inner) => walk names (e :: above) inner
        | none => .error (.system .notFound)

/-- The content of the file at a path from a folder. -/
def read (folder : Entry) (path : Bytes) : Except ReadProblem Bytes :=
  if path.contains 0 then .error .nulInName
  else if path.isEmpty then .error (.system .notFound)
  else if maxPathLength ≤ path.length then .error (.system .nameTooLong)
  else
    match walk (namesOf path) [] folder with
    | .error p => .error p
    | .ok (.file content) => .ok content
    | .ok (.folder _) => .error (.system .aFolder)

end Entry

/-- The failure of a gate file that cannot be read. -/
def Registry.unreadable (path : String) (p : ReadProblem) : Failure :=
  .withDetails .internal "cannot read gate registry"
    [("path", .string path), ("error", .string p.message)]

/-- The registry that the file at a path defines. -/
def Registry.load (read : Bytes → Except ReadProblem Bytes) (path : String) :
    Except Failure Registry :=
  match read (Utf8.encode path) with
  | .error p => .error (unreadable path p)
  | .ok content =>
    match Utf8.decode? content with
    | none => .error (unreadable path .notText)
    | some text => parse text

end Switchboard
