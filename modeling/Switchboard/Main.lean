import Switchboard.Board
import Switchboard.Gate.Source
/-!
# The command

The command reads the environment and the gate file that it names, and tells which gates a
switchboard would serve with them, or why it would not begin.
-/

namespace Switchboard.Main

/-- The names of the variables that configure the switchboard. -/
def names : List String :=
  ["GATES_FILE", "RESOLVER_URL", "PORT", "HANDSHAKE_TIMEOUT_SECS"]

/-- The environment that holds the given values. -/
def environment (values : List (String × Option String)) (name : String) : Option Bytes :=
  (values.lookup name).join.map Utf8.encode

/-- The line that tells of a gate. -/
def describe (g : Gate) : String :=
  g.name ++ ": " ++ ", ".intercalate (g.channels.map fun c => c.1 ++ " " ++ c.2.render)

/-- What is told of a switchboard that could begin. -/
def report (b : Board) : String :=
  "\n".intercalate
    (("port " ++ toString b.configuration.port) :: b.registry.gates.map describe)

/-- A switchboard for an environment and a way to read files, or why it does not begin. -/
def prepare (env : String → Option Bytes) (read : Bytes → Except ReadProblem Bytes) :
    Except String Board :=
  match Configuration.ofEnvironment env with
  | .error m => .error m.message
  | .ok c =>
    match Registry.load read c.gatesFile with
    | .error f => .error ("failed to load gate registry: " ++ f.text)
    | .ok registry => .ok (.start c registry)

/-- Why the operating system did not hand over a file. -/
def problemOf : IO.Error → ReadProblem
  | .noFileOrDirectory .. => .system .notFound
  | .inappropriateType .. => .system .aFolder
  | e => .system ⟨0, "Other", toString e⟩

/-- Reads the file that the environment names, if it names one. -/
def readFile (path : Option String) : IO (Except ReadProblem Bytes) := do
  match path with
  | none => pure (.error (.system .notFound))
  | some path =>
    try
      let content ← IO.FS.readBinFile path
      pure (.ok content.toList)
    catch e => pure (.error (problemOf e))

end Switchboard.Main

open Switchboard Switchboard.Main in
/-- Tells what a switchboard would serve. -/
def main : IO UInt32 := do
  let values ← names.mapM fun name => do pure (name, ← IO.getEnv name)
  let content ← readFile (values.lookup "GATES_FILE").join
  match prepare (environment values) fun _ => content with
  | .ok board =>
    IO.println (report board)
    pure 0
  | .error reason =>
    IO.eprintln reason
    pure 1
