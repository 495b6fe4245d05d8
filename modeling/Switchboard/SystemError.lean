import Switchboard.Text.Quoted
/-!
# Errors of the operating system

An error of the operating system has a number, a kind and a text, and is shown in two ways.
-/

namespace Switchboard

/-- An error of the operating system. -/
structure SystemError where
  code : Nat
  kind : String
  text : String
  deriving DecidableEq, Repr

namespace SystemError

/-- The error as a message tells it. -/
def message (e : SystemError) : String := e.text ++ " (os error " ++ toString e.code ++ ")"

/-- The error with all its parts. -/
def describe (e : SystemError) : String :=
  "Os \x7b code: " ++ toString e.code ++ ", kind: " ++ e.kind ++ ", message: "
    ++ Quoted.render e.text ++ " \x7d"

/-- A file is not there. -/
def notFound : SystemError := ⟨2, "NotFound", "No such file or directory"⟩

/-- A name within a path is not that of a folder. -/
def notAFolder : SystemError := ⟨20, "NotADirectory", "Not a directory"⟩

/-- A folder stands where a file is needed. -/
def aFolder : SystemError := ⟨21, "IsADirectory", "Is a directory"⟩

/-- A name is too long. -/
def nameTooLong : SystemError := ⟨36, "InvalidFilename", "File name too long"⟩

/-- No way leads to an address. -/
def networkUnreachable : SystemError := ⟨101, "NetworkUnreachable", "Network is unreachable"⟩

end SystemError

end Switchboard
