import Switchboard.Text.Decimal
/-!
# JSON values

A number is an integer or a double; integers are those that fit 64 bits, signed or unsigned, and
every other number is a double, held by its bits. The members of an object stand in the bytewise
order of their names, one for each name.
-/

namespace Switchboard.Json

/-- A number. -/
inductive Number
  | int (n : Int)
  | real (bits : UInt64)
  deriving DecidableEq, Repr

/-- A JSON value. -/
inductive Value
  | null
  | bool (b : Bool)
  | number (n : Number)
  | string (s : String)
  | array (elements : List Value)
  | object (members : List (String × Value))
  deriving Repr, Inhabited

/-- The members of an object. -/
abbrev Members := List (String × Value)

/-- Puts a member in its place; a member of the same name is replaced. -/
def Members.insert (name : String) (value : Value) : Members → Members
  | [] => [(name, value)]
  | (n, v) :: rest =>
    if name < n then (name, value) :: (n, v) :: rest
    else if name = n then (name, value) :: rest
    else (n, v) :: Members.insert name value rest

/-- The object with the given members; the last of one name counts. -/
def Value.ofMembers (members : List (String × Value)) : Value :=
  .object (members.foldl (fun ms m => Members.insert m.1 m.2 ms) [])

/-- The object without members. -/
def Value.empty : Value := .object []

/-- A natural number as a value. -/
def Value.nat (n : Nat) : Value := .number (.int n)

/-- The member of an object with the given name. -/
def Value.member? (name : String) : Value → Option Value
  | .object members => (members.find? (·.1 = name)).map (·.2)
  | _ => none

end Switchboard.Json
