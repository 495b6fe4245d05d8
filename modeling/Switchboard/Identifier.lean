/-!
# Identifiers of sessions

An identifier is a prefix and a number of 128 bits behind an underscore. The number holds a time in
milliseconds above 80 random bits and is written in 26 digits of base 32, so that identifiers of
one prefix sort by the time of their making.
-/

namespace Switchboard.Identifier

/-- The digits of base 32: no letter that may be taken for another digit. -/
def alphabet : List Char := "0123456789ABCDEFGHJKMNPQRSTVWXYZ".toList

/-- The number of digits of an identifier. -/
def digitCount : Nat := 26

/-- The prefix of a session's identifier. -/
def session : String := "ses"

/-- A number below `32 ^ k` in `k` digits. -/
def digits : Nat → Nat → List Char
  | 0, _ => []
  | k + 1, n => digits k (n / 32) ++ [alphabet[n % 32]?.getD '0']

/-- The number of times that are told apart: `2 ^ 48`. -/
def timeLimit : Nat := 0x1000000000000

/-- The number of random parts: `2 ^ 80`. -/
def randomLimit : Nat := 0x100000000000000000000

/-- The identifier with a prefix, made at a time in milliseconds with 80 random bits. -/
def make (kind : String) (time random : Nat) : String :=
  let number := time % timeLimit * randomLimit + random % randomLimit
  kind ++ "_" ++ String.ofList (digits digitCount number)

end Switchboard.Identifier
