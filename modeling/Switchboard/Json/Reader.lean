import Switchboard.Json.Number
import Switchboard.Json.Printer
import Switchboard.Text.Quoted
/-!
# Reading JSON values

`readValue` reads a value at the front of a text, arrays and objects nested at most `maxDepth` deep
around it. An object whose first member is named `rawToken` stands for the value that its string
holds the text of.
-/

namespace Switchboard.Json

open Ascii

/-- How many arrays and objects may be open at once, the outermost included, plus one. -/
def maxDepth : Nat := 128

/-- A first member of this name makes an object stand for the value its string holds. -/
def rawToken : String := "$serde_json::private::RawValue"

/-! ### Members of an object -/

/-- What stands where a member may begin: its name, behind the quote, or the end of the object. -/
def nextMember (first : Bool) (s : Bytes) : Except Fault (Option Bytes) :=
  match skipSpace s with
  | [] => .error (.behind .endInObject [])
  | b :: rest =>
    if b = closeBrace then .ok none
    else if first then
      if b = quote then .ok (some rest) else .error (.behind .keyNotString (b :: rest))
    else if b = comma then
      match skipSpace rest with
      | [] => .error (.behind .endInValue [])
      | c :: tail =>
        if c = quote then .ok (some tail)
        else if c = closeBrace then .error (.behind .trailingComma (c :: tail))
        else .error (.behind .keyNotString (c :: tail))
    else .error (.behind .expectedObjectCommaOrEnd (b :: rest))

/-- The end of an object behind its last member. -/
def endObject (s : Bytes) : Except Fault Bytes :=
  match skipSpace s with
  | [] => .error (.behind .endInObject [])
  | b :: rest =>
    if b = closeBrace then .ok rest
    else if b = comma then .error (.behind .trailingComma (b :: rest))
    else .error (.behind .trailingCharacters (b :: rest))

/-- What stands where an element may begin: the element or the end of the array. -/
def nextElement (first : Bool) (s : Bytes) : Except Fault (Option Bytes) :=
  match skipSpace s with
  | [] => .error (.behind .endInList [])
  | b :: rest =>
    if b = closeBracket then .ok none
    else if first then .ok (some (b :: rest))
    else if b = comma then
      match skipSpace rest with
      | [] => .error (.behind .endInValue [])
      | c :: tail =>
        if c = closeBracket then .error (.behind .trailingComma (c :: tail))
        else .ok (some (c :: tail))
    else .error (.behind .expectedListCommaOrEnd (b :: rest))

/-- The end of an array behind its last element. -/
def endArray (s : Bytes) : Except Fault Bytes :=
  match skipSpace s with
  | [] => .error (.behind .endInList [])
  | b :: rest =>
    if b = closeBracket then .ok rest
    else if b = comma then
      match skipSpace rest with
      | [] => .error (.behind .trailingCharacters [])
      | c :: tail =>
        if c = closeBracket then .error (.behind .trailingComma (c :: tail))
        else .error (.behind .trailingCharacters (c :: tail))
    else .error (.behind .trailingCharacters (b :: rest))

/-! ### Refusals -/

/-- What a value is called in a refusal. -/
def Value.describe : Value → String
  | .null => "null"
  | .bool b => "boolean `" ++ (if b then "true" else "false") ++ "`"
  | .number (.int n) => "integer `" ++ toString n ++ "`"
  | .number n => "floating point `" ++ Utf8.decodeLossy n.render ++ "`"
  | .string s => "string " ++ Quoted.render s
  | .array _ => "sequence"
  | .object _ => "map"

/-- A refusal of a well-formed value, noticed in front of `rest`. -/
def refuse (reason : String) (rest : Bytes) : Fault := .before (.refused reason) rest

/-- The refusal of a value of the wrong type in front of a text. Of an array or an object only the
opening has been seen. -/
def wrongType (expected : String) (s : Bytes) : Fault :=
  match skipSpace s with
  | [] => .behind .endInValue []
  | b :: rest =>
    let refused (seen : Except Fault (Value × Bytes)) : Fault :=
      match seen with
      | .ok (v, rest) =>
        refuse ("invalid type: " ++ v.describe ++ ", expected " ++ expected) rest
      | .error fault => fault
    let literal (v : Value) (tail : Bytes) := refused ((v, ·) <$> skipIdent tail rest)
    if b = 0x6E then literal .null nullTail
    else if b = 0x74 then literal (.bool true) trueTail
    else if b = 0x66 then literal (.bool false) falseTail
    else if b = minus then refused ((fun p => (.number p.1, p.2)) <$> readNumber true rest)
    else if isDigit b then refused ((fun p => (.number p.1, p.2)) <$> readNumber false (b :: rest))
    else if b = quote then refused ((fun p => (.string p.1, p.2)) <$> readString rest)
    else if b = openBracket then refused (.ok (.array [], b :: rest))
    else if b = openBrace then refused (.ok (.object [], b :: rest))
    else .behind .expectedValue (b :: rest)

/-- Reads a string where nothing else will do. -/
def expectString (expected : String) (s : Bytes) : Except Fault (String × Bytes) :=
  match skipSpace s with
  | [] => .error (.behind .endInValue [])
  | b :: rest => if b = quote then readString rest else .error (wrongType expected (b :: rest))

/-! ### Values -/

/-- A fault of the text that a string holds, as a fault of the text around it. -/
def Fault.quotedFrom (text : Bytes) (fault : Fault) : Fault :=
  ⟨fault.problem, .quoted (fault.position text)⟩

mutual

/-- Reads a value with `depth` levels left. `fuel` bounds the number of tokens. -/
def readValueFrom : Nat → Nat → Bytes → Except Fault (Value × Bytes)
  | 0, _, s => .error (.behind .endInValue s)
  | fuel + 1, depth, s =>
    match skipSpace s with
    | [] => .error (.behind .endInValue [])
    | b :: rest =>
      if b = 0x6E then do pure (.null, ← skipIdent nullTail rest)
      else if b = 0x74 then do pure (.bool true, ← skipIdent trueTail rest)
      else if b = 0x66 then do pure (.bool false, ← skipIdent falseTail rest)
      else if b = minus then do
        let (n, rest) ← readNumber true rest
        pure (.number n, rest)
      else if isDigit b then do
        let (n, rest) ← readNumber false (b :: rest)
        pure (.number n, rest)
      else if b = quote then do
        let (text, rest) ← readString rest
        pure (.string text, rest)
      else if b = openBracket then
        if depth ≤ 1 then .error (.behind .tooDeep (b :: rest))
        else do
          let (vs, rest) ← readElements fuel (depth - 1) true [] rest
          pure (.array vs, ← endArray rest)
      else if b = openBrace then
        if depth ≤ 1 then .error (.behind .tooDeep (b :: rest))
        else do
          let (v, rest) ← readObject fuel (depth - 1) rest
          pure (v, ← endObject rest)
      else .error (.behind .expectedValue (b :: rest))

/-- Reads the elements of an array up to its end, gathering them in reverse. -/
def readElements : Nat → Nat → Bool → List Value → Bytes → Except Fault (List Value × Bytes)
  | 0, _, _, _, s => .error (.behind .endInList s)
  | fuel + 1, depth, first, acc, s => do
    match ← nextElement first s with
    | none => pure (acc.reverse, s)
    | some rest =>
      let (v, rest) ← readValueFrom fuel depth rest
      readElements fuel depth false (v :: acc) rest

/-- Reads an object behind its brace, up to its end. -/
def readObject : Nat → Nat → Bytes → Except Fault (Value × Bytes)
  | 0, _, s => .error (.behind .endInObject s)
  | fuel + 1, depth, s => do
    match ← nextMember true s with
    | none => pure (.object [], s)
    | some rest =>
      let (name, rest) ← readString rest
      let rest ← skipColon rest
      if name = rawToken then readQuoted fuel rest
      else
        let (v, rest) ← readValueFrom fuel depth rest
        readMembers fuel depth [(name, v)] rest

/-- Reads the members of an object after the first, up to its end. -/
def readMembers : Nat → Nat → Members → Bytes → Except Fault (Value × Bytes)
  | 0, _, _, s => .error (.behind .endInObject s)
  | fuel + 1, depth, members, s => do
    match ← nextMember false s with
    | none => pure (.object members, s)
    | some rest =>
      let (name, rest) ← readString rest
      let rest ← skipColon rest
      let (v, rest) ← readValueFrom fuel depth rest
      readMembers fuel depth (members.insert name v) rest

/-- Reads the value that a string holds the text of. -/
def readQuoted : Nat → Bytes → Except Fault (Value × Bytes)
  | 0, s => .error (.behind .endInValue s)
  | fuel + 1, s => do
    let (text, rest) ← expectString "string containing a raw JSON value" s
    let inner := Utf8.encode text
    match readValueFrom fuel maxDepth inner with
    | .error fault => .error (fault.quotedFrom inner)
    | .ok (v, tail) =>
      match endText tail with
      | .error fault => .error (fault.quotedFrom inner)
      | .ok () => pure (v, rest)

end

/-- Reads a value at the front of a text with `depth` levels left. -/
def readValue (depth : Nat) (s : Bytes) : Except Fault (Value × Bytes) :=
  readValueFrom (4 * s.length + 4) depth s

/-- The value that a text holds. -/
def parse (s : Bytes) : Except Fault Value := do
  let (v, rest) ← readValue maxDepth s
  endText rest
  pure v

/-! ### Structures -/

/-- The text behind an object whose reading was given up: blanks and, if it comes next, the end of
the object have been passed. Refusals that name no place are noticed there. -/
def givenUp (s : Bytes) : Bytes :=
  match skipSpace s with
  | [] => []
  | b :: rest => if b = closeBrace then rest else b :: rest

/-- Reads the members of an object behind its brace, up to its end. `field` is given each name and
the text behind it, and reads the member's value. -/
def foldMembers {σ : Type} (field : String → σ → Bytes → Except Fault (σ × Bytes)) :
    Nat → Bool → σ → Bytes → Except Fault (σ × Bytes)
  | 0, _, _, s => .error (.behind .endInObject s)
  | fuel + 1, first, state, s => do
    match ← nextMember first s with
    | none => pure (state, s)
    | some rest =>
      let (name, rest) ← readString rest
      let (state, rest) ← field name state rest
      foldMembers field fuel false state rest

/-- Passes over the value of a member behind its name. -/
def skipMember (s : Bytes) : Except Fault Bytes := do skipValue (← skipColon s)

/-- The refusal of a member that is there twice, behind the second name. -/
def duplicateField (name : String) (s : Bytes) : Fault :=
  refuse ("duplicate field `" ++ name ++ "`") (givenUp s)

end Switchboard.Json
