import Switchboard.Yaml.Cursor
import Switchboard.Text.Ascii
/-!
# Scalars

A scalar is written plain, between single or double quotes, or as a block of lines. Its lines are
folded: one break between two words counts as a space, and of several the first one is dropped.
-/

namespace Switchboard.Yaml

/-! ### What stands between two words -/

/-- Blanks and line breaks between two words. -/
structure Gap where
  /-- The blanks, when there is no break. -/
  blanks : List Char
  /-- The first break. -/
  first : List Char
  /-- The breaks after it. -/
  more : List Char
  broken : Bool
  deriving DecidableEq, Repr

namespace Gap

/-- Nothing yet. -/
def empty : Gap := ⟨[], [], [], false⟩

/-- Nothing but a break that leaves no trace. -/
def escaped : Gap := ⟨[], [], [], true⟩

/-- What a gap counts as. -/
def fold (g : Gap) : List Char :=
  if g.broken then
    if g.first = ['\n'] then if g.more.isEmpty then [' '] else g.more
    else g.first ++ g.more
  else g.blanks

/-- Reads blanks and breaks. A tab left of the column `least` is refused once a line has ended.
`fuel` bounds the number of characters. -/
def read (least : Option Int) : Nat → Gap → Cursor → Option (Gap × Cursor)
  | 0, g, c => some (g, c)
  | fuel + 1, g, c =>
    match c.rest with
    | [] => some (g, c)
    | x :: _ =>
      if isBlank x then
        if g.broken then
          if x = '\t' && least.any ((c.column : Int) < ·) then none
          else read least fuel g (c.advance 1)
        else read least fuel { g with blanks := g.blanks ++ [x] } (c.advance 1)
      else if isBreak x then
        if g.broken then read least fuel { g with more := g.more ++ c.lineEnd } c.nextLine
        else read least fuel ⟨[], c.lineEnd, g.more, true⟩ c.nextLine
      else some (g, c)

end Gap

/-! ### Plain scalars -/

/-- The characters that end a plain scalar between brackets. -/
def isFlowMark (c : Char) : Bool := c = ',' || c = '[' || c = ']' || c = '{' || c = '}'

/-- One word of a plain scalar; nothing when a colon stands before a mark between brackets. -/
def readWord (flow : Bool) : List Char → Option (List Char)
  | [] => some []
  | c :: rest =>
    if isBlank c || isBreak c then some []
    else if flow && c = ':' && rest.head?.any (fun d => isFlowMark d || d = '?') then none
    else if (c = ':' && atGap rest) || (flow && isFlowMark c) then some []
    else (readWord flow rest).map (c :: ·)

/-- What was read of a scalar. -/
structure Scalar where
  text : List Char
  /-- Whether it ended with a line, so that what follows begins one. -/
  broken : Bool
  cursor : Cursor

/-- Reads a plain scalar on from a gap. Outside brackets its lines stand at `least` or right of it.
`fuel` bounds the number of words. -/
def readPlain (flow : Bool) (least : Int) :
    Nat → List Char → Gap → Cursor → Option Scalar
  | 0, text, gap, c => some ⟨text, gap.broken, c⟩
  | fuel + 1, text, gap, c =>
    if c.atMark || c.at? '#' then some ⟨text, gap.broken, c⟩
    else do
      let word ← readWord flow c.rest
      let c := c.advance word.length
      let (text, gap) := if word.isEmpty then (text, gap) else (text ++ gap.fold ++ word, .empty)
      if c.rest.isEmpty || !atGap c.rest then pure ⟨text, gap.broken, c⟩
      else
        let (gap, c) ← Gap.read (some least) c.rest.length gap c
        if !flow && (c.column : Int) < least then pure ⟨text, gap.broken, c⟩
        else readPlain flow least fuel text gap c

/-! ### Quoted scalars -/

/-- The character that an escape of one letter stands for. -/
def escapedChar? : Char → Option Char
  | '0' => some '\x00'
  | 'a' => some '\x07'
  | 'b' => some '\x08'
  | 't' => some '\t'
  | '\t' => some '\t'
  | 'n' => some '\n'
  | 'v' => some '\x0b'
  | 'f' => some '\x0c'
  | 'r' => some '\r'
  | 'e' => some '\x1b'
  | ' ' => some ' '
  | '"' => some '"'
  | '/' => some '/'
  | '\\' => some '\\'
  | 'N' => some '\u0085'
  | '_' => some '\u00a0'
  | 'L' => some '\u2028'
  | 'P' => some '\u2029'
  | _ => none

/-- The number of digits that a letter announces. -/
def codeLength? : Char → Option Nat
  | 'x' => some 2
  | 'u' => some 4
  | 'U' => some 8
  | _ => none

/-- The character with a number in hexadecimal. -/
def readCode (digits : List Char) : Option Char := do
  let n ← digits.foldl (fun n d => do
    let v ← if d.toNat < 0x80 then Ascii.hexValue? d.toUInt8 else none
    (fun m => m * 16 + v) <$> n) (some 0)
  if 0x10FFFF < n || (0xD800 ≤ n && n ≤ 0xDFFF) then none else some (Char.ofNat n)

/-- Words of a quoted scalar up to a blank, a break or the quote; tells whether they ended in an
escaped break. `fuel` bounds the number of characters. -/
def readQuotedWord (quote : Char) :
    Nat → List Char → Cursor → Option (List Char × Bool × Cursor)
  | 0, _, _ => none
  | fuel + 1, word, c =>
    match c.rest with
    | [] => some (word, false, c)
    | x :: rest =>
      if isBlank x || isBreak x then some (word, false, c)
      else if x = quote then
        if quote = '\'' && rest.head? = some '\'' then
          readQuotedWord quote fuel (word ++ ['\'']) (c.advance 2)
        else some (word, false, c)
      else if x = '\\' && quote = '"' then
        match rest with
        | [] => none
        | y :: digits =>
          if isBreak y then some (word, true, (c.advance 1).nextLine)
          else
            match codeLength? y with
            | some n =>
              if digits.length < n then none
              else do
                let d ← readCode (digits.take n)
                readQuotedWord quote fuel (word ++ [d]) (c.advance (n + 2))
            | none => do
              readQuotedWord quote fuel (word ++ [← escapedChar? y]) (c.advance 2)
      else readQuotedWord quote fuel (word ++ [x]) (c.advance 1)

/-- Reads a quoted scalar behind its first quote. `fuel` bounds the number of words. -/
def readQuoted (quote : Char) : Nat → List Char → Cursor → Option Scalar
  | 0, _, _ => none
  | fuel + 1, text, c =>
    if c.atMark || c.rest.isEmpty then none
    else do
      let (word, escaped, c) ← readQuotedWord quote (c.rest.length + 1) [] c
      let text := text ++ word
      if c.at? quote then pure ⟨text, false, c.advance 1⟩
      else
        let (gap, c) ← Gap.read none c.rest.length (if escaped then .escaped else .empty) c
        readQuoted quote fuel (text ++ gap.fold) c

/-! ### Blocks -/

/-- What becomes of the breaks at the end of a block. -/
inductive Chomping
  | strip
  | clip
  | keep
  deriving DecidableEq, Repr

/-- The sign of what becomes of the last breaks. -/
def chomping? : Char → Option Chomping
  | '+' => some .keep
  | '-' => some .strip
  | _ => none

/-- The head of a block: what becomes of the last breaks and how far its lines are indented, in
either order. Nothing when the indentation is zero. -/
def readBlockHead (c : Cursor) : Option (Chomping × Nat × Cursor) :=
  let indentation (c : Cursor) : Option (Nat × Cursor) :=
    match c.head? with
    | some d =>
      if d = '0' then none
      else if d.isDigit then some (d.toNat - 0x30, c.advance 1)
      else some (0, c)
    | none => some (0, c)
  match c.head?.bind chomping? with
  | some chomping => do
    let (n, c) ← indentation (c.advance 1)
    pure (chomping, n, c)
  | none => do
    let (n, c) ← indentation c
    if n = 0 then pure (.clip, 0, c)
    else
      match c.head?.bind chomping? with
      | some chomping => pure (chomping, n, c.advance 1)
      | none => pure (.clip, n, c)

/-- Reads the indentation of a line and the empty lines before it; with `indent` zero it is still
to be found. `fuel` bounds the number of lines. -/
def readBlockBreaks (indent : Nat) :
    Nat → Nat → List Char → Cursor → Option (Nat × List Char × Cursor)
  | 0, deepest, breaks, c => some (deepest, breaks, c)
  | fuel + 1, deepest, breaks, c =>
    let spaces := (c.rest.takeWhile (· = ' ')).length
    let spaces := if indent = 0 then spaces else min spaces (indent - c.column)
    let c := c.advance spaces
    let deepest := max deepest c.column
    if (indent = 0 || c.column < indent) && c.at? '\t' then none
    else if c.atBreak then readBlockBreaks indent fuel deepest (breaks ++ c.lineEnd) c.nextLine
    else some (deepest, breaks, c)

/-- The lines of a block that stand at its indentation. `leading` is the break behind the last line
and `breaks` are those of the empty lines after it. -/
structure Block where
  text : List Char
  leading : List Char
  breaks : List Char
  /-- Whether the last line began with a blank. -/
  blank : Bool
  cursor : Cursor

/-- Reads the lines of a block; `fuel` bounds their number. -/
def readBlockLines (folded : Bool) (indent : Nat) : Nat → Block → Option Block
  | 0, b => some b
  | fuel + 1, b =>
    if b.cursor.column ≠ indent || b.cursor.rest.isEmpty then some b
    else do
      let blank := b.cursor.head?.any isBlank
      let joined :=
        if folded && b.leading = ['\n'] && !b.blank && !blank then
          if b.breaks.isEmpty then [' '] else []
        else b.leading
      let line := b.cursor.rest.takeWhile (!isBreak ·)
      let c := b.cursor.advance line.length
      let leading := c.lineEnd
      let (_, breaks, c) ← readBlockBreaks indent c.rest.length 0 [] c.nextLine
      let text := b.text ++ joined ++ b.breaks ++ line
      readBlockLines folded indent fuel ⟨text, leading, breaks, blank, c⟩

/-- Reads a block behind its sign, in a place indented by `outer`. -/
def readBlock (folded : Bool) (outer : Int) (c : Cursor) : Option Scalar := do
  let (chomping, extra, c) ← readBlockHead c
  let c ← c.finishLine
  let given := if extra = 0 then 0 else if 0 ≤ outer then outer.toNat + extra else extra
  let (deepest, breaks, c) ← readBlockBreaks given c.rest.length 0 [] c
  let indent := if given = 0 then max (max deepest (outer + 1).toNat) 1 else given
  let b ← readBlockLines folded indent c.rest.length ⟨[], [], breaks, false, c⟩
  let tail := match chomping with
    | .strip => []
    | .clip => b.leading
    | .keep => b.leading ++ b.breaks
  pure ⟨b.text ++ tail, true, b.cursor⟩

end Switchboard.Yaml
