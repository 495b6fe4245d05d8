import Switchboard.Yaml.Token
import Switchboard.Yaml.Scalar
/-!
# Scanning tokens

A scalar may turn out to be a key only when the colon behind it is seen; the token that marks it as
one is then put before it. Until that is settled the scalar is a candidate, and nothing from it on
can be handed out. A candidate lapses at the end of its line or after 1024 characters; one that
stands where a block's next key is due must not lapse.
-/

namespace Switchboard.Yaml

/-- A token that may turn out to begin a key. -/
structure Candidate where
  /-- The number of the token. -/
  number : Nat
  /-- Whether nothing but a key may stand there. -/
  required : Bool
  index : Nat
  line : Nat
  column : Nat
  deriving DecidableEq, Repr

/-- How far the scanning of a text has come. -/
structure Scanner where
  cursor : Cursor
  tokens : Array Token
  /-- The candidate of each bracket that is open, and of the text, the innermost first. -/
  candidates : List (Option Candidate)
  /-- The column of the innermost block; before the first it is -1. -/
  indent : Int
  /-- The columns of the blocks around it. -/
  outer : List Int
  /-- Whether a key may begin here. -/
  keyAllowed : Bool
  deriving Repr

namespace Scanner

/-- Before the first token. -/
def start (text : List Char) : Scanner := ⟨.start text, #[], [none], -1, [], true⟩

/-- Whether a bracket is open. -/
def inFlow (s : Scanner) : Bool := 1 < s.candidates.length

/-- Adds a token. -/
def push (s : Scanner) (t : Token) : Scanner := { s with tokens := s.tokens.push t }

/-- Puts a token before the one with the given number. -/
def putBefore (s : Scanner) (number : Nat) (t : Token) : Scanner :=
  { s with tokens := s.tokens.insertIdxIfInBounds number t }

/-- The number of tokens that no candidate holds back. -/
def settled (s : Scanner) : Nat :=
  s.candidates.foldl (fun n c =>
    match c with
    | some c => min n c.number
    | none => n) s.tokens.size

/-- Drops the candidates that have lapsed; nothing when one was required. -/
def lapse (s : Scanner) : Option Scanner := do
  let candidates ← s.candidates.mapM fun c =>
    match c with
    | none => some none
    | some c =>
      if c.line < s.cursor.line || c.index + 1024 < s.cursor.index then
        if c.required then none else some none
      else some (some c)
  pure { s with candidates := candidates }

/-- Drops the innermost candidate; nothing when it was required. -/
def dropCandidate (s : Scanner) : Option Scanner :=
  match s.candidates with
  | some c :: rest => if c.required then none else some { s with candidates := none :: rest }
  | _ => some s

/-- Makes the next token a candidate, where a key may begin. -/
def offer (s : Scanner) : Option Scanner :=
  if s.keyAllowed then do
    let c := s.cursor
    let required := !s.inFlow && s.indent = (c.column : Int)
    let s ← s.dropCandidate
    let candidate : Candidate := ⟨s.tokens.size, required, c.index, c.line, c.column⟩
    pure { s with candidates := some candidate :: s.candidates.drop 1 }
  else some s

/-- Opens a block in a column to the right of the innermost one, at the token with the given
number. -/
def openBlock (s : Scanner) (column number : Nat) (t : Token) : Scanner :=
  if !s.inFlow && s.indent < (column : Int) then
    { s with outer := s.indent :: s.outer, indent := column }.putBefore number t
  else s

/-- Closes one block after the other while they stand right of a column. -/
def closeBlocksFrom (column : Int) (s : Scanner) : List Int → Scanner
  | [] => s
  | outer :: rest =>
    if column < s.indent then
      closeBlocksFrom column ({ s with indent := outer, outer := rest }.push .blockEnd) rest
    else s

/-- Closes the blocks that stand right of a column. -/
def closeBlocks (s : Scanner) (column : Int) : Scanner :=
  if s.inFlow then s else closeBlocksFrom column s s.outer

/-- Passes over blanks, comments and line breaks before a token; `fuel` bounds the lines. A tab is
a blank only where no key may begin. -/
def skipBlanks : Nat → Scanner → Scanner
  | 0, s => s
  | fuel + 1, s =>
    let c := s.cursor
    let c := if c.column = 0 && c.at? '\ufeff' then c.advance 1 else c
    let c := c.skipWhile fun x => x = ' ' || ((s.inFlow || !s.keyAllowed) && x = '\t')
    let c := if c.at? '#' then c.skipWhile (!isBreak ·) else c
    if c.atBreak then
      skipBlanks fuel { s with cursor := c.nextLine, keyAllowed := s.keyAllowed || !s.inFlow }
    else { s with cursor := c }

/-! ### Tokens of their own -/

/-- Begins a token that stands outside every block. -/
def leaveBlocks (s : Scanner) : Option Scanner := do
  let s ← (s.closeBlocks (-1)).dropCandidate
  pure { s with keyAllowed := false }

/-- Adds a token of `n` characters. -/
def pushSign (s : Scanner) (n : Nat) (t : Token) : Scanner :=
  { s with cursor := s.cursor.advance n }.push t

/-- The end of the text. -/
def finish (s : Scanner) : Option Scanner := do
  let c := s.cursor
  let c := if c.column = 0 then c else { c with column := 0, line := c.line + 1 }
  let s ← leaveBlocks { s with cursor := c }
  pure (s.push .textEnd)

/-- A number of at most nine digits and what follows it. -/
def readVersionNumber (c : Cursor) : Option (Nat × Cursor) :=
  let digits := c.rest.takeWhile Char.isDigit
  if digits.isEmpty || 9 < digits.length then none
  else some (digits.foldl (fun n d => n * 10 + (d.toNat - 0x30)) 0, c.advance digits.length)

/-- A handle: an exclamation mark, or a word between two of them. A tag may begin with one mark and
a word that are no handle. -/
def readHandle (directive : Bool) (c : Cursor) : Option (List Char × Cursor) :=
  if c.at? '!' then
    let word := (c.rest.drop 1).takeWhile isWordChar
    let c := c.advance (word.length + 1)
    if c.at? '!' then some ('!' :: word ++ ['!'], c.advance 1)
    else if directive && !word.isEmpty then none
    else some ('!' :: word, c)
  else none

/-- A character that a tag may hold as it is. -/
def isTagChar (verbatim : Bool) (c : Char) : Bool :=
  isWordChar c || ";/?:@&=+$.!~*'()%".toList.contains c || (verbatim && ",[]".toList.contains c)

/-- One byte written in hexadecimal behind a percent sign. -/
def readEscapedByte : List Char → Option (UInt8 × List Char)
  | '%' :: h :: l :: rest => do
    let x ← if h.toNat < 0x80 then Ascii.hexValue? h.toUInt8 else none
    let y ← if l.toNat < 0x80 then Ascii.hexValue? l.toUInt8 else none
    pure ((x * 16 + y).toUInt8, rest)
  | _ => none

/-- `n` bytes written in hexadecimal. -/
def readEscapedBytes : Nat → List Char → Option Bytes
  | 0, _ => some []
  | n + 1, s => do
    let (b, rest) ← readEscapedByte s
    pure (b :: (← readEscapedBytes n rest))

/-- The number of bytes of the character that begins with a byte. -/
def escapedLength? (b : UInt8) : Option Nat :=
  if b &&& 0x80 = 0 then some 1
  else if b &&& 0xE0 = 0xC0 then some 2
  else if b &&& 0xF0 = 0xE0 then some 3
  else if b &&& 0xF8 = 0xF0 then some 4
  else none

/-- The rest of a tag; `fuel` bounds the number of characters. -/
def readTagText (verbatim : Bool) : Nat → List Char → Cursor → Option (List Char × Cursor)
  | 0, text, c => some (text, c)
  | fuel + 1, text, c =>
    match c.rest with
    | [] => some (text, c)
    | x :: _ =>
      if !isTagChar verbatim x then some (text, c)
      else if x = '%' then do
        let (b, _) ← readEscapedByte c.rest
        let n ← escapedLength? b
        let bytes ← readEscapedBytes n c.rest
        if (bytes.drop 1).all fun b => b &&& 0xC0 = 0x80 then
          readTagText verbatim fuel (text ++ (Utf8.decodeLossy bytes).toList) (c.advance (3 * n))
        else none
      else readTagText verbatim fuel (text ++ [x]) (c.advance 1)

/-- The directive behind a percent sign. -/
def readDirective (c : Cursor) : Option (Token × Cursor) := do
  let name := c.rest.takeWhile isWordChar
  let c := c.advance name.length
  if name.isEmpty || !atGap c.rest then none
  let c := c.skipWhile isBlank
  if name = "YAML".toList then
    let (major, c) ← readVersionNumber c
    if !c.at? '.' then none
    let (minor, c) ← readVersionNumber (c.advance 1)
    pure (.version major minor, ← c.finishLine)
  else if name = "TAG".toList then
    let (handle, c) ← readHandle true c
    if !c.rest.head?.any isBlank then none
    let (lead, c) ← readTagText true c.rest.length [] (c.skipWhile isBlank)
    if lead.isEmpty || !atGap c.rest then none
    pure (.tagHandle handle lead, ← c.finishLine)
  else none

/-- A tag. -/
def readTag (c : Cursor) : Option (Token × Cursor) := do
  let fuel := c.rest.length
  if (c.rest.drop 1).head? = some '<' then
    let (text, c) ← readTagText true fuel [] (c.advance 2)
    if text.isEmpty || !c.at? '>' then none
    pure (.tag [] text, c.advance 1)
  else
    let (handle, c) ← readHandle false c
    if 1 < handle.length && handle.getLast? = some '!' then
      let (suffix, c) ← readTagText false fuel [] c
      if suffix.isEmpty then none
      pure (.tag handle suffix, c)
    else
      let (suffix, c) ← readTagText false fuel (handle.drop 1) c
      if suffix.isEmpty then pure (.tag [] ['!'], c) else pure (.tag ['!'] suffix, c)

/-- The name of an anchor or an alias, behind its sign. -/
def readName (c : Cursor) : Option (List Char × Cursor) :=
  let name := c.rest.takeWhile isWordChar
  let c := c.advance name.length
  if name.isEmpty then none
  else if atGap c.rest || c.rest.head?.any "?:,]\x7d%@\x60".toList.contains then some (name, c)
  else none

/-! ### The next token -/

/-- An entry of a block sequence. -/
def fetchEntry (s : Scanner) : Option Scanner := do
  if !s.inFlow && !s.keyAllowed then none
  let s := s.openBlock s.cursor.column s.tokens.size .blockSequence
  let s ← s.dropCandidate
  pure ({ s with keyAllowed := true }.pushSign 1 .blockEntry)

/-- The sign of a key. -/
def fetchKey (s : Scanner) : Option Scanner := do
  if !s.inFlow && !s.keyAllowed then none
  let s := s.openBlock s.cursor.column s.tokens.size .blockMapping
  let s ← s.dropCandidate
  pure ({ s with keyAllowed := !s.inFlow }.pushSign 1 .key)

/-- The sign of a value: the candidate, if there is one, is a key. -/
def fetchValue (s : Scanner) : Option Scanner :=
  match s.candidates with
  | some c :: rest =>
    let s := { s with candidates := none :: rest, keyAllowed := false }.putBefore c.number .key
    some ((s.openBlock c.column c.number .blockMapping).pushSign 1 .value)
  | _ =>
    if !s.inFlow && !s.keyAllowed then none
    else
      let s := s.openBlock s.cursor.column s.tokens.size .blockMapping
      some ({ s with keyAllowed := !s.inFlow }.pushSign 1 .value)

/-- Opens a bracket. -/
def fetchOpen (s : Scanner) (t : Token) : Option Scanner := do
  let s ← s.offer
  pure ({ s with candidates := none :: s.candidates, keyAllowed := true }.pushSign 1 t)

/-- Closes a bracket. -/
def fetchClose (s : Scanner) (t : Token) : Option Scanner := do
  let s ← s.dropCandidate
  let candidates := if s.inFlow then s.candidates.drop 1 else s.candidates
  pure ({ s with candidates := candidates, keyAllowed := false }.pushSign 1 t)

/-- A token that may begin a key, read from the cursor on. -/
def fetchOffered (s : Scanner) (read : Cursor → Option (Token × Cursor)) : Option Scanner := do
  let s ← s.offer
  let (t, c) ← read s.cursor
  pure ({ s with cursor := c, keyAllowed := false }.push t)

/-- A block of lines. -/
def fetchBlock (folded : Bool) (s : Scanner) : Option Scanner := do
  let s ← s.dropCandidate
  let b ← readBlock folded s.indent (s.cursor.advance 1)
  pure ({ s with cursor := b.cursor, keyAllowed := true }.push (.scalar b.text false))

/-- A quoted scalar. -/
def readQuotedToken (quote : Char) (c : Cursor) : Option (Token × Cursor) := do
  let r ← readQuoted quote (c.rest.length + 1) [] (c.advance 1)
  pure (.scalar r.text false, r.cursor)

/-- A plain scalar. A key may begin behind it when it ended with a line. -/
def fetchPlain (s : Scanner) : Option Scanner := do
  let s ← s.offer
  let r ← readPlain s.inFlow (s.indent + 1) (s.cursor.rest.length + 1) [] .empty s.cursor
  pure ({ s with cursor := r.cursor, keyAllowed := r.broken }.push (.scalar r.text true))

/-- Whether a plain scalar may begin with a character, given what follows it. -/
def beginsPlain (flow : Bool) (x : Char) (rest : List Char) : Bool :=
  (!isBlank x && !isBreak x && !"-?:,[]\x7b\x7d#&*!|>'\"%@\x60".toList.contains x)
    || (x = '-' && !rest.head?.any isBlank)
    || (!flow && (x = '?' || x = ':') && !atGap rest)

/-- Fetches the token that begins at the cursor. -/
def fetchToken (s : Scanner) : Option Scanner :=
  match s.cursor.rest with
  | [] => s.finish
  | x :: rest =>
    if x = '%' && s.cursor.column = 0 then do
      let s ← s.leaveBlocks
      let (t, c) ← readDirective (s.cursor.advance 1)
      pure ({ s with cursor := c }.push t)
    else if s.cursor.atMark then do
      let s ← s.leaveBlocks
      pure (s.pushSign 3 (if x = '-' then .documentStart else .documentEnd))
    else if x = '[' then s.fetchOpen .openSequence
    else if x = '{' then s.fetchOpen .openMapping
    else if x = ']' then s.fetchClose .closeSequence
    else if x = '}' then s.fetchClose .closeMapping
    else if x = ',' then do
      let s ← s.dropCandidate
      pure ({ s with keyAllowed := true }.pushSign 1 .flowEntry)
    else if x = '-' && atGap rest then s.fetchEntry
    else if x = '?' && (s.inFlow || atGap rest) then s.fetchKey
    else if x = ':' && (s.inFlow || atGap rest) then s.fetchValue
    else if x = '*' then
      s.fetchOffered fun c => (readName (c.advance 1)).map fun (n, c) => (.alias n, c)
    else if x = '&' then
      s.fetchOffered fun c => (readName (c.advance 1)).map fun (n, c) => (.anchor n, c)
    else if x = '!' then
      s.fetchOffered fun c => do
        let (t, c) ← readTag c
        if atGap c.rest || (s.inFlow && c.at? ',') then pure (t, c) else none
    else if x = '|' && !s.inFlow then s.fetchBlock false
    else if x = '>' && !s.inFlow then s.fetchBlock true
    else if x = '\'' || x = '"' then s.fetchOffered (readQuotedToken x)
    else if beginsPlain s.inFlow x rest then s.fetchPlain
    else none

/-- Fetches the next token. -/
def fetch (s : Scanner) : Option Scanner := do
  let s ← (skipBlanks (s.cursor.rest.length + 1) s).lapse
  (← (s.closeBlocks s.cursor.column).fetchToken).lapse

/-- Whether the last token is there. -/
def isDone (s : Scanner) : Bool := s.tokens.back? = some .textEnd

/-- Fetches all tokens. Where that fails, those remain that were settled before. `fuel` bounds the
number of steps. -/
def fetchAll : Nat → Scanner → List Token
  | 0, s => s.tokens.toList.take s.settled
  | fuel + 1, s =>
    if s.isDone then s.tokens.toList
    else
      match s.fetch with
      | some s => fetchAll fuel s
      | none => s.tokens.toList.take s.settled

end Scanner

/-- The tokens of a text, up to its end or to the first place that is no YAML. -/
def Token.scan (text : List Char) : List Token :=
  if text.all isAllowed then Scanner.fetchAll (text.length + 1) (.start text) else []

end Switchboard.Yaml
