import Switchboard.Yaml.Token.Scanner
/-!
# Events of YAML

The events of a text tell which nodes it holds, in order. They are read from tokens by a stack of
expectations, the next one first. Where the tokens end or are not those expected, the events end.
-/

namespace Switchboard.Yaml

/-- An event. Of the tags only those of scalars are kept. -/
inductive Event
  | documentStart
  | documentEnd
  | textEnd
  | alias (name : List Char)
  | scalar (anchor tag : Option (List Char)) (text : List Char) ( isPlain : Bool)
  | openSequence (anchor : Option (List Char))
  | openMapping (anchor : Option (List Char))
  | closeSequence
  | closeMapping
  deriving DecidableEq, Repr

/-- The scalar that stands where nothing is written. -/
def Event.blank : Event := .scalar none none [] true

/-- What may come next. -/
inductive Expected
  /-- A document, which needs no line of three hyphens. -/
  | firstDocument
  | document
  /-- The node of a document that such a line began. -/
  | content
  | documentEnd
  | blockNode
  | blockEntry
  /-- An entry of a sequence that is not indented within its mapping. -/
  | levelEntry
  | blockKey
  | blockValue
  | flowEntry (first : Bool)
  /-- The parts of a mapping of one member within a sequence. -/
  | pairKey
  | pairValue
  | pairEnd
  | flowKey (first : Bool)
  | flowValue
  /-- The value of a member without a colon. -/
  | noValue
  deriving DecidableEq, Repr

/-- How far the reading of events has come. -/
structure EventReader where
  tokens : List Token
  expected : List Expected
  /-- The tag handles that are declared, with what they stand for. -/
  handles : List (List Char × List Char)

namespace EventReader

/-- The handles that need no declaration. -/
def standardHandles : List (List Char × List Char) :=
  [(['!'], ['!']), (['!', '!'], "tag:yaml.org,2002:".toList)]

/-- An event and the reading behind it, with what is expected then. -/
def emit (r : EventReader) (e : Event) (tokens : List Token) (expected : List Expected) :
    Option (Event × EventReader) :=
  some (e, { r with tokens := tokens, expected := expected })

/-- The anchor and the tag in front of a node, in either order. -/
def readProperties : List Token →
    Option (List Char) × Option (List Char × List Char) × List Token
  | .anchor a :: .tag h s :: ts => (some a, some (h, s), ts)
  | .tag h s :: .anchor a :: ts => (some a, some (h, s), ts)
  | .anchor a :: ts => (some a, none, ts)
  | .tag h s :: ts => (none, some (h, s), ts)
  | ts => (none, none, ts)

/-- The tag that a handle and a suffix stand for; nothing when the handle is not declared. -/
def resolveTag (r : EventReader) : Option (List Char × List Char) → Option (Option (List Char))
  | none => some none
  | some ([], suffix) => some (some suffix)
  | some (handle, suffix) =>
    (r.handles.find? (·.1 = handle)).map fun (_, lead) => some (lead ++ suffix)

/-- A node, behind which `next` is expected. -/
def node (block level : Bool) (r : EventReader) (tokens : List Token) (next : List Expected) :
    Option (Event × EventReader) :=
  match tokens with
  | .alias name :: ts => r.emit (.alias name) ts next
  | _ => do
    let (anchor, written, tokens) := readProperties tokens
    let tag ← r.resolveTag written
    match tokens with
    | [] => none
    | .scalar text isPlain :: ts =>
      r.emit (.scalar anchor tag text isPlain) ts next
    | .openSequence :: ts => r.emit (.openSequence anchor) ts (.flowEntry true :: next)
    | .openMapping :: ts => r.emit (.openMapping anchor) ts (.flowKey true :: next)
    | t :: ts =>
      if level && t = .blockEntry then
        r.emit (.openSequence anchor) (t :: ts) (.levelEntry :: next)
      else if block && t = .blockSequence then
        r.emit (.openSequence anchor) ts (.blockEntry :: next)
      else if block && t = .blockMapping then r.emit (.openMapping anchor) ts (.blockKey :: next)
      else if anchor.isSome || written.isSome then
        r.emit (.scalar anchor tag [] true) (t :: ts) next
      else none

/-- A node, or nothing written when one of the tokens `ends` comes next. -/
def nodeUnless (ends : List Token) (block level : Bool) (r : EventReader) (tokens : List Token)
    (next : List Expected) : Option (Event × EventReader) :=
  match tokens with
  | [] => none
  | t :: ts =>
    if ends.contains t then r.emit .blank (t :: ts) next else r.node block level (t :: ts) next

/-- Reads the directives before a document. -/
def readDirectives : List Token → Bool → List (List Char × List Char) →
    Option (List (List Char × List Char) × List Token)
  | .version major minor :: ts, seen, handles =>
    if !seen && major = 1 && (minor = 1 || minor = 2) then readDirectives ts true handles
    else none
  | .tagHandle handle lead :: ts, seen, handles =>
    if handles.any (·.1 = handle) then none
    else readDirectives ts seen (handles ++ [(handle, lead)])
  | ts, _, handles => some (handles ++ standardHandles, ts)

/-- Reads a document's beginning, which must be marked. -/
def openDocument (r : EventReader) (tokens : List Token) (rest : List Expected) :
    Option (Event × EventReader) := do
  match ← readDirectives tokens false [] with
  | (handles, .documentStart :: ts) =>
    emit { r with handles := handles } .documentStart ts (.content :: .documentEnd :: rest)
  | _ => none

/-- Whether a token belongs to a document's beginning. -/
def opensDocument : Token → Bool
  | .version _ _ => true
  | .tagHandle _ _ => true
  | .documentStart => true
  | _ => false

/-- An entry of a sequence between brackets, which may be a mapping of one member. -/
def entry (r : EventReader) (tokens : List Token) (rest : List Expected) :
    Option (Event × EventReader) :=
  match tokens with
  | .key :: ts => r.emit (.openMapping none) ts (.pairKey :: rest)
  | ts => r.node false false ts (.flowEntry false :: rest)

/-- A member of a mapping between braces. -/
def member (r : EventReader) (tokens : List Token) (rest : List Expected) :
    Option (Event × EventReader) :=
  match tokens with
  | .key :: ts =>
    r.nodeUnless [.value, .flowEntry, .closeMapping] false false ts (.flowValue :: rest)
  | ts => r.node false false ts (.noValue :: rest)

/-- The next event. -/
def step (r : EventReader) : Option (Event × EventReader) :=
  match r.expected, r.tokens with
  | [], _ => none
  | .documentEnd :: rest, .documentEnd :: ts => r.emit .documentEnd ts (.document :: rest)
  | .documentEnd :: rest, t :: ts => r.emit .documentEnd (t :: ts) (.document :: rest)
  | .document :: rest, tokens =>
    match tokens.dropWhile (· = .documentEnd) with
    | [.textEnd] => r.emit .textEnd [] []
    | ts => r.openDocument ts rest
  | .firstDocument :: rest, t :: ts =>
    if t = .textEnd then r.emit .textEnd [] []
    else if opensDocument t then r.openDocument (t :: ts) rest
    else
      emit { r with handles := standardHandles } .documentStart (t :: ts)
        (.blockNode :: .documentEnd :: rest)
  | .content :: rest, t :: ts =>
    if opensDocument t || t = .documentEnd || t = .textEnd then r.emit .blank (t :: ts) rest
    else r.node true false (t :: ts) rest
  | .blockNode :: rest, ts => r.node true false ts rest
  | .blockEntry :: rest, .blockEntry :: ts =>
    r.nodeUnless [.blockEntry, .blockEnd] true false ts (.blockEntry :: rest)
  | .blockEntry :: rest, .blockEnd :: ts => r.emit .closeSequence ts rest
  | .levelEntry :: rest, .blockEntry :: ts =>
    r.nodeUnless [.blockEntry, .key, .value, .blockEnd] true false ts (.levelEntry :: rest)
  | .levelEntry :: rest, t :: ts => r.emit .closeSequence (t :: ts) rest
  | .blockKey :: rest, .key :: ts =>
    r.nodeUnless [.key, .value, .blockEnd] true true ts (.blockValue :: rest)
  | .blockKey :: rest, .blockEnd :: ts => r.emit .closeMapping ts rest
  | .blockValue :: rest, .value :: ts =>
    r.nodeUnless [.key, .value, .blockEnd] true true ts (.blockKey :: rest)
  | .blockValue :: rest, t :: ts => r.emit .blank (t :: ts) (.blockKey :: rest)
  | .flowEntry _ :: rest, .closeSequence :: ts => r.emit .closeSequence ts rest
  | .flowEntry true :: rest, ts => r.entry ts rest
  | .flowEntry false :: rest, .flowEntry :: .closeSequence :: ts => r.emit .closeSequence ts rest
  | .flowEntry false :: rest, .flowEntry :: ts => r.entry ts rest
  | .pairKey :: rest, .value :: ts => r.emit .blank ts (.pairValue :: rest)
  | .pairKey :: rest, .flowEntry :: ts => r.emit .blank ts (.pairValue :: rest)
  | .pairKey :: rest, .closeSequence :: ts => r.emit .blank ts (.pairValue :: rest)
  | .pairKey :: rest, ts => r.node false false ts (.pairValue :: rest)
  | .pairValue :: rest, .value :: ts =>
    r.nodeUnless [.flowEntry, .closeSequence] false false ts (.pairEnd :: rest)
  | .pairValue :: rest, t :: ts => r.emit .blank (t :: ts) (.pairEnd :: rest)
  | .pairEnd :: rest, t :: ts => r.emit .closeMapping (t :: ts) (.flowEntry false :: rest)
  | .flowKey _ :: rest, .closeMapping :: ts => r.emit .closeMapping ts rest
  | .flowKey true :: rest, ts => r.member ts rest
  | .flowKey false :: rest, .flowEntry :: .closeMapping :: ts => r.emit .closeMapping ts rest
  | .flowKey false :: rest, .flowEntry :: ts => r.member ts rest
  | .flowValue :: rest, .value :: ts =>
    r.nodeUnless [.flowEntry, .closeMapping] false false ts (.flowKey false :: rest)
  | .flowValue :: rest, t :: ts => r.emit .blank (t :: ts) (.flowKey false :: rest)
  | .noValue :: rest, t :: ts => r.emit .blank (t :: ts) (.flowKey false :: rest)
  | _, _ => none

/-- All events; `fuel` bounds their number. -/
def all : Nat → EventReader → List Event
  | 0, _ => []
  | fuel + 1, r =>
    match r.step with
    | some (e, r) => e :: all fuel r
    | none => []

end EventReader

/-- The events of tokens, up to the end of the text or to the first place that is no YAML. -/
def Event.ofTokens (tokens : List Token) : List Event :=
  EventReader.all (6 * tokens.length + 8) ⟨tokens, [.firstDocument], []⟩

end Switchboard.Yaml
