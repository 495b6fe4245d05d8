import Switchboard.Json.Scanner
import Mathlib
/-!
# The grammar of JSON

The grammar of RFC 8259 over bytes, as a relation beside the scanner. A value is derived on its
own, without the blanks around it; what stands between the brackets of an array or the braces of an
object is derived as its items. An item of an object has a name in front of its value, one of an
array has none, and both kinds are otherwise alike.

The blanks around tokens are the only place for a newline, so a text in which newlines have become
spaces has the same derivation (`Derives.oneLine`).
-/

namespace Switchboard.Json

open Ascii

/-! ### Tokens -/

/-- Blanks between tokens. -/
def IsBlank (s : Bytes) : Prop := ∀ b ∈ s, isSpace b = true

/-- One of the sixteen hexadecimal digits, in either case. -/
def IsHex (b : UInt8) : Prop := (hexValue? b).isSome = true

/-- What stands between the quotes of a string. -/
inductive IsBody : Bytes → Prop
  | nil : IsBody []
  | plain {b : UInt8} {s : Bytes} (hq : b ≠ quote) (hb : b ≠ backslash) (hc : ¬b < 0x20) :
    IsBody s → IsBody (b :: s)
  /-- A backslash and one of the eight letters that may follow it alone. -/
  | short {e : UInt8} {s : Bytes}
    (he : e ∈ [quote, backslash, slash, 0x62, 0x66, 0x6E, 0x72, 0x74]) :
    IsBody s → IsBody (backslash :: e :: s)
  /-- The escape of a UTF-16 unit. -/
  | unit {a b c d : UInt8} {s : Bytes} (ha : IsHex a) (hb : IsHex b) (hc : IsHex c) (hd : IsHex d) :
    IsBody s → IsBody (backslash :: 0x75 :: a :: b :: c :: d :: s)

/-- One digit or more. -/
def IsDigits (s : Bytes) : Prop := s ≠ [] ∧ ∀ b ∈ s, isDigit b = true

/-- An integer without leading zeros. -/
inductive IsInteger : Bytes → Prop
  | zero : IsInteger [zero]
  | digits {b : UInt8} {s : Bytes} (hz : b ≠ Ascii.zero) (hb : isDigit b = true)
    (hs : ∀ c ∈ s, isDigit c = true) : IsInteger (b :: s)

/-- A fraction, or nothing. -/
inductive IsFraction : Bytes → Prop
  | none : IsFraction []
  | some {s : Bytes} (hs : IsDigits s) : IsFraction (dot :: s)

/-- An exponent, or nothing. -/
inductive IsExponent : Bytes → Prop
  | none : IsExponent []
  | some {e : UInt8} {sign s : Bytes} (he : e = 0x65 ∨ e = 0x45)
    (hsign : sign = [] ∨ sign = [plus] ∨ sign = [minus]) (hs : IsDigits s) :
    IsExponent (e :: sign ++ s)

/-- A number without its sign. -/
inductive IsUnsigned : Bytes → Prop
  | mk {i f e : Bytes} (hi : IsInteger i) (hf : IsFraction f) (he : IsExponent e) :
    IsUnsigned (i ++ f ++ e)

/-! ### Values -/

/-- The byte that opens an array or an object. -/
def Nest.opener : Nest → UInt8
  | .list => openBracket
  | .object => openBrace

/-- What stands in front of an item's value: in an object a name and a colon. -/
inductive IsName : Nest → Bytes → Prop
  | list : IsName .list []
  | object {a n b : Bytes} (ha : IsBlank a) (hn : IsBody n) (hb : IsBlank b) :
    IsName .object (a ++ quote :: n ++ quote :: b ++ [colon])

/-- What is derived: one value, or the items of an array or an object. -/
inductive Form
  | value
  | items (nest : Nest)

/-- The texts of values and of items. -/
inductive Derives : Form → Bytes → Prop
  | null : Derives .value (0x6E :: nullTail)
  | true : Derives .value (0x74 :: trueTail)
  | false : Derives .value (0x66 :: falseTail)
  | positive {s : Bytes} (h : IsUnsigned s) : Derives .value s
  | negative {s : Bytes} (h : IsUnsigned s) : Derives .value (minus :: s)
  | string {s : Bytes} (h : IsBody s) : Derives .value (quote :: s ++ [quote])
  | empty {a : Bytes} (nest : Nest) (ha : IsBlank a) :
    Derives .value (nest.opener :: a ++ [nest.closer])
  | full {s : Bytes} (nest : Nest) :
    Derives (.items nest) s → Derives .value (nest.opener :: s ++ [nest.closer])
  | last {n a v b : Bytes} {nest : Nest} (hn : IsName nest n) (ha : IsBlank a) (hb : IsBlank b) :
    Derives .value v → Derives (.items nest) (n ++ a ++ v ++ b)
  | more {n a v b s : Bytes} {nest : Nest} (hn : IsName nest n) (ha : IsBlank a) (hb : IsBlank b) :
    Derives .value v → Derives (.items nest) s →
    Derives (.items nest) (n ++ a ++ v ++ b ++ comma :: s)

/-- The text of one value. -/
abbrev IsValue (s : Bytes) : Prop := Derives .value s

/-! ### Blanks -/

/-- No blanks at all are blanks. -/
theorem isBlank_nil : IsBlank [] := List.forall_mem_nil _

/-- Two stretches of blanks are one. -/
theorem IsBlank.append {a b : Bytes} (ha : IsBlank a) (hb : IsBlank b) : IsBlank (a ++ b) := by
  intro x hx
  rcases List.mem_append.mp hx with h | h
  · exact ha x h
  · exact hb x h

/-- Blanks are passed over. -/
theorem skipSpace_append {a : Bytes} (ha : IsBlank a) (s : Bytes) :
    skipSpace (a ++ s) = skipSpace s := by
  induction a with
  | nil => rfl
  | cons b a ih =>
    have hb : isSpace b = true := ha b List.mem_cons_self
    have := ih fun x hx => ha x (List.mem_cons_of_mem _ hx)
    simpa [skipSpace, hb] using this

/-- A text that begins with no blank is left as it is. -/
theorem skipSpace_cons {b : UInt8} (h : isSpace b = false) (s : Bytes) :
    skipSpace (b :: s) = b :: s := by
  simp [skipSpace, h]

/-- Blanks are passed over up to what begins with none. -/
theorem skipSpace_append_cons {a : Bytes} (ha : IsBlank a) {b : UInt8} (hb : isSpace b = false)
    (r t : Bytes) : skipSpace (a ++ b :: r ++ t) = b :: (r ++ t) := by
  rw [List.append_assoc, skipSpace_append ha, List.cons_append, skipSpace_cons hb]

/-- Blanks are passed over up to a string. -/
theorem skipSpace_append_string {a : Bytes} (ha : IsBlank a) (n t : Bytes) :
    skipSpace (a ++ (quote :: n ++ [quote]) ++ t) = quote :: (n ++ quote :: t) := by
  rw [List.cons_append, skipSpace_append_cons ha rfl, List.append_assoc, List.singleton_append]

/-- A text is blanks and what is left behind them. -/
theorem exists_eq_append_skipSpace (s : Bytes) : ∃ a, IsBlank a ∧ s = a ++ skipSpace s :=
  ⟨s.takeWhile isSpace, fun _ => List.mem_takeWhile_imp, List.takeWhile_append_dropWhile.symm⟩

/-- What is left behind the blanks begins with none. -/
theorem isSpace_of_skipSpace {s : Bytes} {b : UInt8} {r : Bytes} (h : skipSpace s = b :: r) :
    isSpace b = false := by
  have := List.head?_dropWhile_not isSpace s
  unfold skipSpace at h
  simpa [h] using this

/-! ### First and last bytes -/

/-- A digit is no blank and no mark of the grammar. -/
theorem isDigit_plain {b : UInt8} (h : isDigit b = true) :
    isSpace b = false ∧ b ≠ newline ∧ b ≠ comma ∧ b ≠ closeBracket ∧ b ≠ closeBrace := by
  have ne {c : UInt8} (hc : isDigit c = false) : b ≠ c := by
    rintro rfl
    simp [h] at hc
  refine ⟨?_, ne rfl, ne rfl, ne rfl, ne rfl⟩
  simp only [isSpace, Bool.or_eq_false_iff, decide_eq_false_iff_not]
  exact ⟨⟨⟨ne rfl, ne rfl⟩, ne rfl⟩, ne rfl⟩

/-- A number begins with a digit. -/
theorem IsUnsigned.exists_cons {s : Bytes} (h : IsUnsigned s) :
    ∃ b r, s = b :: r ∧ isDigit b = true := by
  rcases h with ⟨hi, -, -⟩
  rcases hi with _ | ⟨-, hb, -⟩
  · exact ⟨zero, _, rfl, rfl⟩
  · exact ⟨_, _, rfl, hb⟩

/-- A number ends with a digit. -/
theorem IsUnsigned.exists_concat {s : Bytes} (h : IsUnsigned s) :
    ∃ r b, s = r ++ [b] ∧ isDigit b = true := by
  have digits {ds : Bytes} (hd : IsDigits ds) : ∃ r b, ds = r ++ [b] ∧ isDigit b = true :=
    ⟨_, _, (List.dropLast_concat_getLast hd.1).symm, hd.2 _ (List.getLast_mem hd.1)⟩
  rcases h with @⟨i, f, e, hi, hf, he⟩
  rcases he with _ | ⟨-, -, hs⟩
  · rcases hf with _ | hs
    · rcases hi with _ | @⟨b, ds, -, hb, hs⟩
      · exact ⟨[], zero, rfl, rfl⟩
      · obtain ⟨r, c, hr, hc⟩ := digits ⟨List.cons_ne_nil b ds, List.forall_mem_cons.mpr ⟨hb, hs⟩⟩
        exact ⟨r, c, by simpa using hr, hc⟩
    · obtain ⟨r, b, rfl, hb⟩ := digits hs
      exact ⟨i ++ dot :: r, b, by simp, hb⟩
  · obtain ⟨r, b, rfl, hb⟩ := digits hs
    exact ⟨_, b, by simp only [← List.append_assoc]; rfl, hb⟩

/-- A value begins with no blank, comma or closing bracket. -/
theorem IsValue.exists_cons {s : Bytes} (h : IsValue s) :
    ∃ b r, s = b :: r ∧ isSpace b = false ∧ b ≠ closeBracket ∧ b ≠ closeBrace := by
  cases h with
  | null | true | false => exact ⟨_, _, rfl, by decide⟩
  | negative _ => exact ⟨_, _, rfl, by decide⟩
  | string _ => exact ⟨_, _, rfl, by decide⟩
  | positive hs =>
    obtain ⟨b, r, rfl, hb⟩ := hs.exists_cons
    obtain ⟨hsp, -, -, hl, hr⟩ := isDigit_plain hb
    exact ⟨b, r, rfl, hsp, hl, hr⟩
  | empty nest _ => cases nest <;> exact ⟨_, _, rfl, by decide⟩
  | full nest _ => cases nest <;> exact ⟨_, _, rfl, by decide⟩

/-- Blanks are passed over up to a value. -/
theorem skipSpace_append_value {a v : Bytes} (ha : IsBlank a) (hv : IsValue v) (t : Bytes) :
    skipSpace (a ++ v ++ t) = v ++ t := by
  obtain ⟨b, r, rfl, hb, -⟩ := hv.exists_cons
  exact skipSpace_append_cons ha hb r t

/-- A value ends with no blank. -/
theorem IsValue.exists_concat {s : Bytes} (h : IsValue s) :
    ∃ r b, s = r ++ [b] ∧ isSpace b = false := by
  cases h with
  | null => exact ⟨[0x6E, 0x75, 0x6C], 0x6C, rfl, rfl⟩
  | true => exact ⟨[0x74, 0x72, 0x75], 0x65, rfl, rfl⟩
  | false => exact ⟨[0x66, 0x61, 0x6C, 0x73], 0x65, rfl, rfl⟩
  | positive hs =>
    obtain ⟨r, b, rfl, hb⟩ := hs.exists_concat
    exact ⟨r, b, rfl, (isDigit_plain hb).1⟩
  | negative hs =>
    obtain ⟨r, b, rfl, hb⟩ := hs.exists_concat
    exact ⟨minus :: r, b, rfl, (isDigit_plain hb).1⟩
  | string _ => exact ⟨_, quote, rfl, rfl⟩
  | empty nest _ => cases nest <;> exact ⟨_, _, rfl, rfl⟩
  | full nest _ => cases nest <;> exact ⟨_, _, rfl, rfl⟩

/-! ### Newlines -/

/-- A text in one line: each newline has become a space. -/
def oneLine (s : Bytes) : Bytes := s.map fun b => if b = newline then space else b

@[simp] theorem oneLine_nil : oneLine [] = [] := rfl

@[simp] theorem oneLine_append (s t : Bytes) : oneLine (s ++ t) = oneLine s ++ oneLine t :=
  List.map_append

/-- Every other byte stays. -/
theorem oneLine_cons {b : UInt8} (h : b ≠ newline) (s : Bytes) :
    oneLine (b :: s) = b :: oneLine s := by
  simp [oneLine, h]

/-- A text without newlines is in one line. -/
theorem oneLine_eq_self {s : Bytes} (h : ∀ b ∈ s, b ≠ newline) : oneLine s = s :=
  (List.map_congr_left fun b hb => if_neg (h b hb)).trans (List.map_id' s)

/-- A text in one line has no newline. -/
theorem ne_newline_of_mem_oneLine {s : Bytes} {b : UInt8} (h : b ∈ oneLine s) : b ≠ newline := by
  obtain ⟨c, -, rfl⟩ := List.mem_map.mp h
  split_ifs with hc
  · decide
  · exact hc

/-- Blanks in one line are blanks. -/
theorem IsBlank.oneLine {s : Bytes} (h : IsBlank s) : IsBlank (oneLine s) := by
  intro b hb
  obtain ⟨c, hc, rfl⟩ := List.mem_map.mp hb
  split_ifs
  · rfl
  · exact h c hc

/-- Hexadecimal digits are no newlines. -/
theorem IsHex.ne_newline {b : UInt8} (h : IsHex b) : b ≠ newline := by
  rintro rfl
  exact absurd h (by unfold IsHex; decide)

/-- No newline stands in a string. -/
theorem IsBody.ne_newline {s : Bytes} (h : IsBody s) : ∀ b ∈ s, b ≠ newline := by
  induction h with
  | nil => simp
  | plain _ _ hc _ ih =>
    refine List.forall_mem_cons.mpr ⟨?_, ih⟩
    rintro rfl
    exact hc (by decide)
  | short he _ ih =>
    refine List.forall_mem_cons.mpr ⟨by decide, List.forall_mem_cons.mpr ⟨?_, ih⟩⟩
    rintro rfl
    exact absurd he (by decide)
  | unit ha hb hc hd _ ih =>
    simp only [List.forall_mem_cons]
    exact ⟨by decide, by decide, ha.ne_newline, hb.ne_newline, hc.ne_newline, hd.ne_newline, ih⟩

/-- A number is made of digits and its few marks. -/
theorem IsUnsigned.forall_mem {s : Bytes} (h : IsUnsigned s) {P : UInt8 → Prop}
    (hdigit : ∀ b, isDigit b = true → P b) (hdot : P dot) (hexponent : P 0x65 ∧ P 0x45)
    (hsigns : P plus ∧ P minus) : ∀ b ∈ s, P b := by
  rcases h with ⟨hi, hf, he⟩
  simp only [List.forall_mem_append]
  refine ⟨⟨?_, ?_⟩, ?_⟩
  · rcases hi with _ | ⟨-, hb, hs⟩
    · exact List.forall_mem_singleton.mpr (hdigit _ (by decide))
    · exact List.forall_mem_cons.mpr ⟨hdigit _ hb, fun b hb => hdigit b (hs b hb)⟩
  · rcases hf with _ | hs
    · exact List.forall_mem_nil P
    · exact List.forall_mem_cons.mpr ⟨hdot, fun b hb => hdigit b (hs.2 b hb)⟩
  · rcases he with _ | ⟨he, hsign, hs⟩
    · exact List.forall_mem_nil P
    · simp only [List.cons_append, List.forall_mem_cons, List.forall_mem_append]
      refine ⟨?_, ?_, fun b hb => hdigit b (hs.2 b hb)⟩
      · rcases he with rfl | rfl
        · exact hexponent.1
        · exact hexponent.2
      · rcases hsign with rfl | rfl | rfl
        · exact List.forall_mem_nil P
        · exact List.forall_mem_singleton.mpr hsigns.1
        · exact List.forall_mem_singleton.mpr hsigns.2

/-- No newline stands in a number. -/
theorem IsUnsigned.ne_newline {s : Bytes} (h : IsUnsigned s) : ∀ b ∈ s, b ≠ newline :=
  h.forall_mem (fun _ hb => (isDigit_plain hb).2.1) (by decide) (by decide) (by decide)

/-- A name in one line is a name. -/
theorem IsName.oneLine {nest : Nest} {n : Bytes} (h : IsName nest n) :
    IsName nest (oneLine n) := by
  cases h with
  | list => exact .list
  | object ha hn hb =>
    have := IsName.object ha.oneLine hn hb.oneLine
    simpa +decide [oneLine_cons, oneLine_eq_self hn.ne_newline] using this

/-- A text in one line is derived as before. -/
theorem Derives.oneLine {form : Form} {s : Bytes} (h : Derives form s) :
    Derives form (oneLine s) := by
  induction h with
  | null => exact .null
  | true => exact .true
  | false => exact .false
  | positive hs => rw [oneLine_eq_self hs.ne_newline]; exact .positive hs
  | negative hs =>
    rw [oneLine_cons (by decide), oneLine_eq_self hs.ne_newline]
    exact .negative hs
  | string hs =>
    have := Derives.string hs
    simpa +decide [oneLine_cons, oneLine_eq_self hs.ne_newline] using this
  | empty nest ha =>
    have := Derives.empty nest ha.oneLine
    cases nest <;> simpa +decide [oneLine_cons, Nest.opener, Nest.closer] using this
  | full nest _ ih =>
    have := Derives.full nest ih
    cases nest <;> simpa +decide [oneLine_cons, Nest.opener, Nest.closer] using this
  | last hn ha hb _ ih => simpa using Derives.last hn.oneLine ha.oneLine hb.oneLine ih
  | more hn ha hb _ _ ihv ihs =>
    simpa +decide [oneLine_cons] using Derives.more hn.oneLine ha.oneLine hb.oneLine ihv ihs

end Switchboard.Json
