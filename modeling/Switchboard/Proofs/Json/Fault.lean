import Switchboard.Proofs.Json.Printer
import Switchboard.Proofs.Json.Reader
import Switchboard.Proofs.Text.Decimal
/-!
# How much a fault says

A fault is worded in few bytes, whatever text it was found in: its problem has a fixed wording, or
it names a number of the text or the type of a value, but never a string of the text
(`Fault.IsTerse`). Its line and column are not beyond the end of the text, so that they take few
digits (`Fault.length_message_le`). No reader of values gives any other fault (`terse_readValue`).
-/

namespace Switchboard.Json

open Ascii

/-! ### Texts within strings -/

/-- The length of a text when it is written within a string. -/
def escapedLength (s : String) : Nat := (escape (Utf8.encode s)).length

/-- A string is written as its text between quotes. -/
theorem length_renderString (s : String) : (renderString s).length = escapedLength s + 2 := by
  simp [renderString, escapedLength]

/-- Two texts one after the other. -/
theorem escapedLength_append (s t : String) :
    escapedLength (s ++ t) = escapedLength s + escapedLength t := by
  simp [escapedLength, Utf8.encode, escape_append]

/-- A number is written as it is. -/
theorem escapedLength_of_isNumeral {s : String} (h : Decimal.IsNumeral (Utf8.encode s)) :
    escapedLength s = (Utf8.encode s).length := by
  rw [escapedLength, escape_eq_self_of_test rfl rfl (by decide) h]

/-- A digit is encoded in one byte. -/
theorem encodeChar_of_isDigit {c : Char} (h : c.isDigit = true) :
    ∃ b, String.utf8EncodeChar c = [b] ∧ Decimal.isNumeralByte b = true := by
  have hall : ∀ n < 10, ∃ b : UInt8, String.utf8EncodeChar (Char.ofNat (48 + n)) = [b] ∧
      Decimal.isNumeralByte b = true := by
    intro n hn
    refine ⟨48 + n.toUInt8, ?_, ?_⟩ <;> revert n <;> decide
  rw [Char.isDigit, Bool.and_eq_true, decide_eq_true_eq, decide_eq_true_eq] at h
  have hlow : 48 ≤ c.toNat := UInt32.le_iff_toNat_le.mp h.1
  have hhigh : c.toNat ≤ 57 := UInt32.le_iff_toNat_le.mp h.2
  have hc := hall (c.toNat - 48) (by omega)
  rwa [Nat.add_sub_cancel' hlow, Char.ofNat_toNat] at hc

/-- A natural number is written in digits. -/
theorem isNumeral_repr (n : Nat) : Decimal.IsNumeral (Utf8.encode n.repr) ∧
    (Utf8.encode n.repr).length = (Nat.toDigits 10 n).length := by
  have hall : ∀ c ∈ Nat.toDigits 10 n, c.isDigit = true := fun c hc =>
    Nat.isDigit_of_mem_toDigits (by decide) (by decide) hc
  have htext : Utf8.encode n.repr = (Nat.toDigits 10 n).flatMap String.utf8EncodeChar := by
    rw [Utf8.encode, Nat.repr, String.toList_ofList]
  rw [htext]
  generalize Nat.toDigits 10 n = cs at hall
  induction cs with
  | nil => exact ⟨List.forall_mem_nil _, rfl⟩
  | cons c cs ih =>
    obtain ⟨hc, hcs⟩ := List.forall_mem_cons.mp hall
    obtain ⟨b, hb, hnumeral⟩ := encodeChar_of_isDigit hc
    obtain ⟨hrest, hlength⟩ := ih hcs
    rw [List.flatMap_cons, hb]
    exact ⟨hrest.cons hnumeral, by simp [hlength]⟩

/-- A natural number below a power of ten. -/
theorem escapedLength_repr_le {n k : Nat} (hk : 0 < k) (h : n < 10 ^ k) :
    escapedLength n.repr ≤ k := by
  obtain ⟨hnumeral, hlength⟩ := isNumeral_repr n
  rw [escapedLength_of_isNumeral hnumeral, hlength]
  exact (Nat.length_toDigits_le_iff (by decide) hk).mpr h

/-- A great number takes few digits. -/
theorem escapedLength_toString_le (n : Nat) : escapedLength (toString n) ≤ n / 1000 + 3 := by
  rw [Nat.toString_eq_repr]
  apply escapedLength_repr_le (by omega)
  have hlt : n / 1000 < 10 ^ (n / 1000) := Nat.lt_pow_self (by decide)
  rw [Nat.pow_add]
  omega

/-- An integer of 64 bits takes a sign and twenty digits. -/
theorem escapedLength_int_le {n : Int} (h : n.natAbs ≤ maxWord) :
    escapedLength (toString n) ≤ 21 := by
  have hdigits {m : Nat} (hm : m ≤ maxWord) : escapedLength m.repr ≤ 20 :=
    escapedLength_repr_le (by decide) (hm.trans_lt (by decide))
  cases n with
  | ofNat m => exact (hdigits h).trans (by decide)
  | negSucc m =>
    have hsign : toString (Int.negSucc m) = "-" ++ (m + 1).repr := rfl
    have hone : escapedLength "-" = 1 := by decide
    rw [hsign, escapedLength_append, hone]
    have := hdigits (m := m + 1) h
    omega

/-! ### Faults -/

/-- The greatest length of a problem's wording. -/
def Problem.maxWording : Nat := 830

/-- A fault that says little about a text of the given size. -/
structure Fault.IsTerse (size : Nat) (fault : Fault) : Prop where
  wording : escapedLength fault.problem.message ≤ Problem.maxWording
  quoted {p : Position} : fault.place = .quoted p → p.line ≤ size + 1 ∧ p.column ≤ size

/-- Whatever fault comes of it says little. -/
def Terse {α : Type} (size : Nat) (x : Except Fault α) : Prop :=
  ∀ fault, x = .error fault → fault.IsTerse size

section

variable {α β : Type} {size : Nat}

/-- A wording of its own is not long. -/
theorem Problem.length_message_le {problem : Problem} (h : ∀ reason, problem ≠ .refused reason) :
    escapedLength problem.message ≤ Problem.maxWording := by
  cases problem with
  | refused reason => exact absurd rfl (h reason)
  | _ => decide +kernel

/-- A problem with a wording of its own, in front of the rest of a text. -/
@[simp] theorem Fault.isTerse_before {problem : Problem} (h : ∀ reason, problem ≠ .refused reason)
    (rest : Bytes) : (Fault.before problem rest).IsTerse size :=
  ⟨problem.length_message_le h, fun hplace => by cases hplace⟩

/-- A problem with a wording of its own, behind the first byte of the rest of a text. -/
@[simp] theorem Fault.isTerse_behind {problem : Problem} (h : ∀ reason, problem ≠ .refused reason)
    (rest : Bytes) : (Fault.behind problem rest).IsTerse size :=
  ⟨problem.length_message_le h, fun hplace => by cases hplace⟩

/-- A success is no fault. -/
@[simp] theorem terse_ok (a : α) : Terse size (.ok a : Except Fault α) := fun _ h => by cases h

/-- A success is no fault. -/
@[simp] theorem terse_pure (a : α) : Terse size (pure a : Except Fault α) := terse_ok a

/-- A fault has to say little itself. -/
@[simp] theorem terse_error {fault : Fault} :
    Terse size (.error fault : Except Fault α) ↔ fault.IsTerse size := by
  constructor
  · exact fun h => h fault rfl
  · intro h fault' hfault
    exact Except.error.inj hfault ▸ h

/-- One reader after another. -/
theorem Terse.bind {x : Except Fault α} {f : α → Except Fault β} (hx : Terse size x)
    (hf : ∀ a, x = .ok a → Terse size (f a)) : Terse size (x >>= f) := by
  cases x with
  | error fault => exact terse_error.mpr (terse_error.mp hx)
  | ok a => exact hf a rfl

/-- What was read is made into something else. -/
theorem Terse.map {x : Except Fault α} (hx : Terse size x) (f : α → β) : Terse size (f <$> x) := by
  cases x with
  | error fault => exact terse_error.mpr (terse_error.mp hx)
  | ok a => exact terse_ok _

/-- What is read has a property, and whatever fault comes of reading it says little. -/
structure Yields (size : Nat) (P : α → Prop) (x : Except Fault α) : Prop where
  terse : Terse size x
  result {a : α} : x = .ok a → P a

/-- What has the property was read. -/
theorem yields_ok {P : α → Prop} {a : α} (h : P a) : Yields size P (.ok a) :=
  ⟨terse_ok a, fun hok => Except.ok.inj hok ▸ h⟩

/-- Nothing was read. -/
theorem yields_error {P : α → Prop} {fault : Fault} (h : fault.IsTerse size) :
    Yields size P (.error fault) :=
  ⟨terse_error.mpr h, fun hok => by cases hok⟩

/-- What was read is made into something else. -/
theorem Yields.map {P : α → Prop} {Q : β → Prop} {x : Except Fault α} {f : α → β}
    (hx : Yields size P x) (hf : ∀ a, P a → Q (f a)) : Yields size Q (f <$> x) := by
  cases x with
  | error fault => exact yields_error (terse_error.mp hx.terse)
  | ok a => exact yields_ok (hf a (hx.result rfl))

/-! ### Scanners -/

/-- The rest of a literal. -/
theorem terse_skipIdent (cs s : Bytes) : Terse size (skipIdent cs s) := by
  fun_induction skipIdent cs s <;> simp_all

/-- The bytes of a string. -/
theorem terse_readStringFrom (acc s : Bytes) : Terse size (readStringFrom acc s) := by
  fun_induction readStringFrom acc s <;> simp_all

/-- A string. -/
theorem terse_readString (s : Bytes) : Terse size (readString s) := by
  apply (terse_readStringFrom [] s).bind
  rintro ⟨bytes, rest⟩ -
  dsimp only
  split
  · exact terse_pure _
  · exact terse_error.mpr ⟨Problem.length_message_le (by simp), fun hplace => by cases hplace⟩

/-- A string that is skipped. -/
theorem terse_skipString (s : Bytes) : Terse size (skipString s) := by
  fun_induction skipString s <;> simp_all

/-- The exponent of a number. -/
theorem terse_skipExponent (s : Bytes) : Terse size (skipExponent s) := by
  unfold skipExponent
  dsimp only
  split
  · simp
  · split_ifs <;> simp

/-- An exponent that may be missing. -/
theorem terse_skipExponent? (s : Bytes) : Terse size (skipExponent? s) := by
  fun_cases skipExponent? s <;> simp [terse_skipExponent]

/-- The part of a number behind its integer. -/
theorem terse_skipFraction (s : Bytes) : Terse size (skipFraction s) := by
  fun_cases skipFraction s <;> simp [terse_skipExponent?]

/-- A number. -/
theorem terse_skipNumber (s : Bytes) : Terse size (skipNumber s) := by
  fun_cases skipNumber s <;> simp [terse_skipFraction]

/-- A colon. -/
theorem terse_skipColon (s : Bytes) : Terse size (skipColon s) := by
  fun_cases skipColon s <;> simp

/-- A name with its colon, where one is due. -/
theorem terse_skipName (nest : Nest) (s : Bytes) : Terse size (nest.skipName s) := by
  unfold Nest.skipName
  split
  · exact terse_ok s
  · split
    · simp
    · split_ifs
      · exact (terse_skipString _).bind fun _ _ => terse_skipColon _
      · simp

/-- What a value begins with, up to its first nested value. -/
theorem terse_skipFront (s : Bytes) : Terse size (skipFront s) := by
  unfold skipFront
  split
  · simp
  · split_ifs
    · exact (terse_skipIdent _ _).map _
    · exact (terse_skipIdent _ _).map _
    · exact (terse_skipIdent _ _).map _
    · exact (terse_skipNumber _).map _
    · exact (terse_skipNumber _).map _
    · exact (terse_skipString _).map _
    · exact terse_ok _
    · exact terse_ok _
    · simp

/-- With any fuel. -/
theorem terse_skip (fuel : Nat) :
    (∀ nests s, Terse size (skipOpen fuel nests s)) ∧
      ∀ nests s, Terse size (skipRest fuel nests s) := by
  induction fuel with
  | zero =>
    refine ⟨fun nests s => by simp [skipOpen], fun nests s => ?_⟩
    cases nests <;> simp [skipRest]
  | succ fuel ih =>
    obtain ⟨hopen, hrest⟩ := ih
    constructor
    · intro nests s
      unfold skipOpen
      apply (terse_skipFront s).bind
      rintro (rest | ⟨nest, rest⟩) -
      · exact hrest nests rest
      · dsimp only
        split
        · cases nest <;> simp [Nest.atEnd]
        · split_ifs
          · exact hrest nests _
          · exact (terse_skipName nest _).bind fun t _ => hopen _ t
    · intro nests s
      cases nests with
      | nil => simp [skipRest]
      | cons nest nests =>
        unfold skipRest
        split
        · cases nest <;> simp [Nest.atEnd]
        · split_ifs
          · exact (terse_skipName nest _).bind fun t _ => hopen _ t
          · exact hrest nests _
          · cases nest <;> simp [Nest.afterElement]

/-- A value that is skipped. -/
theorem terse_skipValue (s : Bytes) : Terse size (skipValue s) := (terse_skip _).1 [] s

/-- A value that is kept as it is written. -/
theorem terse_captureValue (s : Bytes) : Terse size (captureValue s) := by
  apply (terse_skipValue _).bind
  intro rest _
  dsimp only
  split_ifs
  · exact terse_pure _
  · exact terse_error.mpr ⟨Problem.length_message_le (by simp), fun hplace => by cases hplace⟩

/-- The end of a text. -/
theorem terse_endText (s : Bytes) : Terse size (endText s) := by
  fun_cases endText s <;> simp

/-- What comes behind the name of a member. -/
theorem terse_skipMember (s : Bytes) : Terse size (skipMember s) :=
  (terse_skipColon s).bind fun t _ => terse_skipValue t

/-! ### Numbers -/

/-- A number that is read: an integer of 64 bits, or a double. -/
def Number.IsBounded : Number → Prop
  | .int n => n.natAbs ≤ maxWord
  | .real _ => True

/-- What is read as a number is bounded. -/
abbrev YieldsNumber (size : Nat) (x : Except Fault (Number × Bytes)) : Prop :=
  Yields size (fun p => p.1.IsBounded) x

/-- A double is bounded. -/
theorem yieldsNumber_real (bits : UInt64) (rest : Bytes) :
    YieldsNumber size (.ok (.real bits, rest)) :=
  yields_ok trivial

/-- A double that is finite, or none. -/
theorem yieldsNumber_finishDouble (negative : Bool) (digits : Nat) (e : Int) (rest : Bytes) :
    YieldsNumber size (finishDouble negative digits e rest) := by
  unfold finishDouble
  split
  · exact yieldsNumber_real _ _
  · exact yields_error (by simp)

/-- The digits of an exponent. -/
theorem yieldsNumber_readExponentDigits (negative negativeExp : Bool) (digits : Nat) (start : Int)
    (e : Nat) (s : Bytes) :
    YieldsNumber size (readExponentDigits negative negativeExp digits start e s) := by
  induction s generalizing e with
  | nil => exact yieldsNumber_finishDouble _ _ _ _
  | cons b s ih =>
    simp only [readExponentDigits]
    by_cases hb : isDigit b = true
    · rw [if_pos hb]
      split_ifs
      · exact ih _
      · exact yields_error (by simp)
      · exact yieldsNumber_real _ _
      · exact yieldsNumber_real _ _
    · rw [if_neg hb]
      exact yieldsNumber_finishDouble _ _ _ _

/-- An exponent. -/
theorem yieldsNumber_readExponent (negative : Bool) (digits : Nat) (start : Int) (s : Bytes) :
    YieldsNumber size (readExponent negative digits start s) := by
  unfold readExponent
  dsimp only
  split
  · exact yields_error (by simp)
  · split_ifs
    · exact yieldsNumber_readExponentDigits _ _ _ _ _ _
    · exact yields_error (by simp)

/-- An exponent that may be missing. -/
theorem yieldsNumber_readExponent? (negative : Bool) (digits : Nat) (e : Int) (s : Bytes) :
    YieldsNumber size (readExponent? negative digits e s) := by
  fun_cases readExponent? negative digits e s
  · exact yieldsNumber_finishDouble _ _ _ _
  · exact yieldsNumber_readExponent _ _ _ _
  · exact yieldsNumber_finishDouble _ _ _ _

/-- The digits of a fraction. -/
theorem yieldsNumber_readFractionDigits (negative : Bool) (digits : Nat) (e : Int) (s : Bytes) :
    YieldsNumber size (readFractionDigits negative digits e s) := by
  induction s generalizing digits e with
  | nil => exact yieldsNumber_readExponent? _ _ _ _
  | cons b s ih =>
    simp only [readFractionDigits]
    split_ifs
    · exact ih _ _
    · exact yieldsNumber_readExponent? _ _ _ _
    · exact yieldsNumber_readExponent? _ _ _ _

/-- A fraction. -/
theorem yieldsNumber_readFraction (negative : Bool) (digits : Nat) (e : Int) (s : Bytes) :
    YieldsNumber size (readFraction negative digits e s) := by
  fun_cases readFraction negative digits e s
  · exact yields_error (by simp)
  · exact yields_error (by simp)
  · exact yieldsNumber_readExponent? _ _ _ _
  · exact yieldsNumber_readFractionDigits _ _ _ _

/-- The digits of an integer that is too long for 64 bits. -/
theorem yieldsNumber_readLongInteger (negative : Bool) (digits : Nat) (e : Int) (s : Bytes) :
    YieldsNumber size (readLongInteger negative digits e s) := by
  induction s generalizing e with
  | nil => exact yieldsNumber_finishDouble _ _ _ _
  | cons b s ih =>
    simp only [readLongInteger]
    split_ifs
    · exact ih _
    · exact yieldsNumber_readFraction _ _ _ _
    · exact yieldsNumber_readExponent? _ _ _ _

/-- An integer of 64 bits, or a double. -/
theorem isBounded_finishInteger (negative : Bool) {digits : Nat} (h : digits ≤ maxWord) :
    (finishInteger negative digits).IsBounded := by
  unfold finishInteger
  split_ifs
  · trivial
  · simpa [Number.IsBounded] using h
  · simpa [Number.IsBounded] using h

/-- What comes behind the digits of an integer. -/
theorem yieldsNumber_readAfterInteger (negative : Bool) {digits : Nat} (h : digits ≤ maxWord)
    (s : Bytes) : YieldsNumber size (readAfterInteger negative digits s) := by
  have hfinish := isBounded_finishInteger negative h
  fun_cases readAfterInteger negative digits s
  · exact yields_ok hfinish
  · exact yieldsNumber_readFraction _ _ _ _
  · exact yieldsNumber_readExponent _ _ _ _
  · exact yields_ok hfinish

/-- The digits of an integer. -/
theorem yieldsNumber_readIntegerDigits (negative : Bool) {digits : Nat} (h : digits ≤ maxWord)
    (s : Bytes) : YieldsNumber size (readIntegerDigits negative digits s) := by
  induction s generalizing digits with
  | nil => exact yieldsNumber_readAfterInteger _ h _
  | cons b s ih =>
    simp only [readIntegerDigits]
    split_ifs with hb hnext
    · exact ih hnext
    · exact yieldsNumber_readLongInteger _ _ _ _
    · exact yieldsNumber_readAfterInteger _ h _

/-- A number. -/
theorem yieldsNumber_readNumber (negative : Bool) (s : Bytes) :
    YieldsNumber size (readNumber negative s) := by
  have hbyte (b : UInt8) : b.toNat - 0x30 ≤ maxWord :=
    (Nat.sub_le _ _).trans (b.toNat_lt.le.trans (by decide))
  fun_cases readNumber negative s
  · exact yields_error (by simp)
  · exact yields_error (by simp)
  · exact yieldsNumber_readAfterInteger _ (Nat.zero_le _) _
  · exact yieldsNumber_readIntegerDigits _ (hbyte _) _
  · exact yields_error (by simp)

/-! ### Refusals -/

/-- A refusal in so many words, in front of the rest of a text. -/
theorem isTerse_refuse {reason : String} (h : escapedLength reason ≤ Problem.maxWording)
    (rest : Bytes) : (refuse reason rest).IsTerse size :=
  ⟨h, fun hplace => by cases hplace⟩

/-- The greatest length of what a number or a type is called. -/
def maxDescription : Nat := Decimal.maxLength + 17

/-- What a number is called takes few bytes. -/
theorem length_describe_number_le {n : Number} (h : n.IsBounded) :
    escapedLength (Value.number n).describe ≤ maxDescription := by
  have htick : escapedLength "`" = 1 := by decide
  cases n with
  | int n =>
    have hopening : escapedLength "integer `" = 9 := by decide
    have := escapedLength_int_le h
    simp only [Value.describe, escapedLength_append, hopening, htick, maxDescription,
      Decimal.maxLength]
    omega
  | real bits =>
    have hopening : escapedLength "floating point `" = 16 := by decide
    have hnumeral := Decimal.isNumeral_ofBits realStyle bits
    obtain ⟨text, htext⟩ := Utf8.isValid_iff.mp (Utf8.isValid_of_ascii hnumeral.ascii)
    have hlength : (Decimal.ofBits realStyle bits).length ≤ Decimal.maxLength :=
      Decimal.length_ofBits_le (by decide) (by decide) (by decide) bits
    rw [← htext] at hnumeral hlength
    have hescaped := escapedLength_of_isNumeral hnumeral
    simp only [Value.describe, Number.render, ← htext, Utf8.decodeLossy_encode,
      escapedLength_append, hopening, htick, maxDescription]
    omega

/-- A value of the wrong type is refused in few words when it is described in few. -/
theorem isTerse_invalidType {expected : String} (hexpected : escapedLength expected ≤ 34)
    {v : Value} (hv : escapedLength v.describe ≤ maxDescription) (rest : Bytes) :
    (refuse ("invalid type: " ++ v.describe ++ ", expected " ++ expected) rest).IsTerse size := by
  have hfirst : escapedLength "invalid type: " = 14 := by decide
  have hmiddle : escapedLength ", expected " = 11 := by decide
  apply isTerse_refuse
  simp only [escapedLength_append, hfirst, hmiddle]
  simp only [maxDescription, Decimal.maxLength] at hv
  unfold Problem.maxWording
  omega

/-- What is read is described in few words. -/
abbrev YieldsBrief (size : Nat) (x : Except Fault (Value × Bytes)) : Prop :=
  Yields size (fun p => escapedLength p.1.describe ≤ maxDescription) x

/-- A literal. -/
theorem yieldsBrief_literal {v : Value} (hv : escapedLength v.describe ≤ maxDescription)
    (cs s : Bytes) : YieldsBrief size ((v, ·) <$> skipIdent cs s) :=
  Yields.map (P := fun _ => True) ⟨terse_skipIdent cs s, fun _ => trivial⟩ fun _ _ => hv

/-- A number. -/
theorem yieldsBrief_number (negative : Bool) (s : Bytes) :
    YieldsBrief size ((fun p => (.number p.1, p.2)) <$> readNumber negative s) :=
  (yieldsNumber_readNumber negative s).map fun _ => length_describe_number_le

/-- The refusal of a value of the wrong type says little, unless the value is a string. -/
theorem isTerse_wrongType {expected : String} (hexpected : escapedLength expected ≤ 34) {s : Bytes}
    {b : UInt8} {rest : Bytes} (hs : skipSpace s = b :: rest) (hb : b ≠ quote) :
    (wrongType expected s).IsTerse size := by
  have hfound {x : Except Fault (Value × Bytes)} (hx : YieldsBrief size x) {v : Value} {t : Bytes}
      (h : x = .ok (v, t)) :
      (refuse ("invalid type: " ++ v.describe ++ ", expected " ++ expected) t).IsTerse size :=
    isTerse_invalidType hexpected (hx.result (a := (v, t)) h) t
  have hliteral {v : Value} (hv : escapedLength v.describe ≤ maxDescription) (cs : Bytes) :
      YieldsBrief size ((v, ·) <$> skipIdent cs rest) := yieldsBrief_literal hv cs rest
  unfold wrongType
  rw [hs]
  dsimp only
  split_ifs
  · split
    · next v t h => exact hfound (hliteral (v := .null) (by decide) _) h
    · next h => exact (hliteral (v := .null) (by decide) _).terse _ h
  · split
    · next v t h => exact hfound (hliteral (v := .bool true) (by decide) _) h
    · next h => exact (hliteral (v := .bool true) (by decide) _).terse _ h
  · split
    · next v t h => exact hfound (hliteral (v := .bool false) (by decide) _) h
    · next h => exact (hliteral (v := .bool false) (by decide) _).terse _ h
  · split
    · next v t h => exact hfound (yieldsBrief_number true _) h
    · next h => exact (yieldsBrief_number true _).terse _ h
  · split
    · next v t h => exact hfound (yieldsBrief_number false _) h
    · next h => exact (yieldsBrief_number false _).terse _ h
  · exact isTerse_invalidType hexpected (v := .array []) (by decide) _
  · exact isTerse_invalidType hexpected (v := .object []) (by decide) _
  · simp

/-- What is expected to be a string is refused in few words when it is none. -/
theorem terse_expectString {expected : String} (hexpected : escapedLength expected ≤ 34)
    (s : Bytes) : Terse size (expectString expected s) := by
  unfold expectString
  split
  · simp
  · next b rest hs =>
    split_ifs with hb
    · exact terse_readString rest
    · have hskip : skipSpace (b :: rest) = b :: rest := by
        rw [skipSpace_cons (isSpace_of_skipSpace hs)]
      exact terse_error.mpr (isTerse_wrongType hexpected hskip hb)

/-- A name that is there twice is named in the refusal. -/
theorem isTerse_duplicateField {name : String} (h : escapedLength name ≤ 34) (s : Bytes) :
    (duplicateField name s).IsTerse size := by
  have hopening : escapedLength "duplicate field `" = 17 := by decide
  have hclosing : escapedLength "`" = 1 := by decide
  apply isTerse_refuse
  rw [escapedLength_append, escapedLength_append, hopening, hclosing, Problem.maxWording]
  omega

/-! ### Positions -/

/-- No position is beyond the end of the text. -/
theorem Position.after_le (s : Bytes) :
    (Position.after s).line ≤ s.length + 1 ∧ (Position.after s).column ≤ s.length := by
  constructor
  · have := List.count_le_length (a := newline) (l := s)
    simp only [Position.after]
    omega
  · simpa [Position.after] using (List.takeWhile_sublist (l := s.reverse) (· ≠ newline)).length_le

/-- Nor is that of a fault that says little about it. -/
theorem Fault.IsTerse.position_le {fault : Fault} {text : Bytes} (h : fault.IsTerse size)
    (htext : text.length ≤ size) :
    (fault.position text).line ≤ size + 1 ∧ (fault.position text).column ≤ size := by
  unfold Fault.position
  split
  · next n _ =>
    have htake := List.length_take_le' (text.length - n) text
    have := Position.after_le (text.take (text.length - n))
    omega
  · next p hp => exact h.quoted hp

/-- A fault of a text that a string holds says little about the text around the string. -/
theorem Fault.IsTerse.quotedFrom {fault : Fault} {text : Bytes} (h : fault.IsTerse size)
    (htext : text.length ≤ size) : (fault.quotedFrom text).IsTerse size := by
  refine ⟨h.wording, fun hplace => ?_⟩
  obtain rfl := Place.quoted.inj hplace
  exact h.position_le htext

/-- The message of a fault that says little. -/
theorem Fault.IsTerse.length_message_le {fault : Fault} {text : Bytes}
    (h : fault.IsTerse text.length) : escapedLength (fault.message text) ≤
      Problem.maxWording + 23 + 2 * ((text.length + 1) / 1000) := by
  obtain ⟨hline, hcolumn⟩ := h.position_le (Nat.le_refl _)
  have hwording := h.wording
  have hfirst := escapedLength_toString_le (fault.position text).line
  have hsecond := escapedLength_toString_le (fault.position text).column
  have hatLine : escapedLength " at line " = 9 := by decide
  have hatColumn : escapedLength " column " = 8 := by decide
  have hlines := Nat.div_le_div_right (c := 1000) hline
  have hcolumns := Nat.div_le_div_right (c := 1000) (hcolumn.trans (Nat.le_succ _))
  simp only [Fault.message, escapedLength_append, hatLine, hatColumn]
  omega

/-! ### Values -/

/-- The next member of an object. -/
theorem terse_nextMember (first : Bool) (s : Bytes) : Terse size (nextMember first s) := by
  fun_cases nextMember first s <;> simp

/-- The end of an object. -/
theorem terse_endObject (s : Bytes) : Terse size (endObject s) := by
  fun_cases endObject s <;> simp

/-- The next element of an array. -/
theorem terse_nextElement (first : Bool) (s : Bytes) : Terse size (nextElement first s) := by
  fun_cases nextElement first s <;> simp

/-- The end of an array. -/
theorem terse_endArray (s : Bytes) : Terse size (endArray s) := by
  fun_cases endArray s <;> simp

/-- A value leaves less than there was. -/
theorem HasValue.length_le {s r : Bytes} (h : HasValue s r) : r.length ≤ s.length := by
  obtain ⟨a, v, -, -, rfl⟩ := h
  rw [List.length_append]
  omega

/-- What the readers of values find fault with, in a text of no more than the given size. -/
structure TerseWithin (size fuel : Nat) : Prop where
  value {depth : Nat} {s : Bytes} : s.length ≤ size → Terse size (readValueFrom fuel depth s)
  elements {depth : Nat} {first : Bool} {acc : List Value} {s : Bytes} : s.length ≤ size →
    Terse size (readElements fuel depth first acc s)
  object {depth : Nat} {s : Bytes} : s.length ≤ size → Terse size (readObject fuel depth s)
  members {depth : Nat} {members : Members} {s : Bytes} : s.length ≤ size →
    Terse size (readMembers fuel depth members s)
  quoted {s : Bytes} : s.length ≤ size → Terse size (readQuoted fuel s)

namespace TerseWithin

variable {fuel : Nat}

/-- A value. -/
theorem value_succ (h : TerseWithin size fuel) {depth : Nat} {s : Bytes} (hs : s.length ≤ size) :
    Terse size (readValueFrom (fuel + 1) depth s) := by
  unfold readValueFrom
  split
  · simp
  · next b rest hb =>
    have hrest : rest.length ≤ size := by
      obtain ⟨a, -, ha⟩ := exists_eq_append_skipSpace s
      rw [ha, hb, List.length_append, List.length_cons] at hs
      omega
    split_ifs
    · exact (terse_skipIdent _ _).bind fun _ _ => terse_pure _
    · exact (terse_skipIdent _ _).bind fun _ _ => terse_pure _
    · exact (terse_skipIdent _ _).bind fun _ _ => terse_pure _
    · exact (yieldsNumber_readNumber _ _).terse.bind fun _ _ => terse_pure _
    · exact (yieldsNumber_readNumber _ _).terse.bind fun _ _ => terse_pure _
    · exact (terse_readString _).bind fun _ _ => terse_pure _
    · simp
    · exact (h.elements hrest).bind fun _ _ => (terse_endArray _).bind fun _ _ => terse_pure _
    · simp
    · exact (h.object hrest).bind fun _ _ => (terse_endObject _).bind fun _ _ => terse_pure _
    · simp

/-- The elements of an array. -/
theorem elements_succ (h : TerseWithin size fuel) {depth : Nat} {first : Bool} {acc : List Value}
    {s : Bytes} (hs : s.length ≤ size) :
    Terse size (readElements (fuel + 1) depth first acc s) := by
  unfold readElements
  apply (terse_nextElement first s).bind
  rintro (- | u) hnext
  · exact terse_pure _
  · obtain ⟨l, -, rfl⟩ := exists_of_nextElement hnext
    have hu : u.length ≤ size := by
      rw [List.length_append] at hs
      omega
    apply (h.value hu).bind
    rintro ⟨v, t⟩ hvalue
    exact h.elements (((readsWithin fuel).value hvalue).length_le.trans hu)

/-- The value of a member is shorter than the member and what comes before it. -/
theorem length_le_of_member {first : Bool} {s u t p : Bytes} {name : String}
    (hnext : nextMember first s = .ok (some u)) (hname : readString u = .ok (name, t))
    (hcolon : skipColon t = .ok p) : p.length ≤ s.length := by
  obtain ⟨l, -, rfl⟩ := exists_of_nextMember hnext
  obtain ⟨n, -, rfl⟩ := exists_of_readString hname
  obtain ⟨b, -, rfl⟩ := exists_of_skipColon hcolon
  simp only [List.length_append, List.length_cons]
  omega

/-- An object, or what its first name makes of it. -/
theorem object_succ (h : TerseWithin size fuel) {depth : Nat} {s : Bytes} (hs : s.length ≤ size) :
    Terse size (readObject (fuel + 1) depth s) := by
  unfold readObject
  apply (terse_nextMember true s).bind
  rintro (- | u) hnext
  · exact terse_pure _
  · apply (terse_readString u).bind
    rintro ⟨name, t⟩ hname
    apply (terse_skipColon t).bind
    intro p hcolon
    have hp : p.length ≤ size := (length_le_of_member hnext hname hcolon).trans hs
    dsimp only
    split_ifs
    · exact h.quoted hp
    · apply (h.value hp).bind
      rintro ⟨v, q⟩ hvalue
      exact h.members (((readsWithin fuel).value hvalue).length_le.trans hp)

/-- The members of an object behind the first. -/
theorem members_succ (h : TerseWithin size fuel) {depth : Nat} {members : Members} {s : Bytes}
    (hs : s.length ≤ size) : Terse size (readMembers (fuel + 1) depth members s) := by
  unfold readMembers
  apply (terse_nextMember false s).bind
  rintro (- | u) hnext
  · exact terse_pure _
  · apply (terse_readString u).bind
    rintro ⟨name, t⟩ hname
    apply (terse_skipColon t).bind
    intro p hcolon
    have hp : p.length ≤ size := (length_le_of_member hnext hname hcolon).trans hs
    apply (h.value hp).bind
    rintro ⟨v, q⟩ hvalue
    exact h.members (((readsWithin fuel).value hvalue).length_le.trans hp)

/-- A value in a text that a string holds. -/
theorem quoted_succ (h : TerseWithin size fuel) {s : Bytes} (hs : s.length ≤ size) :
    Terse size (readQuoted (fuel + 1) s) := by
  unfold readQuoted
  apply (terse_expectString (by decide) s).bind
  rintro ⟨text, t⟩ hstring
  obtain ⟨a, q, -, hq, rfl⟩ := exists_of_expectString hstring
  have hinner : (Utf8.encode text).length ≤ size := by
    have := hq.length_encode_le
    simp only [List.length_append] at hs
    omega
  have hvalue : Terse size (readValueFrom fuel maxDepth (Utf8.encode text)) := h.value hinner
  dsimp only
  split
  · next fault hfault => exact terse_error.mpr ((hvalue fault hfault).quotedFrom hinner)
  · split
    · next fault hfault =>
      exact terse_error.mpr ((terse_endText _ fault hfault).quotedFrom hinner)
    · exact terse_pure _

end TerseWithin

/-- With any fuel. -/
theorem terseWithin (size fuel : Nat) : TerseWithin size fuel := by
  induction fuel with
  | zero =>
    constructor <;> intros <;>
      simp [readValueFrom, readElements, readObject, readMembers, readQuoted]
  | succ fuel ih =>
    exact ⟨ih.value_succ, ih.elements_succ, ih.object_succ, ih.members_succ, ih.quoted_succ⟩

/-- The reader of values finds fault in few words. -/
theorem terse_readValue {s : Bytes} (h : s.length ≤ size) (depth : Nat) :
    Terse size (readValue depth s) :=
  (terseWithin size _).value h

end

end Switchboard.Json
