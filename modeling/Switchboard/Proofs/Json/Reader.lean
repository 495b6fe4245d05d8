import Switchboard.Proofs.Json.Spelling
import Switchboard.Json.Reader
/-!
# The reader stays within the grammar

Whatever `readValue` reads is one value of the grammar with blanks in front of it
(`exists_of_readValue`). The converse does not hold: the reader bounds the depth of a value and the
exponents of its numbers, and refuses half surrogate pairs.
-/

namespace Switchboard.Json

open Ascii

/-! ### Numbers -/

/-- What is finished as a double leaves what was left. -/
theorem eq_of_finishDouble {negative : Bool} {digits : Nat} {e : Int} {s r : Bytes} {n : Number}
    (h : finishDouble negative digits e s = .ok (n, r)) : r = s := by
  unfold finishDouble at h
  split at h
  · exact (Prod.mk.inj (Except.ok.inj h)).2.symm
  · cases h

/-- Digits that are passed over. -/
theorem exists_digits_cons {b : UInt8} (hb : isDigit b = true) (s : Bytes) :
    ∃ ds, IsDigits ds ∧ b :: s = ds ++ skipDigits s := by
  obtain ⟨ds, hds, hs⟩ := exists_eq_append_skipDigits s
  refine ⟨b :: ds, ⟨List.cons_ne_nil b ds, List.forall_mem_cons.mpr ⟨hb, hds⟩⟩, ?_⟩
  rw [List.cons_append, ← hs]

/-- What is read as the digits of an exponent are digits, behind the first one. -/
theorem exists_of_readExponentDigits {negative negativeExp : Bool} {digits : Nat} {start : Int}
    {e : Nat} {s r : Bytes} {n : Number}
    (h : readExponentDigits negative negativeExp digits start e s = .ok (n, r)) :
    ∃ ds, (∀ b ∈ ds, isDigit b = true) ∧ s = ds ++ r := by
  induction s generalizing e with
  | nil =>
    obtain rfl := eq_of_finishDouble h
    exact ⟨[], by simp, rfl⟩
  | cons b s ih =>
    have skipped (hb : isDigit b = true) (hr : skipDigits s = r) :
        ∃ ds, (∀ b ∈ ds, isDigit b = true) ∧ b :: s = ds ++ r := by
      obtain ⟨ds, hds, hs⟩ := exists_digits_cons hb s
      exact ⟨ds, hds.2, hr ▸ hs⟩
    simp only [readExponentDigits] at h
    split_ifs at h with hb hnext hover hneg
    · obtain ⟨ds, hds, rfl⟩ := ih h
      exact ⟨b :: ds, List.forall_mem_cons.mpr ⟨hb, hds⟩, rfl⟩
    · exact skipped hb (Prod.mk.inj (Except.ok.inj h)).2
    · exact skipped hb (Prod.mk.inj (Except.ok.inj h)).2
    · obtain rfl := eq_of_finishDouble h
      exact ⟨[], by simp, rfl⟩

/-- What is read as an exponent behind its letter is a sign or none, and digits. -/
theorem exists_of_readExponent {negative : Bool} {digits : Nat} {start : Int} {s r : Bytes}
    {n : Number} (h : readExponent negative digits start s = .ok (n, r)) :
    ∃ sign ds, (sign = [] ∨ sign = [plus] ∨ sign = [minus]) ∧ IsDigits ds ∧
      s = sign ++ ds ++ r := by
  have digits {negativeExp : Bool} {b : UInt8} {u : Bytes} (hb : isDigit b = true)
      (hu : readExponentDigits negative negativeExp digits start (b.toNat - 0x30) u = .ok (n, r)) :
      ∃ ds, IsDigits ds ∧ b :: u = ds ++ r := by
    obtain ⟨ds, hds, rfl⟩ := exists_of_readExponentDigits hu
    exact ⟨b :: ds, ⟨List.cons_ne_nil b ds, List.forall_mem_cons.mpr ⟨hb, hds⟩⟩, rfl⟩
  cases s with
  | nil => cases h
  | cons b s =>
    by_cases hplus : b = plus
    · simp only [readExponent, if_pos hplus] at h
      cases s with
      | nil => cases h
      | cons c s =>
        simp only at h
        split_ifs at h with hc
        obtain ⟨ds, hds, hs⟩ := digits hc h
        exact ⟨[plus], ds, by simp, hds, by rw [hs, hplus]; rfl⟩
    · by_cases hminus : b = minus
      · simp only [readExponent, if_neg hplus, if_pos hminus] at h
        cases s with
        | nil => cases h
        | cons c s =>
          simp only at h
          split_ifs at h with hc
          obtain ⟨ds, hds, hs⟩ := digits hc h
          exact ⟨[minus], ds, by simp, hds, by rw [hs, hminus]; rfl⟩
      · simp only [readExponent, if_neg hplus, if_neg hminus] at h
        split_ifs at h with hb
        obtain ⟨ds, hds, hs⟩ := digits hb h
        exact ⟨[], ds, by simp, hds, by rw [hs]; rfl⟩

/-- What is read behind the digits of a double is an exponent. -/
theorem exists_of_readExponent? {negative : Bool} {digits : Nat} {e : Int} {s r : Bytes}
    {n : Number} (h : readExponent? negative digits e s = .ok (n, r)) :
    ∃ x, IsExponent x ∧ s = x ++ r := by
  cases s with
  | nil =>
    obtain rfl := eq_of_finishDouble h
    exact ⟨[], .none, rfl⟩
  | cons b s =>
    simp only [readExponent?, Bool.or_eq_true, decide_eq_true_eq] at h
    split_ifs at h with hb
    · obtain ⟨sign, ds, hsign, hds, rfl⟩ := exists_of_readExponent h
      exact ⟨_, .some hb hsign hds, by simp⟩
    · obtain rfl := eq_of_finishDouble h
      exact ⟨[], .none, rfl⟩

/-- What is read as the digits of a fraction are digits and an exponent. -/
theorem exists_of_readFractionDigits {negative : Bool} {digits : Nat} {e : Int} {s r : Bytes}
    {n : Number} (h : readFractionDigits negative digits e s = .ok (n, r)) :
    ∃ ds x, (∀ b ∈ ds, isDigit b = true) ∧ IsExponent x ∧ s = ds ++ (x ++ r) := by
  induction s generalizing digits e with
  | nil =>
    obtain ⟨x, hx, hs⟩ := exists_of_readExponent? h
    exact ⟨[], x, by simp, hx, hs⟩
  | cons b s ih =>
    simp only [readFractionDigits] at h
    split_ifs at h with hb hnext
    · obtain ⟨ds, x, hds, hx, rfl⟩ := ih h
      exact ⟨b :: ds, x, List.forall_mem_cons.mpr ⟨hb, hds⟩, hx, rfl⟩
    · obtain ⟨x, hx, hs⟩ := exists_of_readExponent? h
      obtain ⟨ds, hds, hskip⟩ := exists_digits_cons hb s
      exact ⟨ds, x, hds.2, hx, by rw [hskip, hs]⟩
    · obtain ⟨x, hx, hs⟩ := exists_of_readExponent? h
      exact ⟨[], x, by simp, hx, hs⟩

/-- What is read as a fraction behind its point are digits, at least one, and an exponent. -/
theorem exists_of_readFraction {negative : Bool} {digits : Nat} {e : Int} {s r : Bytes}
    {n : Number} (h : readFraction negative digits e s = .ok (n, r)) :
    ∃ ds x, IsDigits ds ∧ IsExponent x ∧ s = ds ++ (x ++ r) := by
  cases s with
  | nil => cases h
  | cons b s =>
    simp only [readFraction, Bool.not_eq_true'] at h
    split_ifs at h with hb hnext
    · rw [Bool.not_eq_false] at hb
      obtain ⟨x, hx, hs⟩ := exists_of_readExponent? h
      obtain ⟨ds, hds, hskip⟩ := exists_digits_cons hb s
      exact ⟨ds, x, hds, hx, by rw [hskip, hs]⟩
    · rw [Bool.not_eq_false] at hb
      simp only [readFractionDigits, hb, if_true, if_pos (Nat.le_of_not_lt hnext)] at h
      obtain ⟨ds, x, hds, hx, rfl⟩ := exists_of_readFractionDigits h
      exact ⟨b :: ds, x, ⟨List.cons_ne_nil b ds, List.forall_mem_cons.mpr ⟨hb, hds⟩⟩, hx, rfl⟩

/-- What is read behind the integer part of a number is a fraction and an exponent. -/
theorem exists_of_readAfterInteger {negative : Bool} {digits : Nat} {s r : Bytes} {n : Number}
    (h : readAfterInteger negative digits s = .ok (n, r)) :
    ∃ f x, IsFraction f ∧ IsExponent x ∧ s = f ++ (x ++ r) := by
  cases s with
  | nil =>
    obtain ⟨-, rfl⟩ := Prod.mk.inj (Except.ok.inj h)
    exact ⟨[], [], .none, .none, rfl⟩
  | cons b s =>
    simp only [readAfterInteger, Bool.or_eq_true, decide_eq_true_eq] at h
    split_ifs at h with hdot he
    · obtain ⟨ds, x, hds, hx, rfl⟩ := exists_of_readFraction h
      exact ⟨dot :: ds, x, .some hds, hx, by rw [hdot]; rfl⟩
    · obtain ⟨sign, ds, hsign, hds, rfl⟩ := exists_of_readExponent h
      exact ⟨[], _, .none, .some he hsign hds, by simp⟩
    · obtain ⟨-, rfl⟩ := Prod.mk.inj (Except.ok.inj h)
      exact ⟨[], [], .none, .none, rfl⟩

/-- What is read behind the digits of an integer part that still fit are further digits, a fraction
and an exponent. -/
theorem exists_of_readLongInteger {negative : Bool} {digits : Nat} {e : Int} {s r : Bytes}
    {n : Number} (h : readLongInteger negative digits e s = .ok (n, r)) :
    ∃ ds f x, (∀ b ∈ ds, isDigit b = true) ∧ IsFraction f ∧ IsExponent x ∧
      s = ds ++ (f ++ (x ++ r)) := by
  induction s generalizing e with
  | nil =>
    obtain rfl := eq_of_finishDouble h
    exact ⟨[], [], [], by simp, .none, .none, rfl⟩
  | cons b s ih =>
    simp only [readLongInteger] at h
    split_ifs at h with hb hdot
    · obtain ⟨ds, f, x, hds, hf, hx, rfl⟩ := ih h
      exact ⟨b :: ds, f, x, List.forall_mem_cons.mpr ⟨hb, hds⟩, hf, hx, rfl⟩
    · obtain ⟨ds, x, hds, hx, rfl⟩ := exists_of_readFraction h
      exact ⟨[], dot :: ds, x, by simp, .some hds, hx, by rw [hdot]; rfl⟩
    · obtain ⟨x, hx, hs⟩ := exists_of_readExponent? h
      exact ⟨[], [], x, by simp, .none, hx, hs⟩

/-- What is read behind the first digit of an integer part are further digits, a fraction and an
exponent. -/
theorem exists_of_readIntegerDigits {negative : Bool} {digits : Nat} {s r : Bytes} {n : Number}
    (h : readIntegerDigits negative digits s = .ok (n, r)) :
    ∃ ds f x, (∀ b ∈ ds, isDigit b = true) ∧ IsFraction f ∧ IsExponent x ∧
      s = ds ++ (f ++ (x ++ r)) := by
  induction s generalizing digits with
  | nil =>
    obtain ⟨f, x, hf, hx, hs⟩ := exists_of_readAfterInteger h
    exact ⟨[], f, x, by simp, hf, hx, hs⟩
  | cons b s ih =>
    simp only [readIntegerDigits] at h
    split_ifs at h with hb hnext
    · obtain ⟨ds, f, x, hds, hf, hx, rfl⟩ := ih h
      exact ⟨b :: ds, f, x, List.forall_mem_cons.mpr ⟨hb, hds⟩, hf, hx, rfl⟩
    · exact exists_of_readLongInteger h
    · obtain ⟨f, x, hf, hx, hs⟩ := exists_of_readAfterInteger h
      exact ⟨[], f, x, by simp, hf, hx, hs⟩

/-- What is read as a number behind its sign is one. -/
theorem exists_of_readNumber {negative : Bool} {s r : Bytes} {n : Number}
    (h : readNumber negative s = .ok (n, r)) : ∃ u, IsUnsigned u ∧ s = u ++ r := by
  cases s with
  | nil => cases h
  | cons b s =>
    simp only [readNumber] at h
    split_ifs at h with hz hd hb
    · obtain ⟨f, x, hf, hx, rfl⟩ := exists_of_readAfterInteger h
      exact ⟨_, .mk .zero hf hx, by simp [hz]⟩
    · obtain ⟨ds, f, x, hds, hf, hx, rfl⟩ := exists_of_readIntegerDigits h
      exact ⟨_, .mk (.digits hz hb hds) hf hx, by simp⟩

/-! ### Strings and marks -/

/-- What is read as a string is one. -/
theorem exists_of_readString {s r : Bytes} {text : String} (h : readString s = .ok (text, r)) :
    ∃ n, IsBody n ∧ s = n ++ quote :: r := by
  obtain ⟨n, hn, hs⟩ := spells_of_readString h
  exact ⟨n, hn.isBody, hs⟩

/-- Where the end of an object is found a brace stands, behind blanks. -/
theorem exists_of_endObject {s r : Bytes} (h : endObject s = .ok r) :
    ∃ b, IsBlank b ∧ s = b ++ closeBrace :: r := by
  obtain ⟨b, hb, hs⟩ := exists_eq_append_skipSpace s
  unfold endObject at h
  split at h
  · cases h
  · next c u hc =>
    split_ifs at h with hclose
    obtain rfl := Except.ok.inj h
    exact ⟨b, hb, by rw [hs, hc, hclose]⟩

/-- Where the end of an array is found a bracket stands, behind blanks. -/
theorem exists_of_endArray {s r : Bytes} (h : endArray s = .ok r) :
    ∃ b, IsBlank b ∧ s = b ++ closeBracket :: r := by
  obtain ⟨b, hb, hs⟩ := exists_eq_append_skipSpace s
  unfold endArray at h
  split at h
  · cases h
  · next c u hc =>
    split_ifs at h with hclose hcomma
    · obtain rfl := Except.ok.inj h
      exact ⟨b, hb, by rw [hs, hc, hclose]⟩
    · split at h
      · cases h
      · split_ifs at h

/-! ### Items -/

/-- What stands in front of an item: blanks, and in front of a further one a comma among them. -/
def IsLead : Bool → Bytes → Prop
  | true, l => IsBlank l
  | false, l => ∃ b c, IsBlank b ∧ IsBlank c ∧ l = b ++ comma :: c

/-- Nothing need stand in front of the first item. -/
theorem isLead_nil : IsLead true [] := isBlank_nil

/-- A comma is enough in front of a further item. -/
theorem isLead_comma : IsLead false [comma] := ⟨[], [], isBlank_nil, isBlank_nil, rfl⟩

/-- Items of an array or an object, from the first on or from a further one on, if there are any. -/
inductive Listed (nest : Nest) : Bool → Bytes → Prop
  | nil (first : Bool) : Listed nest first []
  | cons {first : Bool} {l n a v w : Bytes} (hl : IsLead first l) (hn : IsName nest n)
    (ha : IsBlank a) (hv : IsValue v) :
    Listed nest false w → Listed nest first (l ++ n ++ a ++ v ++ w)

/-- An item and those behind it are items. -/
theorem Listed.derives {nest : Nest} {w : Bytes} (h : Listed nest false w) {n a v b : Bytes}
    (hn : IsName nest n) (ha : IsBlank a) (hv : IsValue v) (hb : IsBlank b) :
    Derives (.items nest) (n ++ a ++ v ++ w ++ b) := by
  generalize hfirst : false = first at h
  induction h generalizing n a v with
  | nil first => simpa using Derives.last hn ha hb hv
  | @cons first l n' a' v' w hl hn' ha' hv' _ ih =>
    subst hfirst
    obtain ⟨c, d, hc, hd, rfl⟩ := hl
    obtain ⟨m, e, hm, he, heq⟩ := hn'.exists_append hd ha'
    have hitem : d ++ (n' ++ (a' ++ (v' ++ (w ++ b)))) = m ++ e ++ v' ++ w ++ b := by
      simp only [← List.append_assoc, heq]
    simpa [hitem] using Derives.more hn ha hc hv (ih hm he hv' rfl)

/-- All the items, if any, and the brackets around them are a value. -/
theorem Listed.isValue {nest : Nest} {w b : Bytes} (h : Listed nest true w) (hb : IsBlank b) :
    IsValue (nest.opener :: (w ++ b) ++ [nest.closer]) := by
  cases h with
  | nil => exact .empty nest hb
  | cons hl hn ha hv hw =>
    obtain ⟨n, a, hn', ha', heq⟩ := hn.exists_append hl ha
    rw [heq]
    exact .full nest (hw.derives hn' ha' hv hb)

/-- Where a member of an object is found its name begins. -/
theorem exists_of_nextMember {first : Bool} {s r : Bytes}
    (h : nextMember first s = .ok (some r)) : ∃ l, IsLead first l ∧ s = l ++ quote :: r := by
  obtain ⟨b, hb, hs⟩ := exists_eq_append_skipSpace s
  unfold nextMember at h
  split at h
  · cases h
  · next c u hc =>
    obtain ⟨d, hd, hu⟩ := exists_eq_append_skipSpace u
    split_ifs at h with hclose hfirst hquote hcomma
    · cases Except.ok.inj h
    · obtain rfl := Option.some.inj (Except.ok.inj h)
      exact ⟨b, by rwa [hfirst], by rw [hs, hc, hquote]⟩
    · split at h
      · cases h
      · next e v hv =>
        split_ifs at h with hquote
        obtain rfl := Option.some.inj (Except.ok.inj h)
        obtain rfl : first = false := by simpa using hfirst
        exact ⟨_, ⟨b, d, hb, hd, rfl⟩, by rw [hs, hc, hcomma, hu, hv, hquote]; simp⟩

/-- Where an element of an array is found it begins. -/
theorem exists_of_nextElement {first : Bool} {s r : Bytes}
    (h : nextElement first s = .ok (some r)) : ∃ l, IsLead first l ∧ s = l ++ r := by
  obtain ⟨b, hb, hs⟩ := exists_eq_append_skipSpace s
  unfold nextElement at h
  split at h
  · cases h
  · next c u hc =>
    obtain ⟨d, hd, hu⟩ := exists_eq_append_skipSpace u
    split_ifs at h with hclose hfirst hcomma
    · cases Except.ok.inj h
    · obtain rfl := Option.some.inj (Except.ok.inj h)
      exact ⟨b, by rwa [hfirst], by rw [← hc, ← hs]⟩
    · split at h
      · cases h
      · next e v hv =>
        split_ifs at h with hbracket
        obtain rfl := Option.some.inj (Except.ok.inj h)
        obtain rfl : first = false := by simpa using hfirst
        exact ⟨_, ⟨b, d, hb, hd, rfl⟩, by
          rw [hs, hc, hcomma, List.append_assoc, List.cons_append, ← hv, ← hu]⟩

/-- What is read as a string where only a string will do is the text of one. -/
theorem exists_of_expectString {expected : String} {s r : Bytes} {c : String}
    (h : expectString expected s = .ok (c, r)) :
    ∃ a q, IsBlank a ∧ IsText q c ∧ s = a ++ q ++ r := by
  obtain ⟨a, ha, hs⟩ := exists_eq_append_skipSpace s
  unfold expectString at h
  split at h
  · cases h
  · next b u hb =>
    split_ifs at h with hq
    obtain ⟨n, hn, hu⟩ := spells_of_readString h
    exact ⟨a, _, ha, ⟨n, hn, rfl⟩, by rw [hs, hb, hq, hu]; simp⟩

/-! ### Values -/

/-- A value with blanks in front of it, up to what is left. -/
def HasValue (s r : Bytes) : Prop := ∃ a v, IsBlank a ∧ IsValue v ∧ s = a ++ v ++ r

/-- What the readers of values read with some fuel. -/
structure ReadsWithin (fuel : Nat) : Prop where
  value {depth : Nat} {s r : Bytes} {v : Value} :
    readValueFrom fuel depth s = .ok (v, r) → HasValue s r
  elements {depth : Nat} {first : Bool} {acc vs : List Value} {s r : Bytes} :
    readElements fuel depth first acc s = .ok (vs, r) → ∃ w, Listed .list first w ∧ s = w ++ r
  object {depth : Nat} {s r : Bytes} {v : Value} :
    readObject fuel depth s = .ok (v, r) → ∃ w, Listed .object true w ∧ s = w ++ r
  members {depth : Nat} {members : Members} {s r : Bytes} {v : Value} :
    readMembers fuel depth members s = .ok (v, r) → ∃ w, Listed .object false w ∧ s = w ++ r
  quoted {s r : Bytes} {v : Value} : readQuoted fuel s = .ok (v, r) → HasValue s r

/-- A member's name, its colon and its value, and the members behind it. -/
theorem listed_of_member {first : Bool} {l n b a v w : Bytes} (hl : IsLead first l) (hn : IsBody n)
    (hb : IsBlank b) (ha : IsBlank a) (hv : IsValue v) (hw : Listed .object false w) :
    Listed .object first (l ++ quote :: n ++ quote :: b ++ colon :: (a ++ v ++ w)) := by
  have hname : IsName .object (quote :: n ++ quote :: b ++ [colon]) :=
    .object (a := []) isBlank_nil hn hb
  simpa using Listed.cons hl hname ha hv hw

namespace ReadsWithin

variable {fuel : Nat}

/-- A value is read within the grammar. -/
theorem value_succ (h : ReadsWithin fuel) {depth : Nat} {s r : Bytes} {v : Value}
    (hread : readValueFrom (fuel + 1) depth s = .ok (v, r)) : HasValue s r := by
  obtain ⟨a, ha, hs⟩ := exists_eq_append_skipSpace s
  unfold readValueFrom at hread
  split at hread
  · cases hread
  · next b u hb =>
    have found {t : Bytes} (ht : IsValue t) (hu : b :: u = t ++ r) : HasValue s r :=
      ⟨a, t, ha, ht, by rw [hs, hb, hu, List.append_assoc]⟩
    split_ifs at hread with h₁ h₂ h₃ h₄ h₅ h₆ h₇ hdepth h₈ hdepth
    · obtain ⟨t, ht, hread⟩ := bind_eq_ok.mp hread
      obtain ⟨-, rfl⟩ := Prod.mk.inj (Except.ok.inj hread)
      exact found .null (by rw [h₁, eq_append_of_skipIdent ht]; rfl)
    · obtain ⟨t, ht, hread⟩ := bind_eq_ok.mp hread
      obtain ⟨-, rfl⟩ := Prod.mk.inj (Except.ok.inj hread)
      exact found .true (by rw [h₂, eq_append_of_skipIdent ht]; rfl)
    · obtain ⟨t, ht, hread⟩ := bind_eq_ok.mp hread
      obtain ⟨-, rfl⟩ := Prod.mk.inj (Except.ok.inj hread)
      exact found .false (by rw [h₃, eq_append_of_skipIdent ht]; rfl)
    · obtain ⟨⟨n, t⟩, ht, hread⟩ := bind_eq_ok.mp hread
      obtain ⟨-, rfl⟩ := Prod.mk.inj (Except.ok.inj hread)
      obtain ⟨w, hw, hu⟩ := exists_of_readNumber ht
      exact found (.negative hw) (by rw [h₄, hu]; rfl)
    · obtain ⟨⟨n, t⟩, ht, hread⟩ := bind_eq_ok.mp hread
      obtain ⟨-, rfl⟩ := Prod.mk.inj (Except.ok.inj hread)
      obtain ⟨w, hw, hu⟩ := exists_of_readNumber ht
      exact found (.positive hw) hu
    · obtain ⟨⟨text, t⟩, ht, hread⟩ := bind_eq_ok.mp hread
      obtain ⟨-, rfl⟩ := Prod.mk.inj (Except.ok.inj hread)
      obtain ⟨n, hn, hu⟩ := exists_of_readString ht
      exact found (.string hn) (by rw [h₆, hu]; simp)
    · obtain ⟨⟨vs, t⟩, ht, hread⟩ := bind_eq_ok.mp hread
      obtain ⟨t', ht', hread⟩ := bind_eq_ok.mp hread
      obtain ⟨-, rfl⟩ := Prod.mk.inj (Except.ok.inj hread)
      obtain ⟨w, hw, hu⟩ := h.elements ht
      obtain ⟨c, hc, hend⟩ := exists_of_endArray ht'
      exact found (hw.isValue hc) (by rw [h₇, hu, hend]; simp [Nest.opener, Nest.closer])
    · obtain ⟨⟨vs, t⟩, ht, hread⟩ := bind_eq_ok.mp hread
      obtain ⟨t', ht', hread⟩ := bind_eq_ok.mp hread
      obtain ⟨-, rfl⟩ := Prod.mk.inj (Except.ok.inj hread)
      obtain ⟨w, hw, hu⟩ := h.object ht
      obtain ⟨c, hc, hend⟩ := exists_of_endObject ht'
      exact found (hw.isValue hc) (by rw [h₈, hu, hend]; simp [Nest.opener, Nest.closer])

/-- The elements of an array are read within the grammar. -/
theorem elements_succ (h : ReadsWithin fuel) {depth : Nat} {first : Bool} {acc vs : List Value}
    {s r : Bytes} (hread : readElements (fuel + 1) depth first acc s = .ok (vs, r)) :
    ∃ w, Listed .list first w ∧ s = w ++ r := by
  unfold readElements at hread
  obtain ⟨next, hnext, hread⟩ := bind_eq_ok.mp hread
  cases next with
  | none =>
    obtain ⟨-, rfl⟩ := Prod.mk.inj (Except.ok.inj hread)
    exact ⟨[], .nil first, rfl⟩
  | some u =>
    obtain ⟨⟨v, t⟩, hvalue, hread⟩ := bind_eq_ok.mp hread
    obtain ⟨w, hw, rfl⟩ := h.elements hread
    obtain ⟨a, x, ha, hx, rfl⟩ := h.value hvalue
    obtain ⟨l, hl, rfl⟩ := exists_of_nextElement hnext
    exact ⟨_, .cons hl .list ha hx hw, by simp⟩

/-- A member and those behind it are read within the grammar. -/
theorem member {first : Bool} {s u t v r : Bytes} {name : String}
    (hnext : nextMember first s = .ok (some u)) (hname : readString u = .ok (name, t))
    (hcolon : skipColon t = .ok v) (hrest : ∃ q, HasValue v q ∧ ∃ w, Listed .object false w ∧
      q = w ++ r) : ∃ w, Listed .object first w ∧ s = w ++ r := by
  obtain ⟨q, ⟨a, x, ha, hx, rfl⟩, w, hw, rfl⟩ := hrest
  obtain ⟨l, hl, rfl⟩ := exists_of_nextMember hnext
  obtain ⟨n, hn, rfl⟩ := exists_of_readString hname
  obtain ⟨b, hb, rfl⟩ := exists_of_skipColon hcolon
  exact ⟨_, listed_of_member hl hn hb ha hx hw, by simp⟩

/-- The members of an object are read within the grammar. -/
theorem object_succ (h : ReadsWithin fuel) {depth : Nat} {s r : Bytes} {v : Value}
    (hread : readObject (fuel + 1) depth s = .ok (v, r)) :
    ∃ w, Listed .object true w ∧ s = w ++ r := by
  unfold readObject at hread
  obtain ⟨next, hnext, hread⟩ := bind_eq_ok.mp hread
  cases next with
  | none =>
    obtain ⟨-, rfl⟩ := Prod.mk.inj (Except.ok.inj hread)
    exact ⟨[], .nil true, rfl⟩
  | some u =>
    obtain ⟨⟨name, t⟩, hname, hread⟩ := bind_eq_ok.mp hread
    obtain ⟨p, hcolon, hread⟩ := bind_eq_ok.mp hread
    simp only at hread
    split_ifs at hread with hraw
    · exact member hnext hname hcolon ⟨r, h.quoted hread, [], .nil false, rfl⟩
    · obtain ⟨⟨x, q⟩, hvalue, hread⟩ := bind_eq_ok.mp hread
      exact member hnext hname hcolon ⟨q, h.value hvalue, h.members hread⟩

/-- The further members of an object are read within the grammar. -/
theorem members_succ (h : ReadsWithin fuel) {depth : Nat} {members : Members} {s r : Bytes}
    {v : Value} (hread : readMembers (fuel + 1) depth members s = .ok (v, r)) :
    ∃ w, Listed .object false w ∧ s = w ++ r := by
  unfold readMembers at hread
  obtain ⟨next, hnext, hread⟩ := bind_eq_ok.mp hread
  cases next with
  | none =>
    obtain ⟨-, rfl⟩ := Prod.mk.inj (Except.ok.inj hread)
    exact ⟨[], .nil false, rfl⟩
  | some u =>
    obtain ⟨⟨name, t⟩, hname, hread⟩ := bind_eq_ok.mp hread
    obtain ⟨p, hcolon, hread⟩ := bind_eq_ok.mp hread
    obtain ⟨⟨x, q⟩, hvalue, hread⟩ := bind_eq_ok.mp hread
    exact member hnext hname hcolon ⟨q, h.value hvalue, h.members hread⟩

/-- A value that a string holds the text of is a string in the text around it. -/
theorem quoted_succ {s r : Bytes} {v : Value} (hread : readQuoted (fuel + 1) s = .ok (v, r)) :
    HasValue s r := by
  unfold readQuoted at hread
  obtain ⟨⟨text, t⟩, hstring, hread⟩ := bind_eq_ok.mp hread
  simp only at hread
  split at hread
  · cases hread
  · split at hread
    · cases hread
    · obtain ⟨-, rfl⟩ := Prod.mk.inj (Except.ok.inj hread)
      obtain ⟨a, q, ha, hq, hs⟩ := exists_of_expectString hstring
      exact ⟨a, q, ha, hq.isValue, hs⟩

end ReadsWithin

/-- With any fuel the readers of values stay within the grammar. -/
theorem readsWithin (fuel : Nat) : ReadsWithin fuel := by
  induction fuel with
  | zero =>
    refine ⟨fun h => ?_, fun h => ?_, fun h => ?_, fun h => ?_, fun h => ?_⟩ <;>
      simp [readValueFrom, readElements, readObject, readMembers, readQuoted] at h
  | succ fuel ih =>
    exact ⟨ih.value_succ, ih.elements_succ, ih.object_succ, ih.members_succ,
      ReadsWithin.quoted_succ⟩

/-- What is read as a value is blanks and one value. -/
theorem exists_of_readValue {depth : Nat} {s r : Bytes} {v : Value}
    (h : readValue depth s = .ok (v, r)) : HasValue s r :=
  (readsWithin _).value h

end Switchboard.Json
