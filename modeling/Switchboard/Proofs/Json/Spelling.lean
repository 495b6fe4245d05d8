import Switchboard.Proofs.Json.Scanner
import Switchboard.Proofs.Text.Utf8
/-!
# What a string stands for

A string of the grammar is a spelling: each of its escapes stands for a character, a pair of
escapes for one character beyond the first plane, and every other byte for itself. `Spells` says
which bytes a spelling stands for. There are none where half a pair of escapes stands alone, and
for any other spelling the reader finds them, whatever follows (`readString_append`); what it reads
was spelled so (`spells_of_readString`).
-/

namespace Switchboard.Json

open Ascii

/-- A reader that goes on after another has read on from where that one stopped. -/
theorem bind_eq_ok {α β : Type} {x : Except Fault α} {f : α → Except Fault β} {b : β} :
    (x >>= f) = .ok b ↔ ∃ a, x = .ok a ∧ f a = .ok b := by
  cases x <;> simp [bind, Except.bind]

/-! ### Spellings -/

/-- The letters that may follow a backslash alone, each with the byte that it stands for. -/
def shortEscapes : List (UInt8 × UInt8) :=
  [(quote, quote), (backslash, backslash), (slash, slash), (0x62, 0x08), (0x66, formFeed),
    (0x6E, newline), (0x72, carriageReturn), (0x74, tab)]

/-- What stands between the quotes of a string, and the bytes that it stands for. -/
inductive Spells : Bytes → Bytes → Prop
  | nil : Spells [] []
  | plain {b : UInt8} {s t : Bytes} (hq : b ≠ quote) (hb : b ≠ backslash) (hc : ¬b < 0x20) :
    Spells s t → Spells (b :: s) (b :: t)
  | short {e c : UInt8} {s t : Bytes} (he : (e, c) ∈ shortEscapes) :
    Spells s t → Spells (backslash :: e :: s) (c :: t)
  /-- A UTF-16 unit that is a character by itself. -/
  | unit {a b c d : UInt8} {n : Nat} {s t : Bytes} (hn : hexQuad? a b c d = some n)
    (hh : isHighSurrogate n = false) (hl : isLowSurrogate n = false) :
    Spells s t → Spells (backslash :: 0x75 :: a :: b :: c :: d :: s)
      (String.utf8EncodeChar (Char.ofNat n) ++ t)
  /-- Two UTF-16 units that are one character together. -/
  | pair {a b c d a' b' c' d' : UInt8} {n m : Nat} {s t : Bytes}
    (hn : hexQuad? a b c d = some n) (hh : isHighSurrogate n = true)
    (hm : hexQuad? a' b' c' d' = some m) (hl : isLowSurrogate m = true) :
    Spells s t →
    Spells
      (backslash :: 0x75 :: a :: b :: c :: d :: backslash :: 0x75 :: a' :: b' :: c' :: d' :: s)
      (String.utf8EncodeChar (Char.ofNat (pairValue n m)) ++ t)

/-- The text of a string value that stands for a text. -/
def IsText (v : Bytes) (c : String) : Prop :=
  ∃ n, Spells n (Utf8.encode c) ∧ v = quote :: n ++ [quote]

/-- The reader knows the letters of the short escapes. -/
theorem unescape?_eq_some {e c : UInt8} : unescape? e = some c ↔ (e, c) ∈ shortEscapes := by
  constructor
  · intro h
    simp only [unescape?] at h
    split_ifs at h <;> obtain rfl := Option.some.inj h <;> simp_all [shortEscapes]
  · intro h
    simp only [shortEscapes, List.mem_cons, Prod.mk.injEq, List.not_mem_nil, or_false] at h
    rcases h with ⟨rfl, rfl⟩ | ⟨rfl, rfl⟩ | ⟨rfl, rfl⟩ | ⟨rfl, rfl⟩ | ⟨rfl, rfl⟩ | ⟨rfl, rfl⟩ |
      ⟨rfl, rfl⟩ | ⟨rfl, rfl⟩ <;> rfl

/-- A unit cannot be both halves of a pair. -/
theorem isLowSurrogate_of_isHighSurrogate {n : Nat} (h : isHighSurrogate n = true) :
    isLowSurrogate n = false := by
  simp only [isHighSurrogate, isLowSurrogate, Bool.and_eq_true, decide_eq_true_eq,
    Bool.and_eq_false_iff, decide_eq_false_iff_not] at h ⊢
  omega

/-- A spelling may stand between the quotes of a string. -/
theorem Spells.isBody {s t : Bytes} (h : Spells s t) : IsBody s := by
  have unit {a b c d : UInt8} {n : Nat} {s : Bytes} (hn : hexQuad? a b c d = some n)
      (hs : IsBody s) : IsBody (backslash :: 0x75 :: a :: b :: c :: d :: s) := by
    obtain ⟨ha, hb, hc, hd⟩ := isSome_hexQuad?.mp (Option.isSome_of_eq_some hn)
    exact .unit ha hb hc hd hs
  induction h with
  | nil => exact .nil
  | plain hq hb hc _ ih => exact .plain hq hb hc ih
  | short he _ ih =>
    exact .short (isSome_unescape?.mp (Option.isSome_of_eq_some (unescape?_eq_some.mpr he))) ih
  | unit hn _ _ _ ih => exact unit hn ih
  | pair hn _ hm _ _ ih => exact unit hn (unit hm ih)

/-- The text of a string is one value of the grammar. -/
theorem IsText.isValue {v : Bytes} {c : String} (h : IsText v c) : IsValue v := by
  obtain ⟨n, hn, rfl⟩ := h
  exact .string hn.isBody

/-- The text of a string is in one line. -/
theorem IsText.oneLine_eq {v : Bytes} {c : String} (h : IsText v c) : oneLine v = v := by
  obtain ⟨n, hn, rfl⟩ := h
  simp +decide [oneLine_cons, oneLine_eq_self hn.isBody.ne_newline]

/-! ### The reader finds what is spelled -/

/-- A character is gathered in reverse behind what was gathered before. -/
theorem reverse_pushChar (n : Nat) (acc : Bytes) :
    (pushChar n acc).reverse = acc.reverse ++ String.utf8EncodeChar (Char.ofNat n) := by
  simp [pushChar, List.reverseAux_eq]

/-- The bytes of a spelling are read, whatever follows. -/
theorem readStringFrom_append {s t : Bytes} (h : Spells s t) (acc r : Bytes) :
    readStringFrom acc (s ++ quote :: r) = .ok (acc.reverse ++ t, r) := by
  induction h generalizing acc with
  | nil =>
    rw [List.nil_append, readStringFrom.eq_def]
    simp
  | plain hq hb hc _ ih =>
    rw [List.cons_append, readStringFrom.eq_def]
    simp [hq, hb, hc, ih]
  | @short e c s t he _ ih =>
    have hu := unescape?_eq_some.mpr he
    have h75 : e ≠ 0x75 := by
      rintro rfl
      cases hu
    rw [List.cons_append, List.cons_append, readStringFrom.eq_def]
    simp +decide [hu, h75, ih]
  | unit hn hh hl _ ih =>
    simp only [List.cons_append]
    rw [readStringFrom.eq_def]
    simp +decide [hn, hh, hl, ih, reverse_pushChar]
  | pair hn hh hm hl _ ih =>
    have hnot := isLowSurrogate_of_isHighSurrogate hh
    simp only [List.cons_append]
    rw [readStringFrom.eq_def]
    simp +decide [hn, hh, hm, hl, hnot, ih, reverse_pushChar]

/-- What is read as a string was spelled so. -/
theorem spells_of_readStringFrom {acc s t r : Bytes} (h : readStringFrom acc s = .ok (t, r)) :
    ∃ n u, Spells n u ∧ t = acc.reverse ++ u ∧ s = n ++ quote :: r := by
  fun_induction readStringFrom acc s with
  | case2 =>
    obtain ⟨rfl, rfl⟩ := Prod.mk.inj (Except.ok.inj h)
    exact ⟨[], [], .nil, by simp, rfl⟩
  | case9 _ _ _ _ _ _ hn _ hh _ _ _ _ _ _ hm hl _ ih =>
    obtain ⟨n, u, hu, ht, rfl⟩ := ih h
    rw [reverse_pushChar, List.append_assoc] at ht
    exact ⟨_, _, .pair hn hh hm hl hu, ht, rfl⟩
  | case14 _ _ _ _ _ _ _ hn hl hh _ ih =>
    obtain ⟨n, u, hu, ht, rfl⟩ := ih h
    rw [reverse_pushChar, List.append_assoc] at ht
    exact ⟨_, _, .unit hn (by simpa using hh) (by simpa using hl) hu, ht, rfl⟩
  | case16 _ _ _ _ _ he _ ih =>
    obtain ⟨n, u, hu, rfl, rfl⟩ := ih h
    exact ⟨_, _, .short (unescape?_eq_some.mp he) hu, by simp, rfl⟩
  | case19 _ _ _ hq hb hc ih =>
    obtain ⟨n, u, hu, rfl, rfl⟩ := ih h
    exact ⟨_, _, .plain hq hb hc hu, by simp, rfl⟩
  | _ => cases h

/-- The text of a spelling is read, whatever follows. -/
theorem readString_append {s : Bytes} {c : String} (h : Spells s (Utf8.encode c)) (r : Bytes) :
    readString (s ++ quote :: r) = .ok (c, r) := by
  simp [readString, readStringFrom_append h, bind, Except.bind, Utf8.decode?_encode, pure,
    Except.pure]

/-- What is read as the text of a string was spelled so. -/
theorem spells_of_readString {s r : Bytes} {c : String} (h : readString s = .ok (c, r)) :
    ∃ n, Spells n (Utf8.encode c) ∧ s = n ++ quote :: r := by
  obtain ⟨⟨bytes, u⟩, hfrom, h⟩ := bind_eq_ok.mp h
  simp only at h
  split at h
  · next text htext =>
    obtain ⟨rfl, rfl⟩ := Prod.mk.inj (Except.ok.inj h)
    obtain ⟨n, t, hn, rfl, rfl⟩ := spells_of_readStringFrom hfrom
    exact ⟨n, by rwa [Utf8.encode_of_decode? htext], rfl⟩
  · cases h

/-- A text is that of a string when the reader finds the end of the string at its end. -/
theorem isText_iff {v : Bytes} {c : String} :
    IsText v c ↔ ∃ s, v = quote :: s ∧ readString s = .ok (c, []) := by
  constructor
  · rintro ⟨n, hn, rfl⟩
    exact ⟨_, rfl, readString_append hn []⟩
  · rintro ⟨s, rfl, h⟩
    obtain ⟨n, hn, rfl⟩ := spells_of_readString h
    exact ⟨n, hn, rfl⟩

end Switchboard.Json
