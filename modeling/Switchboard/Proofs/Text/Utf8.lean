import Switchboard.Text.Ascii
import Mathlib
/-!
# Reading back what was written

`Utf8.decode?` and `Utf8.encode` undo each other: every string is read back from its bytes
(`decode?_encode`), and bytes that are read as a string are the bytes of that string
(`encode_of_decode?`). So the bytes that `Utf8.isValid` accepts are exactly those of strings
(`isValid_iff`).
-/

namespace Switchboard.Utf8

/-! ### Classes of bytes as numbers -/

/-- The bytes of ASCII characters. -/
theorem widthOf_eq_one {a : UInt8} : widthOf a = 1 ↔ a.toNat < 0x80 := by
  simp only [widthOf, UInt8.lt_iff_toNat_lt, UInt8.reduceToNat]
  grind

/-- The bytes that begin characters of two bytes. -/
theorem widthOf_eq_two {a : UInt8} : widthOf a = 2 ↔ 0xC2 ≤ a.toNat ∧ a.toNat < 0xE0 := by
  simp only [widthOf, UInt8.lt_iff_toNat_lt, UInt8.reduceToNat]
  grind

/-- The bytes that begin characters of three bytes. -/
theorem widthOf_eq_three {a : UInt8} : widthOf a = 3 ↔ 0xE0 ≤ a.toNat ∧ a.toNat < 0xF0 := by
  simp only [widthOf, UInt8.lt_iff_toNat_lt, UInt8.reduceToNat]
  grind

/-- The bytes that begin characters of four bytes. -/
theorem widthOf_eq_four {a : UInt8} : widthOf a = 4 ↔ 0xF0 ≤ a.toNat ∧ a.toNat < 0xF5 := by
  simp only [widthOf, UInt8.lt_iff_toNat_lt, UInt8.reduceToNat]
  grind

/-- No character has more than four bytes. -/
theorem widthOf_le_four (a : UInt8) : widthOf a ≤ 4 := by
  unfold widthOf
  split_ifs <;> decide

/-- A continuation byte, read off its number. -/
theorem isTail_iff {b : UInt8} : isTail b = true ↔ 0x80 ≤ b.toNat ∧ b.toNat ≤ 0xBF := by
  simp [isTail, UInt8.le_iff_toNat_le]

/-- The second of three bytes is a continuation byte with one more bound on either side. -/
theorem isSecondOfThree_iff {a b : UInt8} :
    isSecondOfThree a b = true ↔ 0x80 ≤ b.toNat ∧ b.toNat ≤ 0xBF ∧
      (a.toNat = 0xE0 → 0xA0 ≤ b.toNat) ∧ (a.toNat = 0xED → b.toNat ≤ 0x9F) := by
  simp only [isSecondOfThree, ← UInt8.toNat_inj, UInt8.reduceToNat]
  split_ifs with h₁ h₂ <;> simp [UInt8.le_iff_toNat_le, isTail_iff] <;> omega

/-- The second of four bytes is a continuation byte with one more bound on either side. -/
theorem isSecondOfFour_iff {a b : UInt8} :
    isSecondOfFour a b = true ↔ 0x80 ≤ b.toNat ∧ b.toNat ≤ 0xBF ∧
      (a.toNat = 0xF0 → 0x90 ≤ b.toNat) ∧ (a.toNat = 0xF4 → b.toNat ≤ 0x8F) := by
  simp only [isSecondOfFour, ← UInt8.toNat_inj, UInt8.reduceToNat]
  split_ifs with h₁ h₂ <;> simp [UInt8.le_iff_toNat_le, isTail_iff] <;> omega

/-! ### One character -/

/-- The number of a character made from a number that belongs to one. -/
theorem toNat_ofNat {n : Nat} (h : n.isValidChar) : (Char.ofNat n).val.toNat = n := by
  simp only [Char.ofNat, h, dif_pos]
  rfl

/-- An ASCII byte is the encoding of its character. -/
theorem encodeChar_of_one {a : UInt8} (h : widthOf a = 1) :
    String.utf8EncodeChar (Char.ofNat a.toNat) = [a] := by
  rw [widthOf_eq_one] at h
  have hv : a.toNat.isValidChar := Or.inl (by omega)
  simp only [String.utf8EncodeChar, toNat_ofNat hv]
  rw [if_pos (by omega)]
  simp

/-- Two bytes are the encoding of their character. -/
theorem encodeChar_charOfTwo {a b : UInt8} (h : widthOf a = 2) (hb : isTail b = true) :
    String.utf8EncodeChar (charOfTwo a b) = [a, b] := by
  rw [widthOf_eq_two] at h
  rw [isTail_iff] at hb
  have hv : ((a.toNat - 0xC0) * 64 + (b.toNat - 0x80)).isValidChar := Or.inl (by omega)
  simp only [String.utf8EncodeChar, charOfTwo, toNat_ofNat hv]
  rw [if_neg (by omega), if_pos (by omega)]
  simp only [List.cons.injEq, ← UInt8.toNat_inj, UInt8.toNat_ofNat', and_true]
  omega

/-- Three bytes are the encoding of their character. -/
theorem encodeChar_charOfThree {a b c : UInt8} (h : widthOf a = 3)
    (hb : isSecondOfThree a b = true) (hc : isTail c = true) :
    String.utf8EncodeChar (charOfThree a b c) = [a, b, c] := by
  rw [widthOf_eq_three] at h
  rw [isSecondOfThree_iff] at hb
  rw [isTail_iff] at hc
  have hv : (((a.toNat - 0xE0) * 64 + (b.toNat - 0x80)) * 64 + (c.toNat - 0x80)).isValidChar := by
    unfold Nat.isValidChar
    omega
  simp only [String.utf8EncodeChar, charOfThree, toNat_ofNat hv]
  rw [if_neg (by omega), if_neg (by omega), if_pos (by omega)]
  simp only [List.cons.injEq, ← UInt8.toNat_inj, UInt8.toNat_ofNat', and_true]
  omega

/-- Four bytes are the encoding of their character. -/
theorem encodeChar_charOfFour {a b c d : UInt8} (h : widthOf a = 4)
    (hb : isSecondOfFour a b = true) (hc : isTail c = true) (hd : isTail d = true) :
    String.utf8EncodeChar (charOfFour a b c d) = [a, b, c, d] := by
  rw [widthOf_eq_four] at h
  rw [isSecondOfFour_iff] at hb
  rw [isTail_iff] at hc hd
  have hv : ((((a.toNat - 0xF0) * 64 + (b.toNat - 0x80)) * 64 + (c.toNat - 0x80)) * 64
      + (d.toNat - 0x80)).isValidChar := by
    unfold Nat.isValidChar
    omega
  simp only [String.utf8EncodeChar, charOfFour, toNat_ofNat hv]
  rw [if_neg (by omega), if_neg (by omega), if_neg (by omega)]
  simp only [List.cons.injEq, ← UInt8.toNat_inj, UInt8.toNat_ofNat', and_true]
  omega

/-! ### The splitting into pieces -/

/-- An ASCII byte is split off as a character. -/
theorem piecesFrom_one {a : UInt8} (h : widthOf a = 1) (acc : List Piece) (s : Bytes) :
    piecesFrom acc (a :: s) = piecesFrom (.char (Char.ofNat a.toNat) :: acc) s := by
  rw [piecesFrom.eq_def]
  simp [h]

/-- Two bytes of one character are split off together. -/
theorem piecesFrom_two {a b : UInt8} (h : widthOf a = 2) (hb : isTail b = true)
    (acc : List Piece) (s : Bytes) :
    piecesFrom acc (a :: b :: s) = piecesFrom (.char (charOfTwo a b) :: acc) s := by
  rw [piecesFrom.eq_def]
  simp [h, hb]

/-- Three bytes of one character are split off together. -/
theorem piecesFrom_three {a b c : UInt8} (h : widthOf a = 3) (hb : isSecondOfThree a b = true)
    (hc : isTail c = true) (acc : List Piece) (s : Bytes) :
    piecesFrom acc (a :: b :: c :: s) = piecesFrom (.char (charOfThree a b c) :: acc) s := by
  rw [piecesFrom.eq_def]
  simp [h, hb, hc]

/-- Four bytes of one character are split off together. -/
theorem piecesFrom_four {a b c d : UInt8} (h : widthOf a = 4) (hb : isSecondOfFour a b = true)
    (hc : isTail c = true) (hd : isTail d = true) (acc : List Piece) (s : Bytes) :
    piecesFrom acc (a :: b :: c :: d :: s) = piecesFrom (.char (charOfFour a b c d) :: acc) s := by
  rw [piecesFrom.eq_def]
  simp [h, hb, hc, hd]

/-- The bytes of a character are split off as that character. -/
theorem piecesFrom_encodeChar_append (acc : List Piece) (c : Char) (s : Bytes) :
    piecesFrom acc (String.utf8EncodeChar c ++ s) = piecesFrom (.char c :: acc) s := by
  have hv : c.val.toNat.isValidChar := c.valid
  have hc {n : Nat} (h : n = c.val.toNat) : Char.ofNat n = c := h ▸ Char.ofNat_toNat c
  unfold Nat.isValidChar at hv
  simp only [String.utf8EncodeChar]
  generalize c.val.toNat = v at hv hc ⊢
  split_ifs with h₁ h₂ h₃ <;> simp only [List.cons_append, List.nil_append]
  · rw [piecesFrom_one, hc]
    all_goals simp only [widthOf_eq_one, UInt8.toNat_ofNat']; omega
  · rw [piecesFrom_two, charOfTwo, hc]
    all_goals simp only [widthOf_eq_two, isTail_iff, UInt8.toNat_ofNat']; omega
  · rw [piecesFrom_three, charOfThree, hc]
    all_goals
      simp only [widthOf_eq_three, isSecondOfThree_iff, isTail_iff, UInt8.toNat_ofNat']; omega
  · rw [piecesFrom_four, charOfFour, hc]
    all_goals
      simp only [widthOf_eq_four, isSecondOfFour_iff, isTail_iff, UInt8.toNat_ofNat']; omega

/-- The bytes of characters are split into these characters. -/
theorem pieces_encodeChars (cs : List Char) :
    pieces (cs.flatMap String.utf8EncodeChar) = cs.map .char := by
  have key : ∀ acc, piecesFrom acc (cs.flatMap String.utf8EncodeChar)
      = acc.reverse ++ cs.map .char := by
    induction cs with
    | nil => simp [piecesFrom]
    | cons c cs ih => simp [piecesFrom_encodeChar_append, ih]
  exact key []

/-- Pieces of which none is broken are those of characters. -/
theorem mapM_char?_eq_some {ps : List Piece} {cs : List Char} :
    ps.mapM Piece.char? = some cs ↔ ps = cs.map .char := by
  induction ps generalizing cs with
  | nil => cases cs <;> simp
  | cons p ps ih =>
    rcases p with c | _
    · rcases cs with _ | ⟨d, ds⟩ <;> simp [Piece.char?, Option.bind_eq_some_iff, ih, and_comm]
    · rcases cs with _ | ⟨d, ds⟩ <;> simp [Piece.char?]

/-- The piece gathered last, when all that were gathered are characters. -/
theorem eq_char_of_reverse_cons {p : Piece} {acc : List Piece} {cs : List Char}
    (h : (p :: acc).reverse = cs.map .char) :
    ∃ c cs', p = .char c ∧ cs = cs' ++ [c] ∧ acc.reverse = cs'.map .char := by
  rw [List.reverse_cons, eq_comm, List.map_eq_append_iff] at h
  obtain ⟨cs', last, rfl, hacc, hlast⟩ := h
  obtain ⟨c, rfl, rfl⟩ := List.map_eq_singleton_iff.mp hlast
  exact ⟨c, cs', rfl, rfl, hacc.symm⟩

/-- A piece of bytes that is not broken goes on from what was gathered before it. -/
theorem chars_step {p : Piece} {acc : List Piece} {r : Bytes} {cs : List Char}
    (h : ∃ before after, (p :: acc).reverse = before.map .char ∧ cs = before ++ after ∧
      r = after.flatMap String.utf8EncodeChar) :
    ∃ c, p = .char c ∧ ∃ before after, acc.reverse = before.map .char ∧
      cs = before ++ c :: after ∧ r = after.flatMap String.utf8EncodeChar := by
  obtain ⟨before, after, hb, rfl, hr⟩ := h
  obtain ⟨c, before', rfl, rfl, hacc⟩ := eq_char_of_reverse_cons hb
  exact ⟨c, rfl, before', after, hacc, by simp, hr⟩

/-- The pieces gathered so far and the bytes that remain make up the characters of all pieces. -/
theorem chars_piecesFrom (acc : List Piece) (s : Bytes) (cs : List Char)
    (h : piecesFrom acc s = cs.map .char) :
    ∃ before after, acc.reverse = before.map .char ∧ cs = before ++ after ∧
      s = after.flatMap String.utf8EncodeChar := by
  fun_induction piecesFrom acc s with
  | case1 acc => exact ⟨cs, [], h, by simp, rfl⟩
  | case2 acc a r h₁ ih =>
    obtain ⟨c, hc, before, after, hb, rfl, rfl⟩ := chars_step (ih h)
    obtain rfl := Piece.char.inj hc
    exact ⟨before, _ :: after, hb, rfl, by simp [encodeChar_of_one h₁]⟩
  | case5 acc a h₁ h₀ b r h₂ hb ih =>
    obtain ⟨c, hc, before, after, hacc, rfl, rfl⟩ := chars_step (ih h)
    obtain rfl := Piece.char.inj hc
    exact ⟨before, _ :: after, hacc, rfl, by simp [encodeChar_charOfTwo h₂ hb]⟩
  | case8 acc a h₁ h₀ b h₂ hb c r hc h₃ ih =>
    rw [if_pos h₃] at hb
    obtain ⟨c, hc', before, after, hacc, rfl, rfl⟩ := chars_step (ih h)
    obtain rfl := Piece.char.inj hc'
    exact ⟨before, _ :: after, hacc, rfl, by simp [encodeChar_charOfThree h₃ hb hc]⟩
  | case10 acc a h₁ h₀ b h₂ hb c hc h₃ d r hd ih =>
    rw [if_neg h₃] at hb
    have h₄ : widthOf a = 4 := by
      have := widthOf_le_four a
      omega
    obtain ⟨c, hc', before, after, hacc, rfl, rfl⟩ := chars_step (ih h)
    obtain rfl := Piece.char.inj hc'
    exact ⟨before, _ :: after, hacc, rfl, by simp [encodeChar_charOfFour h₄ hb hc hd]⟩
  | case4 acc a | case7 acc a | case9 acc a =>
    obtain ⟨c, _, hc, -, -⟩ := eq_char_of_reverse_cons h
    cases hc
  | case3 acc a r h₁ h₀ ih =>
    obtain ⟨c, hc, -⟩ := chars_step (ih h)
    cases hc
  | case6 acc a h₁ h₀ b r h₂ hb ih =>
    obtain ⟨c, hc, -⟩ := chars_step (ih h)
    cases hc
  | case11 acc a h₁ h₀ b h₂ hb c hc h₃ d r hd ih =>
    obtain ⟨c, hc, -⟩ := chars_step (ih h)
    cases hc
  | case12 acc a h₁ h₀ b h₂ hb c r hc ih =>
    obtain ⟨c, hc, -⟩ := chars_step (ih h)
    cases hc
  | case13 acc a h₁ h₀ b r h₂ hb ih =>
    obtain ⟨c, hc, -⟩ := chars_step (ih h)
    cases hc

/-! ### Strings -/

/-- A string is read back from its bytes. -/
theorem decode?_encode (s : String) : decode? (encode s) = some s := by
  have h : chars? (encode s) = some s.toList :=
    mapM_char?_eq_some.mpr (pieces_encodeChars s.toList)
  rw [decode?, h, Option.map_some, String.ofList_toList]

/-- Where nothing is broken nothing is replaced. -/
theorem decodeLossy_encode (s : String) : decodeLossy (encode s) = s := by
  have hchars : s.toList.map ((fun p : Piece => p.char?.getD '\ufffd') ∘ Piece.char) = s.toList :=
    List.map_id _
  rw [decodeLossy, encode, pieces_encodeChars, List.map_map, hchars, String.ofList_toList]

/-- Bytes that are read as a string are the bytes of that string. -/
theorem encode_of_decode? {b : Bytes} {s : String} (h : decode? b = some s) : encode s = b := by
  obtain ⟨cs, hcs, rfl⟩ := Option.map_eq_some_iff.mp h
  obtain ⟨before, after, hb, rfl, rfl⟩ := chars_piecesFrom [] b cs (mapM_char?_eq_some.mp hcs)
  obtain rfl : before = [] := by simpa using hb.symm
  simp [encode]

/-- The bytes that are valid are those of strings. -/
theorem isValid_iff {b : Bytes} : isValid b = true ↔ ∃ s, encode s = b := by
  rw [isValid, Option.isSome_iff_exists]
  constructor
  · rintro ⟨s, hs⟩
    exact ⟨s, encode_of_decode? hs⟩
  · rintro ⟨s, rfl⟩
    exact ⟨s, decode?_encode s⟩

/-! ### Valid bytes -/

/-- The bytes of two strings are those of both together. -/
theorem isValid_append {a b : Bytes} (ha : isValid a = true) (hb : isValid b = true) :
    isValid (a ++ b) = true := by
  obtain ⟨s, rfl⟩ := isValid_iff.mp ha
  obtain ⟨t, rfl⟩ := isValid_iff.mp hb
  exact isValid_iff.mpr ⟨s ++ t, by simp [encode]⟩

/-- ASCII bytes are valid. -/
theorem isValid_of_ascii {b : Bytes} (h : ∀ x ∈ b, x < 0x80) : isValid b = true := by
  induction b with
  | nil => exact isValid_iff.mpr ⟨"", rfl⟩
  | cons a b ih =>
    obtain ⟨ha, hb⟩ := List.forall_mem_cons.mp h
    have hw : widthOf a = 1 := widthOf_eq_one.mpr (UInt8.lt_iff_toNat_lt.mp ha)
    have hone : isValid [a] = true :=
      isValid_iff.mpr ⟨String.ofList [Char.ofNat a.toNat], by simp [encode, encodeChar_of_one hw]⟩
    exact isValid_append hone (ih hb)

/-- A byte is an ASCII byte when its number is. -/
theorem lt_0x80_iff {b : UInt8} : b < 0x80 ↔ b.toNat < 0x80 := UInt8.lt_iff_toNat_lt

/-- A character is one ASCII byte or has none. -/
theorem encodeChar_ascii (c : Char) :
    (∃ a < 0x80, String.utf8EncodeChar c = [a]) ∨ ∀ x ∈ String.utf8EncodeChar c, ¬x < 0x80 := by
  have hv : c.val.toNat.isValidChar := c.valid
  unfold Nat.isValidChar at hv
  simp only [String.utf8EncodeChar]
  generalize c.val.toNat = v at hv ⊢
  split_ifs with h₁ h₂ h₃
  · refine Or.inl ⟨_, ?_, rfl⟩
    rw [lt_0x80_iff, UInt8.toNat_ofNat']
    omega
  all_goals
    apply Or.inr
    simp only [List.mem_cons, List.not_mem_nil, or_false, forall_eq_or_imp, forall_eq,
      lt_0x80_iff, UInt8.toNat_ofNat']
    omega

/-- Valid bytes stay so when ASCII bytes are replaced by ASCII bytes. -/
theorem isValid_flatMap {f : UInt8 → Bytes} (hascii : ∀ a < 0x80, ∀ x ∈ f a, x < 0x80)
    (hkept : ∀ a, ¬a < 0x80 → f a = [a]) {b : Bytes} (h : isValid b = true) :
    isValid (b.flatMap f) = true := by
  obtain ⟨s, rfl⟩ := isValid_iff.mp h
  unfold encode
  induction s.toList with
  | nil => exact isValid_iff.mpr ⟨"", rfl⟩
  | cons c cs ih =>
    rw [List.flatMap_cons, List.flatMap_append]
    refine isValid_append ?_ ih
    rcases encodeChar_ascii c with ⟨a, ha, hc⟩ | hc
    · rw [hc]
      simpa using isValid_of_ascii (hascii a ha)
    · have hsame : (String.utf8EncodeChar c).flatMap f = String.utf8EncodeChar c :=
        (List.flatMap_congr fun x hx => hkept x (hc x hx)).trans (List.flatMap_singleton' _)
      rw [hsame]
      exact isValid_iff.mpr ⟨String.ofList [c], by simp [encode]⟩

/-- An ASCII byte of a valid text stands between two valid texts. -/
theorem isValid_of_append_cons {a b : Bytes} {x : UInt8} (hx : x < 0x80)
    (h : isValid (a ++ x :: b) = true) : isValid a = true ∧ isValid b = true := by
  have valid (cs : List Char) : isValid (cs.flatMap String.utf8EncodeChar) = true :=
    isValid_iff.mpr ⟨String.ofList cs, by simp [encode]⟩
  obtain ⟨s, hs⟩ := isValid_iff.mp h
  unfold encode at hs
  generalize s.toList = cs at hs
  clear h s
  induction cs generalizing a with
  | nil => simp at hs
  | cons c cs ih =>
    rw [List.flatMap_cons] at hs
    rcases List.append_eq_append_iff.mp hs with ⟨a', rfl, hrest⟩ | ⟨c', hc, hrest⟩
    · -- the character ends in front of the byte
      obtain ⟨ha, hb⟩ := ih hrest
      exact ⟨isValid_append (by simpa using valid [c]) ha, hb⟩
    · cases c' with
      | nil =>
        obtain ⟨-, hb⟩ := ih (a := []) hrest.symm
        exact ⟨by simpa [hc] using valid [c], hb⟩
      | cons y c' =>
        obtain ⟨rfl, hb⟩ := List.cons.inj hrest
        have hmem : x ∈ String.utf8EncodeChar c := by simp [hc]
        rcases encodeChar_ascii c with ⟨d, -, hd⟩ | hnone
        · -- the byte is the whole character
          obtain ⟨rfl, hnil⟩ : a = [] ∧ x :: c' = [d] := by
            rw [hd] at hc
            cases a with
            | nil => exact ⟨rfl, hc.symm⟩
            | cons z a => simp at hc
          obtain ⟨-, rfl⟩ := List.cons.inj hnil
          exact ⟨by simpa using valid [], by rw [hb]; simpa using valid cs⟩
        · exact absurd hx (hnone x hmem)

end Switchboard.Utf8
