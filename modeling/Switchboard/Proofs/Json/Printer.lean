import Switchboard.Proofs.Json.Spelling
import Switchboard.Json.Printer
/-!
# What is written is JSON

A string is written as a spelling of its bytes (`spells_escape`), whatever they are, and no spelling
of them is shorter (`Spells.length_escape_le`). A value without doubles is written as one value of
the grammar (`Value.isValue_render`), in one line and as well-formed text.
-/

namespace Switchboard.Json

open Ascii

/-! ### Strings -/

/-- A short escape is undone by its letter. -/
theorem mem_shortEscapes {b e : UInt8} (h : shortEscape? b = some e) : (e, b) ∈ shortEscapes := by
  simp only [shortEscape?] at h
  split_ifs at h <;> obtain rfl := Option.some.inj h <;> simp_all [shortEscapes]

/-- The four digits of a control character are those of its number. -/
theorem hexQuad?_hexDigit {b : UInt8} (h : b < 0x20) :
    hexQuad? zero zero (hexDigit (b.toNat / 16)) (hexDigit (b.toNat % 16)) = some b.toNat := by
  have all : ∀ n < 0x20,
      hexQuad? zero zero (hexDigit (n / 16)) (hexDigit (n % 16)) = some n := by decide
  exact all b.toNat (UInt8.lt_iff_toNat_lt.mp h)

/-- One byte is written as a spelling of it. -/
theorem Spells.escapeByte_append (b : UInt8) {s t : Bytes} (h : Spells s t) :
    Spells (escapeByte b ++ s) (b :: t) := by
  unfold escapeByte
  split
  · next e he => exact .short (mem_shortEscapes he) h
  · next hshort =>
    split_ifs with hb
    · have hn : b.toNat < 0x20 := UInt8.lt_iff_toNat_lt.mp hb
      have hw : Utf8.widthOf b = 1 := Utf8.widthOf_eq_one.mpr (by omega)
      have hlow : isLowSurrogate b.toNat = false := by simp [isLowSurrogate]; omega
      have hhigh : isHighSurrogate b.toNat = false := by simp [isHighSurrogate]; omega
      have := Spells.unit (hexQuad?_hexDigit hb) hhigh hlow h
      rwa [Utf8.encodeChar_of_one hw] at this
    · refine .plain ?_ ?_ hb h <;> rintro rfl <;> exact absurd hshort (by decide)

/-- What is written between the quotes of a string is a spelling of it. -/
theorem spells_escape (s : Bytes) : Spells (escape s) s := by
  induction s with
  | nil => exact .nil
  | cons b s ih => exact ih.escapeByte_append b

/-- What is written between the quotes of a string is what may stand there. -/
theorem isBody_escape (s : Bytes) : IsBody (escape s) := (spells_escape s).isBody

/-- A string is written as a text that stands for it. -/
theorem isText_renderString (s : String) : IsText (renderString s) s := ⟨_, spells_escape _, rfl⟩

/-- A string is written as a value. -/
theorem isValue_renderString (s : String) : IsValue (renderString s) := .string (isBody_escape _)

/-! ### Integers -/

/-- A number below ten is written as one digit, and only zero as a zero. -/
theorem isDigit_ofNat {n : Nat} (h : n < 10) :
    isDigit (0x30 + n.toUInt8) = true ∧ (0x30 + n.toUInt8 = zero → n = 0) := by
  revert n
  decide

/-- Digits written in front of others make an integer without leading zeros. -/
theorem isInteger_digitsFrom {fuel n : Nat} {acc : Bytes} (hn : n < fuel)
    (hacc : ∀ b ∈ acc, isDigit b = true) (hpos : acc ≠ [] → 0 < n) :
    IsInteger (Decimal.digitsFrom fuel n acc) := by
  induction fuel generalizing n acc with
  | zero => omega
  | succ fuel ih =>
    obtain ⟨hdigit, hzero⟩ := isDigit_ofNat (Nat.mod_lt n (by decide : 0 < 10))
    unfold Decimal.digitsFrom
    split_ifs with h
    · by_cases hz : 0x30 + (n % 10).toUInt8 = zero
      · have hnil : acc = [] := by
          by_contra hne
          have := hpos hne
          have := hzero hz
          omega
        rw [hz, hnil]
        exact .zero
      · exact .digits hz hdigit hacc
    · exact ih (by omega) (List.forall_mem_cons.mpr ⟨hdigit, hacc⟩) fun _ => by omega

/-- A natural number is written as a number without a sign. -/
theorem isUnsigned_digits (n : Nat) : IsUnsigned (Decimal.digits n) := by
  have h : IsInteger (Decimal.digits n) :=
    isInteger_digitsFrom (Nat.lt_succ_self n) (by simp) (by simp)
  simpa using IsUnsigned.mk h .none .none

/-- An integer is written as a value. -/
theorem isValue_ofInt (n : Int) : IsValue (Decimal.ofInt n) := by
  cases n with
  | ofNat n => exact .positive (isUnsigned_digits n)
  | negSucc n => exact .negative (isUnsigned_digits (n + 1))

/-- A number is written in ASCII bytes. -/
theorem IsUnsigned.ascii {s : Bytes} (h : IsUnsigned s) : ∀ b ∈ s, b < 0x80 := by
  have digit (b : UInt8) (hb : isDigit b = true) : b < 0x80 := by
    simp only [isDigit, Bool.and_eq_true, decide_eq_true_eq] at hb
    exact UInt8.lt_of_le_of_lt hb.2 (by decide)
  exact h.forall_mem digit (by decide) (by decide) (by decide)

/-! ### Values -/

/-- A value in which no double stands. -/
inductive Value.Exact : Value → Prop
  | null : Exact .null
  | bool (b : Bool) : Exact (.bool b)
  | int (n : Int) : Exact (.number (.int n))
  | string (s : String) : Exact (.string s)
  | array {vs : List Value} (h : ∀ v ∈ vs, Exact v) : Exact (.array vs)
  | object {ms : Members} (h : ∀ m ∈ ms, Exact m.2) : Exact (.object ms)

/-- Elements are written as the items of an array. -/
theorem derives_renderElements {v : Value} {vs : List Value}
    (h : ∀ x ∈ v :: vs, IsValue x.render) :
    Derives (.items .list) (v.render ++ renderElements vs) := by
  induction vs generalizing v with
  | nil =>
    have := Derives.last .list isBlank_nil isBlank_nil (h v List.mem_cons_self)
    simpa [renderElements] using this
  | cons w vs ih =>
    obtain ⟨hv, hvs⟩ := List.forall_mem_cons.mp h
    have := Derives.more .list isBlank_nil isBlank_nil hv (ih hvs)
    simpa [renderElements] using this

/-- Members are written as the items of an object. -/
theorem derives_renderMembers {k : String} {v : Value} {ms : Members}
    (h : ∀ m ∈ (k, v) :: ms, IsValue m.2.render) :
    Derives (.items .object) (renderString k ++ colon :: v.render ++ renderMembers ms) := by
  have name (k : String) : IsName .object (renderString k ++ [colon]) := by
    simpa [renderString] using IsName.object isBlank_nil (isBody_escape (Utf8.encode k)) isBlank_nil
  induction ms generalizing k v with
  | nil =>
    have := Derives.last (name k) isBlank_nil isBlank_nil (h (k, v) List.mem_cons_self)
    simpa [renderMembers] using this
  | cons m ms ih =>
    obtain ⟨hv, hms⟩ := List.forall_mem_cons.mp h
    have := Derives.more (name k) isBlank_nil isBlank_nil hv (ih (k := m.1) (v := m.2) hms)
    simpa [renderMembers] using this

/-- A value without doubles is written as one value of the grammar. -/
theorem Value.isValue_render {v : Value} (h : v.Exact) : IsValue v.render := by
  induction h with
  | null => exact .null
  | bool b => cases b <;> constructor
  | int n => exact isValue_ofInt n
  | string s => exact isValue_renderString s
  | @array vs _ ih =>
    cases vs with
    | nil => simpa [Value.render, Nest.opener, Nest.closer] using Derives.empty .list isBlank_nil
    | cons v vs =>
      have := Derives.full .list (derives_renderElements ih)
      simpa [Value.render, Nest.opener, Nest.closer] using this
  | @object ms _ ih =>
    cases ms with
    | nil => simpa [Value.render, Nest.opener, Nest.closer] using Derives.empty .object isBlank_nil
    | cons m ms =>
      have := Derives.full .object (derives_renderMembers (k := m.1) (v := m.2) ih)
      simpa [Value.render, Nest.opener, Nest.closer] using this

/-! ### Lines -/

/-- A line of well-formed text. -/
structure IsLine (s : Bytes) : Prop where
  oneLine_eq : oneLine s = s
  isValid : Utf8.isValid s = true

/-- Two lines are one. -/
theorem IsLine.append {s t : Bytes} (hs : IsLine s) (ht : IsLine t) : IsLine (s ++ t) :=
  ⟨by rw [oneLine_append, hs.1, ht.1], Utf8.isValid_append hs.2 ht.2⟩

/-- ASCII bytes without newlines are a line. -/
theorem isLine_of_ascii {s : Bytes} (h : ∀ b ∈ s, b < 0x80 ∧ b ≠ newline) : IsLine s :=
  ⟨oneLine_eq_self fun b hb => (h b hb).2, Utf8.isValid_of_ascii fun b hb => (h b hb).1⟩

/-- A fixed text is a line where its bytes pass the test. -/
theorem isLine_of_all {s : Bytes} (h : s.all (fun b => b < 0x80 ∧ b ≠ newline) = true) :
    IsLine s :=
  isLine_of_ascii fun b hb => of_decide_eq_true (List.all_eq_true.mp h b hb)

/-- A byte in front of a line. -/
theorem IsLine.cons {s : Bytes} (hs : IsLine s) {b : UInt8} (hb : b < 0x80 ∧ b ≠ newline) :
    IsLine (b :: s) :=
  (isLine_of_ascii (s := [b]) (by simpa using hb)).append hs

/-- An ASCII byte of a string is written in ASCII bytes. -/
theorem escapeByte_ascii {a : UInt8} (ha : a < 0x80) : ∀ x ∈ escapeByte a, x < 0x80 := by
  have hall : ∀ n < 0x80, (escapeByte (UInt8.ofNat n)).all (· < 0x80) = true := by decide
  simpa using hall a.toNat (UInt8.lt_iff_toNat_lt.mp ha)

/-- Any other byte of a string is written as it is. -/
theorem escapeByte_of_not_ascii {a : UInt8} (ha : ¬a < 0x80) : escapeByte a = [a] := by
  have ne {b : UInt8} (hb : b < 0x80) : a ≠ b := by
    rintro rfl
    exact ha hb
  have hlow : ¬a < 0x20 := fun h => ha (UInt8.lt_trans h (by decide))
  simp [escapeByte, shortEscape?, ne (b := quote) (by decide), ne (b := backslash) (by decide),
    ne (b := 0x08) (by decide), ne (b := tab) (by decide), ne (b := newline) (by decide),
    ne (b := formFeed) (by decide), ne (b := carriageReturn) (by decide), hlow]

/-- A string is written as a line. -/
theorem isLine_renderString (s : String) : IsLine (renderString s) := by
  have hmark : IsLine [quote] := isLine_of_all (by decide)
  have hbody : IsLine (escape (Utf8.encode s)) :=
    ⟨oneLine_eq_self (isBody_escape _).ne_newline,
      Utf8.isValid_flatMap (fun _ => escapeByte_ascii) (fun _ => escapeByte_of_not_ascii)
        (Utf8.isValid_iff.mpr ⟨s, rfl⟩)⟩
  exact (hbody.append hmark).cons (by decide)

/-- A number is written as a line. -/
theorem IsUnsigned.isLine {s : Bytes} (h : IsUnsigned s) : IsLine s :=
  isLine_of_ascii fun b hb => ⟨h.ascii b hb, h.ne_newline b hb⟩

/-- Elements are written as a line. -/
theorem isLine_renderElements {vs : List Value} (h : ∀ v ∈ vs, IsLine v.render) :
    IsLine (renderElements vs) := by
  induction vs with
  | nil => exact isLine_of_ascii (by simp [renderElements])
  | cons v vs ih =>
    obtain ⟨hv, hvs⟩ := List.forall_mem_cons.mp h
    simpa [renderElements] using (hv.append (ih hvs)).cons (b := comma) (by decide)

/-- Members are written as a line. -/
theorem isLine_renderMembers {ms : Members} (h : ∀ m ∈ ms, IsLine m.2.render) :
    IsLine (renderMembers ms) := by
  induction ms with
  | nil => exact isLine_of_ascii (by simp [renderMembers])
  | cons m ms ih =>
    obtain ⟨hv, hms⟩ := List.forall_mem_cons.mp h
    have hvalue := (hv.append (ih hms)).cons (b := colon) (by decide)
    simpa [renderMembers] using
      ((isLine_renderString m.1).append hvalue).cons (b := comma) (by decide)

/-- A value without doubles is written as a line. -/
theorem Value.isLine_render {v : Value} (h : v.Exact) : IsLine v.render := by
  have closing {c : UInt8} (hc : c < 0x80 ∧ c ≠ newline) : IsLine [c] :=
    isLine_of_ascii (by simpa using hc)
  induction h with
  | null => exact isLine_of_all (by decide)
  | bool b => cases b <;> exact isLine_of_all (by decide)
  | int n =>
    cases n with
    | ofNat n => exact (isUnsigned_digits n).isLine
    | negSucc n => exact (isUnsigned_digits (n + 1)).isLine.cons (by decide)
  | string s => exact isLine_renderString s
  | @array vs _ ih =>
    cases vs with
    | nil => exact isLine_of_all (by decide)
    | cons v vs =>
      obtain ⟨hv, hvs⟩ := List.forall_mem_cons.mp ih
      have hitems := hv.append (isLine_renderElements hvs)
      have hclosed := hitems.append (closing (c := closeBracket) (by decide))
      simpa [Value.render] using hclosed.cons (b := openBracket) (by decide)
  | @object ms _ ih =>
    cases ms with
    | nil => exact isLine_of_all (by decide)
    | cons m ms =>
      obtain ⟨hv, hms⟩ := List.forall_mem_cons.mp ih
      have hvalue := (hv.append (isLine_renderMembers hms)).cons (b := colon) (by decide)
      have hitems := (isLine_renderString m.1).append hvalue
      have hclosed := hitems.append (closing (c := closeBrace) (by decide))
      simpa [Value.render] using hclosed.cons (b := openBrace) (by decide)

/-! ### Lengths -/

/-- No byte is written in more than six. -/
theorem length_escapeByte_le (b : UInt8) : (escapeByte b).length ≤ 6 := by
  unfold escapeByte
  split
  · simp
  · split_ifs <;> simp

/-- Bytes are written one by one. -/
theorem escape_append (s t : Bytes) : escape (s ++ t) = escape s ++ escape t :=
  List.flatMap_append

/-- Bytes that stand for themselves are written as they are. -/
theorem escape_eq_self {s : Bytes} (h : ∀ b ∈ s, escapeByte b = [b]) : escape s = s := by
  unfold escape
  rw [List.flatMap_congr h]
  exact List.flatMap_singleton' s

/-- A byte that stands for itself is written as it is. -/
theorem escapeByte_of_plain {b : UInt8} (hq : b ≠ quote) (hb : b ≠ backslash) (hc : ¬b < 0x20) :
    escapeByte b = [b] := by
  have control {c : UInt8} (h : c < 0x20) : b ≠ c := by
    rintro rfl
    exact hc h
  simp [escapeByte, shortEscape?, hq, hb, hc, control (c := 0x08) (by decide),
    control (c := tab) (by decide), control (c := newline) (by decide),
    control (c := formFeed) (by decide), control (c := carriageReturn) (by decide)]

/-- Bytes that pass a test which no quote, backslash or control character passes stand for
themselves. -/
theorem escape_eq_self_of_test {test : UInt8 → Bool} (hq : test quote = false)
    (hb : test backslash = false) (hc : ∀ n < 0x20, test (UInt8.ofNat n) = false) {s : Bytes}
    (h : ∀ b ∈ s, test b = true) : escape s = s := by
  apply escape_eq_self
  intro b hmem
  have hpass := h b hmem
  apply escapeByte_of_plain
  · rintro rfl
    cases hq.symm.trans hpass
  · rintro rfl
    cases hb.symm.trans hpass
  · intro hcontrol
    have hnone := hc b.toNat (UInt8.lt_iff_toNat_lt.mp hcontrol)
    rw [UInt8.ofNat_toNat, hpass] at hnone
    cases hnone

/-- A character is written in no more than six bytes. -/
theorem length_escape_encodeChar_le (c : Char) :
    (escape (String.utf8EncodeChar c)).length ≤ 6 := by
  rcases Utf8.encodeChar_ascii c with ⟨a, -, ha⟩ | hnone
  · rw [ha]
    simpa [escape] using length_escapeByte_le a
  · have hkept : escape (String.utf8EncodeChar c) = String.utf8EncodeChar c :=
      escape_eq_self fun b hb => escapeByte_of_not_ascii (hnone b hb)
    rw [hkept, String.length_utf8EncodeChar]
    have := c.utf8Size_le_four
    omega

/-- What a spelling stands for is not longer when it is written. -/
theorem Spells.length_escape_le {s t : Bytes} (h : Spells s t) :
    (escape t).length ≤ s.length := by
  have cons (b : UInt8) (t : Bytes) : escape (b :: t) = escapeByte b ++ escape t := rfl
  induction h with
  | nil => exact Nat.le_refl 0
  | plain hq hb hc _ ih =>
    rw [cons, escapeByte_of_plain hq hb hc]
    simpa using ih
  | @short e c s t he _ ih =>
    have hshort : (escapeByte c).length ≤ 2 := by
      have hall : shortEscapes.all (fun p => (escapeByte p.2).length ≤ 2) = true := by decide
      simpa using List.all_eq_true.mp hall _ he
    rw [cons]
    simp only [List.length_append, List.length_cons]
    omega
  | @unit _ _ _ _ n s t _ _ _ _ ih =>
    have := length_escape_encodeChar_le (Char.ofNat n)
    rw [escape_append]
    simp only [List.length_append, List.length_cons]
    omega
  | @pair _ _ _ _ _ _ _ _ n m s t _ _ _ _ _ ih =>
    have := length_escape_encodeChar_le (Char.ofNat (pairValue n m))
    rw [escape_append]
    simp only [List.length_append, List.length_cons]
    omega

/-- Writing a text takes at least one byte for each of its own. -/
theorem length_le_length_escape (t : Bytes) : t.length ≤ (escape t).length := by
  have one (b : UInt8) : 1 ≤ (escapeByte b).length := by
    unfold escapeByte
    split
    · simp
    · split_ifs <;> simp
  induction t with
  | nil => exact Nat.le_refl 0
  | cons b t ih =>
    have := one b
    have hcons : escape (b :: t) = escapeByte b ++ escape t := rfl
    rw [hcons]
    simp only [List.length_append, List.length_cons]
    omega

/-- A text is written between quotes in no more bytes than it was spelled in. -/
theorem IsText.length_renderString_le {v : Bytes} {c : String} (h : IsText v c) :
    (renderString c).length ≤ v.length := by
  obtain ⟨n, hn, rfl⟩ := h
  have := hn.length_escape_le
  simp only [renderString, List.length_append, List.length_cons]
  omega

/-- A text is spelled in no fewer bytes than it has. -/
theorem IsText.length_encode_le {v : Bytes} {c : String} (h : IsText v c) :
    (Utf8.encode c).length ≤ v.length := by
  have hrender := h.length_renderString_le
  have hescape := length_le_length_escape (Utf8.encode c)
  simp only [renderString, List.length_append, List.length_cons] at hrender
  omega

end Switchboard.Json
