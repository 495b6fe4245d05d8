import Switchboard.Proofs.Text.Utf8
/-!
# The order of texts

Texts are ordered by their characters, and their bytes are in the same order: of two characters the
one with the smaller number is the one whose bytes come first (`encodeChar_append_lt`), so that two
texts can be put in order at the first byte in which they differ (`encode_lt_iff`).
-/

namespace Switchboard.Utf8

/-- Of two numbers the smaller one is found at the first of four digits in base 64. -/
theorem digits_lt {v w : Nat} (h : v < w) :
    v / 262144 < w / 262144 ∨ v / 262144 = w / 262144 ∧
      (v / 4096 % 64 < w / 4096 % 64 ∨ v / 4096 % 64 = w / 4096 % 64 ∧
        (v / 64 % 64 < w / 64 % 64 ∨ v / 64 % 64 = w / 64 % 64 ∧ v % 64 < w % 64)) := by
  rcases Nat.lt_or_ge (v / 4096) (w / 4096) with hlt | hge
  · omega
  · have heq : v / 4096 = w / 4096 := Nat.le_antisymm (Nat.div_le_div_right h.le) hge
    omega

/-- Whatever follows, the bytes of a smaller character come before those of a greater one. -/
theorem encodeChar_append_lt {c d : Char} (h : c < d) (s t : Bytes) :
    String.utf8EncodeChar c ++ s < String.utf8EncodeChar d ++ t := by
  have hv : c.val.toNat.isValidChar := c.valid
  have hw : d.val.toNat.isValidChar := d.valid
  have hdigits := digits_lt (UInt32.lt_iff_toNat_lt.mp h)
  have htail (n : Nat) : (n % 64 + 0x80) % 256 = n % 64 + 0x80 := by omega
  have hfour (n : Nat) : (n % 8 + 0xF0) % 256 = n % 8 + 0xF0 := by omega
  unfold Nat.isValidChar at hv hw
  simp only [String.utf8EncodeChar]
  generalize c.val.toNat = v at hv hdigits ⊢
  generalize d.val.toNat = w at hw hdigits ⊢
  -- The first byte tells the width; with the same width the first byte that differs decides.
  split_ifs <;>
    simp only [List.cons_append, List.nil_append, List.cons_lt_cons_iff, UInt8.lt_iff_toNat_lt,
      ← UInt8.toNat_inj, UInt8.toNat_ofNat', Nat.reducePow, htail, hfour] <;>
    omega

/-- A text that comes before another does so with its bytes. -/
theorem flatMap_encodeChar_lt {cs ds : List Char} (h : cs < ds) :
    cs.flatMap String.utf8EncodeChar < ds.flatMap String.utf8EncodeChar := by
  induction h with
  | nil =>
    rw [List.flatMap_nil, List.flatMap_cons]
    cases hbytes : String.utf8EncodeChar _ with
    | nil => exact absurd hbytes (String.utf8EncodeChar_ne_nil)
    | cons => exact .nil
  | cons _ ih =>
    rw [List.flatMap_cons, List.flatMap_cons]
    exact List.append_left_lt ih
  | rel h =>
    rw [List.flatMap_cons, List.flatMap_cons]
    exact encodeChar_append_lt h _ _

/-- Texts are in the order of their bytes. -/
theorem encode_lt_iff {s t : String} : encode s < encode t ↔ s < t := by
  have hmono {s t : String} (h : s < t) : encode s < encode t :=
    flatMap_encodeChar_lt (String.lt_iff.mp h)
  refine ⟨fun h => ?_, hmono⟩
  rcases lt_trichotomy s t with hlt | rfl | hgt
  · exact hlt
  · exact absurd h (List.lt_irrefl _)
  · exact absurd (List.lt_trans h (hmono hgt)) (List.lt_irrefl _)

end Switchboard.Utf8
