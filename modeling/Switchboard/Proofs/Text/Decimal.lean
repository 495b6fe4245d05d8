import Switchboard.Text.Ascii
import Switchboard.Text.Decimal
import Mathlib
/-!
# The size of decimal numbers

A number is written in digits, signs, a point and the letter of an exponent (`IsNumeral`). A natural
number below a power of ten takes no more digits than that power has zeros (`length_digits_le`), and
a double, whatever its bits, takes no more than a fixed number of bytes (`length_ofBits_le`). That
number is not sharp: it follows from the range of a double's exponent alone, and not from how near
the shortest digits come to the double.
-/

namespace Switchboard.Decimal

/-! ### Digits -/

/-- A byte of a number. -/
def isNumeralByte (b : UInt8) : Bool :=
  Ascii.isDigit b || b = 0x2B || b = 0x2D || b = 0x2E || b = 0x65

/-- Bytes of a number. -/
def IsNumeral (s : Bytes) : Prop := ∀ b ∈ s, isNumeralByte b = true

/-- Bytes of a number one after the other. -/
theorem IsNumeral.append {s t : Bytes} (hs : IsNumeral s) (ht : IsNumeral t) : IsNumeral (s ++ t) :=
  List.forall_mem_append.mpr ⟨hs, ht⟩

/-- A byte of a number in front of others. -/
theorem IsNumeral.cons {b : UInt8} {s : Bytes} (hb : isNumeralByte b = true) (hs : IsNumeral s) :
    IsNumeral (b :: s) :=
  List.forall_mem_cons.mpr ⟨hb, hs⟩

/-- A fixed text is one of a number where its bytes pass the test. -/
theorem isNumeral_of_all {s : Bytes} (h : s.all isNumeralByte = true) : IsNumeral s :=
  List.all_eq_true.mp h

/-- A number is written in ASCII bytes. -/
theorem IsNumeral.ascii {s : Bytes} (h : IsNumeral s) : ∀ b ∈ s, b < 0x80 := by
  intro b hb
  have hnumeral := h b hb
  simp only [isNumeralByte, Ascii.isDigit, Bool.or_eq_true, Bool.and_eq_true,
    decide_eq_true_eq] at hnumeral
  rcases hnumeral with (((hdigit | rfl) | rfl) | rfl) | rfl
  · exact UInt8.lt_of_le_of_lt hdigit.2 (by decide)
  all_goals decide

/-- Digits written in front of bytes of a number. -/
theorem IsNumeral.digitsFrom {acc : Bytes} (h : IsNumeral acc) (fuel n : Nat) :
    IsNumeral (digitsFrom fuel n acc) := by
  have hdigit : ∀ d < 10, isNumeralByte (0x30 + d.toUInt8) = true := by decide
  induction fuel generalizing n acc with
  | zero => exact h
  | succ fuel ih =>
    have hacc := h.cons (hdigit (n % 10) (Nat.mod_lt n (by decide)))
    unfold Decimal.digitsFrom
    split_ifs
    · exact hacc
    · exact ih hacc (n / 10)

/-- A natural number is written in bytes of a number. -/
theorem isNumeral_digits (n : Nat) : IsNumeral (digits n) :=
  IsNumeral.digitsFrom (List.forall_mem_nil _) (n + 1) n

/-- The digits of a number below a power of ten. -/
theorem length_digitsFrom_le {fuel n k : Nat} {acc : Bytes} (hk : 0 < k) (h : n < 10 ^ k) :
    (digitsFrom fuel n acc).length ≤ k + acc.length := by
  induction fuel generalizing n k acc with
  | zero => exact Nat.le_add_left _ _
  | succ fuel ih =>
    unfold digitsFrom
    split_ifs with hn
    · rw [List.length_cons]
      omega
    · obtain ⟨j, rfl⟩ : ∃ j, k = j + 1 := ⟨k - 1, by omega⟩
      have hj : 0 < j := by
        rcases Nat.eq_zero_or_pos j with rfl | hj
        · exact absurd h (by simpa using hn)
        · exact hj
      have hdiv : n / 10 < 10 ^ j := by
        rw [Nat.pow_succ] at h
        omega
      refine (ih hj hdiv).trans ?_
      rw [List.length_cons]
      omega

/-- A number below a power of ten has no more digits than that has zeros. -/
theorem length_digits_le {n k : Nat} (hk : 0 < k) (h : n < 10 ^ k) : (digits n).length ≤ k :=
  length_digitsFrom_le hk h

/-! ### The shortest digits of a double -/

/-- The range of a double's mantissa and exponent. -/
theorem Binary.ofBits_bounds (bits : UInt64) :
    (Binary.ofBits bits).mantissa < 2 ^ 53 ∧ (Binary.ofBits bits).exponent ≤ 972 := by
  have hfraction : (bits &&& 0xFFFFFFFFFFFFF).toNat < 0x10000000000000 := by
    rw [UInt64.toNat_and]
    exact Nat.and_le_right.trans_lt (by decide)
  have hbiased : ((bits >>> 52) &&& 0x7FF).toNat < 0x800 := by
    rw [UInt64.toNat_and]
    exact Nat.and_le_right.trans_lt (by decide)
  unfold Binary.ofBits
  dsimp only
  split_ifs <;> constructor <;> dsimp only <;> omega

/-- A quotient's numerator is as great as its power of two makes it. -/
theorem Ratio.num_scaled_lt {n a b k : Nat} {e : Int} (hn : n < 2 ^ a) (he : e ≤ b)
    (hk : 2 ^ (a + b) ≤ 10 ^ k) : (Ratio.scaled n e).num < 10 ^ k := by
  apply Nat.lt_of_lt_of_le _ hk
  unfold Ratio.scaled
  split_ifs
  · have hpow : 2 ^ e.toNat ≤ 2 ^ b := Nat.pow_le_pow_right (by decide) (by omega)
    calc n * Nat.pow 2 e.toNat ≤ n * 2 ^ b := Nat.mul_le_mul_left n hpow
      _ < 2 ^ a * 2 ^ b := Nat.mul_lt_mul_of_pos_right hn (Nat.pow_pos (by decide))
      _ = 2 ^ (a + b) := (Nat.pow_add 2 a b).symm
  · exact hn.trans_le (Nat.pow_le_pow_right (by decide) (Nat.le_add_right a b))

/-- The search for a leading digit takes no more steps than it may. -/
theorem Ratio.firstReach_le (r : Ratio) (fuel start : Nat) :
    r.firstReach fuel start ≤ start + fuel := by
  induction fuel generalizing start with
  | zero => exact Nat.le_refl _
  | succ fuel ih =>
    unfold Ratio.firstReach
    split_ifs
    · omega
    · have := ih (start + 1)
      omega

/-- The range of the exponent of a leading digit. -/
theorem Ratio.magnitude_bounds {r : Ratio} {k : Nat} (hk : 0 < k) (h : r.num < 10 ^ k) :
    -401 ≤ r.magnitude ∧ r.magnitude < k := by
  unfold Ratio.magnitude
  split_ifs
  · have := length_digits_le hk ((Nat.div_le_self r.num r.den).trans_lt h)
    omega
  · have := r.firstReach_le 400 1
    omega

/-- A point of a grid that is not too fine. -/
theorem nearestOn_le {i : Interval} {v : Ratio} {k j : Nat} {e : Int} {n : Nat}
    (hv : v.num < 10 ^ k) (he : -(j : Int) ≤ e) (h : nearestOn i v e = some n) :
    n ≤ 10 ^ (k + j) := by
  have hnum : (v.overTen e).num < 10 ^ (k + j) := by
    unfold Ratio.overTen
    split_ifs
    · exact hv.trans_le (Nat.pow_le_pow_right (by decide) (Nat.le_add_right k j))
    · have hpow : 10 ^ (-e).toNat ≤ 10 ^ j := Nat.pow_le_pow_right (by decide) (by omega)
      calc v.num * Nat.pow 10 (-e).toNat ≤ v.num * 10 ^ j := Nat.mul_le_mul_left _ hpow
        _ < 10 ^ k * 10 ^ j := Nat.mul_lt_mul_of_pos_right hv (Nat.pow_pos (by decide))
        _ = 10 ^ (k + j) := (Nat.pow_add 10 k j).symm
  have hbelow : (v.overTen e).num / (v.overTen e).den + 1 ≤ 10 ^ (k + j) :=
    (Nat.div_le_self _ _).trans_lt hnum
  have hmod := Nat.mod_lt ((v.overTen e).num / (v.overTen e).den) (by decide : 0 < 2)
  unfold nearestOn at h
  dsimp only at h
  split at h
  · cases h
  · obtain rfl := Option.some.inj h
    omega
  · obtain rfl := Option.some.inj h
    exact hbelow
  · split_ifs at h <;> obtain rfl := Option.some.inj h <;> omega

/-- What is found in so many tries. -/
theorem shortestFrom_bounds {i : Interval} {v : Ratio} {k j : Nat} (hv : v.num < 10 ^ k)
    (fuel : Nat) {e : Int} (he : -(j : Int) ≤ e - fuel) :
    (shortestFrom i v fuel e).digits ≤ 10 ^ (k + j) ∧
      -(j : Int) ≤ (shortestFrom i v fuel e).exponent ∧ (shortestFrom i v fuel e).exponent ≤ e := by
  induction fuel generalizing e with
  | zero =>
    have hnum : v.num / v.den ≤ 10 ^ (k + j) :=
      ((Nat.div_le_self _ _).trans hv.le).trans
        (Nat.pow_le_pow_right (by decide) (Nat.le_add_right k j))
    exact ⟨hnum, by simpa [shortestFrom] using he, Int.le_refl e⟩
  | succ fuel ih =>
    unfold shortestFrom
    split
    · next n hn => exact ⟨nearestOn_le hv (by omega) hn, by dsimp only; omega, Int.le_refl e⟩
    · obtain ⟨hdigits, hlow, hhigh⟩ := ih (e := e - 1) (by omega)
      exact ⟨hdigits, hlow, by omega⟩

/-- To strip zeros makes the digits no greater, and the exponent greater by their number. -/
theorem Scientific.strip_bounds (fuel : Nat) (s : Scientific) :
    (s.strip fuel).digits ≤ s.digits ∧ s.exponent ≤ (s.strip fuel).exponent ∧
      (s.strip fuel).exponent ≤ s.exponent + fuel := by
  induction fuel generalizing s with
  | zero => exact ⟨Nat.le_refl _, Int.le_refl _, by simp [Scientific.strip]⟩
  | succ fuel ih =>
    unfold Scientific.strip
    split_ifs
    · obtain ⟨hdigits, hlow, hhigh⟩ := ih ⟨s.digits / 10, s.exponent + 1⟩
      dsimp only at hdigits hlow hhigh
      exact ⟨hdigits.trans (Nat.div_le_self _ _), by omega, by push_cast; omega⟩
    · exact ⟨Nat.le_refl _, Int.le_refl _, by omega⟩

/-- The range of the digits and the exponent that a double is written with. -/
theorem shortest_bounds (bits : UInt64) :
    (digits (shortest bits).digits).length ≤ 728 ∧ -418 ≤ (shortest bits).exponent ∧
      (shortest bits).exponent ≤ 328 := by
  obtain ⟨hmantissa, hexponent⟩ := Binary.ofBits_bounds bits
  obtain ⟨k, hk, hv⟩ : ∃ k, k = 309 ∧
      (Ratio.scaled (Binary.ofBits bits).mantissa (Binary.ofBits bits).exponent).num < 10 ^ k :=
    ⟨309, rfl, Ratio.num_scaled_lt hmantissa hexponent (by decide +kernel)⟩
  unfold shortest
  dsimp only
  generalize Ratio.scaled (Binary.ofBits bits).mantissa (Binary.ofBits bits).exponent = v at hv ⊢
  split_ifs
  · exact ⟨by decide, by decide, by decide⟩
  · obtain ⟨hlow, hhigh⟩ := Ratio.magnitude_bounds (by omega) hv
    obtain ⟨hdigits, hleast, hgreatest⟩ := shortestFrom_bounds (i := (Binary.ofBits bits).interval)
      (j := 418) hv 17 (e := v.magnitude) (by omega)
    generalize shortestFrom (Binary.ofBits bits).interval v 17 v.magnitude = s at *
    have hstrip := s.strip_bounds 20
    have hlt : (s.strip 20).digits < 10 ^ (k + 418 + 1) :=
      (hstrip.1.trans hdigits).trans_lt (Nat.pow_lt_pow_right (by decide) (Nat.lt_succ_self _))
    have hlength := length_digits_le (Nat.succ_pos _) hlt
    omega

/-! ### The text of a double -/

/-- Digits with zeros in front are as wide as they have to be, or as they are. -/
theorem length_padded (width n : Nat) :
    (padded width n).length = max width (digits n).length := by
  simp only [padded, zeros, List.length_append, List.length_replicate]
  omega

/-- A number is no longer in positional notation than its digits, the zeros up to its point, and
the point with a zero on the other side. -/
theorem Scientific.length_positional_le (s : Scientific) :
    s.positional.length ≤ (Decimal.digits s.digits).length +
      (s.exponent + (Decimal.digits s.digits).length).natAbs + 2 := by
  unfold Scientific.positional
  dsimp only
  split_ifs
  · simp only [zeros, List.length_cons, List.length_append, List.length_replicate]
    omega
  · simp only [zeros, List.length_cons, List.length_append, List.length_replicate, List.length_nil]
    omega
  · simp only [List.length_cons, List.length_append, List.length_take, List.length_drop]
    omega

/-- A number with an exponent is no longer than its digits, a point, a letter, a sign and the
digits of the exponent. -/
theorem Scientific.length_exponential_le (s : Scientific) (style : Style) :
    (s.exponential style).length ≤ (Decimal.digits s.digits).length + 3 + max style.exponentDigits
      (Decimal.digits (s.exponent + (Decimal.digits s.digits).length - 1).natAbs).length := by
  unfold Scientific.exponential
  dsimp only
  split
  · next h => simp [length_padded, h]; omega
  · next d h => simp [length_padded, h]; omega
  · next d ds _ h => simp [length_padded, h]; omega

/-- The zeros of a number are bytes of a number. -/
theorem isNumeral_zeros (n : Nat) : IsNumeral (zeros n) := by
  intro b hb
  rw [List.eq_of_mem_replicate hb]
  decide

/-- Positional notation is in bytes of a number. -/
theorem Scientific.isNumeral_positional (s : Scientific) : IsNumeral s.positional := by
  have hds := isNumeral_digits s.digits
  unfold Scientific.positional
  dsimp only
  split_ifs
  · exact (((isNumeral_zeros _).cons (by decide)).cons (by decide)).append hds
  · exact (hds.append (isNumeral_zeros _)).append (isNumeral_of_all (by decide))
  · have htake : IsNumeral ((Decimal.digits s.digits).take
        (s.exponent + (Decimal.digits s.digits).length).toNat) :=
      fun b hb => hds b (List.mem_of_mem_take hb)
    have hdrop : IsNumeral ((Decimal.digits s.digits).drop
        (s.exponent + (Decimal.digits s.digits).length).toNat) :=
      fun b hb => hds b (List.mem_of_mem_drop hb)
    exact htake.append (hdrop.cons (by decide))

/-- A number with an exponent is in bytes of a number. -/
theorem Scientific.isNumeral_exponential (s : Scientific) (style : Style) :
    IsNumeral (s.exponential style) := by
  have hds := isNumeral_digits s.digits
  have hpadded (n : Nat) : IsNumeral (padded style.exponentDigits n) :=
    (isNumeral_zeros _).append (isNumeral_digits n)
  have htail (e : Int) : IsNumeral
      (0x65 :: (if e < 0 then 0x2D else 0x2B) :: padded style.exponentDigits e.natAbs) := by
    refine ((hpadded _).cons ?_).cons (by decide)
    split_ifs <;> decide
  unfold Scientific.exponential
  dsimp only
  split
  · exact htail _
  · next d h =>
    rw [h] at hds
    exact (htail _).cons (hds d List.mem_cons_self)
  · next d ds _ h =>
    rw [h] at hds
    obtain ⟨hd, hds⟩ := List.forall_mem_cons.mp hds
    exact ((IsNumeral.cons (by decide) hds).append (htail _)).cons hd

/-- The sign of a double. -/
def signOf (bits : UInt64) : Bytes := if bits >>> 63 = 1 then [0x2D] else []

/-- A double is written as its sign and then as a zero, in positional notation, where the style has
it so, or with an exponent. -/
theorem ofBits_cases (style : Style) (bits : UInt64) :
    ofBits style bits = signOf bits ++ [0x30, 0x2E, 0x30] ∨
    (style.leastPositional ≤
        (shortest bits).exponent + (digits (shortest bits).digits).length - 1 ∧
      (shortest bits).exponent + (digits (shortest bits).digits).length - 1 ≤
        style.greatestPositional ∧
      ofBits style bits = signOf bits ++ (shortest bits).positional) ∨
    ofBits style bits = signOf bits ++ (shortest bits).exponential style := by
  unfold ofBits
  dsimp only
  by_cases hzero : (shortest bits).digits = 0
  · rw [if_pos hzero]
    exact .inl rfl
  · rw [if_neg hzero]
    split
    · next hstyle =>
      rw [Bool.and_eq_true, decide_eq_true_eq, decide_eq_true_eq] at hstyle
      exact .inr (.inl ⟨hstyle.1, hstyle.2, rfl⟩)
    · exact .inr (.inr rfl)

/-- A double is written in bytes of a number. -/
theorem isNumeral_ofBits (style : Style) (bits : UInt64) : IsNumeral (ofBits style bits) := by
  have hsign : IsNumeral (signOf bits) := by
    unfold signOf
    split_ifs
    · exact isNumeral_of_all (by decide)
    · exact isNumeral_of_all (by decide)
  rcases ofBits_cases style bits with h | ⟨-, -, h⟩ | h
  · exact h ▸ hsign.append (isNumeral_of_all (by decide))
  · exact h ▸ hsign.append (shortest bits).isNumeral_positional
  · exact h ▸ hsign.append ((shortest bits).isNumeral_exponential style)

/-- The greatest length of a double's text, in any style that writes no more than twenty zeros
between the digits and the point. -/
def maxLength : Nat := 752

/-- No double takes more bytes than that. -/
theorem length_ofBits_le {style : Style} (hleast : -20 ≤ style.leastPositional)
    (hgreatest : style.greatestPositional ≤ 20) (hexponent : style.exponentDigits ≤ 4)
    (bits : UInt64) : (ofBits style bits).length ≤ maxLength := by
  obtain ⟨hdigits, hlow, hhigh⟩ := shortest_bounds bits
  have hsign : (signOf bits).length ≤ 1 := by
    unfold signOf
    split_ifs <;> decide
  unfold maxLength
  rcases ofBits_cases style bits with h | ⟨hfrom, hto, h⟩ | h
  · rw [h, List.length_append, List.length_cons, List.length_cons, List.length_singleton]
    omega
  · have := (shortest bits).length_positional_le
    rw [h, List.length_append]
    omega
  · have := (shortest bits).length_exponential_le style
    have hwidth : (digits ((shortest bits).exponent +
        (digits (shortest bits).digits).length - 1).natAbs).length ≤ 4 :=
      length_digits_le (by decide) (by omega)
    rw [h, List.length_append]
    omega

end Switchboard.Decimal
