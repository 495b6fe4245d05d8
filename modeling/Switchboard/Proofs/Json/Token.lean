import Switchboard.Proofs.Json.Grammar
/-!
# The scanner reads the tokens of the grammar

For literals, strings, numbers and the names of members, in both directions: what the grammar
derives is passed over, whatever follows, and what is passed over is derived. A number has no mark
at its end, so what follows it must not go on with it (`Stops`).
-/

namespace Switchboard.Json

open Ascii

/-! ### Literals and strings -/

/-- A literal is passed over. -/
theorem skipIdent_append (cs t : Bytes) : skipIdent cs (cs ++ t) = .ok t := by
  induction cs with
  | nil => rfl
  | cons c cs ih => simp [skipIdent, ih]

/-- What is passed over as a literal is the literal. -/
theorem eq_append_of_skipIdent {cs s t : Bytes} (h : skipIdent cs s = .ok t) : s = cs ++ t := by
  fun_induction skipIdent cs s with
  | case1 => simpa using h
  | case2 => simp at h
  | case3 cs b rest ih => rw [List.cons_append, ← ih h]
  | case4 => simp at h

/-- The letters of the short escapes. -/
theorem isSome_unescape? {e : UInt8} :
    (unescape? e).isSome = true ↔
      e ∈ [quote, backslash, slash, 0x62, 0x66, 0x6E, 0x72, 0x74] := by
  simp only [unescape?]
  split_ifs <;> simp_all

/-- Four bytes are a number when each is a digit of it. -/
theorem isSome_hexQuad? {a b c d : UInt8} :
    (hexQuad? a b c d).isSome = true ↔ IsHex a ∧ IsHex b ∧ IsHex c ∧ IsHex d := by
  simp only [hexQuad?, IsHex]
  cases hexValue? a <;> cases hexValue? b <;> cases hexValue? c <;> cases hexValue? d <;> simp

/-- A string is passed over. -/
theorem skipString_append {s : Bytes} (h : IsBody s) (t : Bytes) :
    skipString (s ++ quote :: t) = .ok t := by
  induction h with
  | nil =>
    rw [List.nil_append, skipString.eq_def]
    simp
  | plain hq hb hc _ ih =>
    rw [List.cons_append, skipString.eq_def]
    simp [hq, hb, hc, ih]
  | @short e s he _ ih =>
    have hu : (unescape? e).isSome = true := isSome_unescape?.mpr he
    have h75 : e ≠ 0x75 := by
      rintro rfl
      exact absurd he (by decide)
    rw [List.cons_append, List.cons_append, skipString.eq_def]
    simp +decide [hu, h75, ih]
  | unit ha hb hc hd _ ih =>
    obtain ⟨n, hn⟩ := Option.isSome_iff_exists.mp (isSome_hexQuad?.mpr ⟨ha, hb, hc, hd⟩)
    simp only [List.cons_append]
    rw [skipString.eq_def]
    simp +decide [hn, ih]

/-- What is passed over as a string is one. -/
theorem exists_of_skipString {s t : Bytes} (h : skipString s = .ok t) :
    ∃ n, IsBody n ∧ s = n ++ quote :: t := by
  fun_induction skipString s with
  | case1 | case3 | case4 | case6 | case8 | case9 => cases h
  | case2 r =>
    obtain rfl := Except.ok.inj h
    exact ⟨[], .nil, rfl⟩
  | case5 a b c d r n hn _ ih =>
    obtain ⟨m, hm, rfl⟩ := ih h
    obtain ⟨ha, hb, hc, hd⟩ := isSome_hexQuad?.mp (Option.isSome_of_eq_some hn)
    exact ⟨_, .unit ha hb hc hd hm, rfl⟩
  | case7 e r _ he _ ih =>
    obtain ⟨m, hm, rfl⟩ := ih h
    exact ⟨_, .short (isSome_unescape?.mp he) hm, rfl⟩
  | case10 b r hq hb hc ih =>
    obtain ⟨m, hm, rfl⟩ := ih h
    exact ⟨_, .plain hq hb hc hm, rfl⟩

/-! ### Numbers -/

/-- No number goes on at the front of a text. -/
def Stops (t : Bytes) : Prop :=
  ∀ b r, t = b :: r → isDigit b = false ∧ b ≠ dot ∧ b ≠ 0x65 ∧ b ≠ 0x45

/-- A text is the digits at its front and what is left behind them. -/
theorem exists_eq_append_skipDigits (s : Bytes) :
    ∃ ds, (∀ b ∈ ds, isDigit b = true) ∧ s = ds ++ skipDigits s :=
  ⟨s.takeWhile isDigit, fun _ => List.mem_takeWhile_imp, List.takeWhile_append_dropWhile.symm⟩

/-- Digits are passed over up to the end of the number. -/
theorem skipDigits_append {s t : Bytes} (hs : ∀ b ∈ s, isDigit b = true)
    (ht : startsWithDigit t = false) : skipDigits (s ++ t) = t := by
  induction s with
  | nil =>
    cases t with
    | nil => rfl
    | cons b r => simpa [skipDigits, startsWithDigit] using ht
  | cons b s ih =>
    have := ih fun x hx => hs x (List.mem_cons_of_mem _ hx)
    simpa [skipDigits, hs b List.mem_cons_self] using this

/-- Digits begin with one. -/
theorem startsWithDigit_append {s : Bytes} (hs : IsDigits s) (t : Bytes) :
    startsWithDigit (s ++ t) = true := by
  obtain ⟨b, r, rfl⟩ := List.exists_cons_of_ne_nil hs.1
  exact hs.2 b List.mem_cons_self

/-- A text that begins with a digit begins with digits. -/
theorem exists_digits_of_startsWithDigit {s : Bytes} (h : startsWithDigit s = true) :
    ∃ ds, IsDigits ds ∧ s = ds ++ skipDigits s := by
  cases s with
  | nil => simp [startsWithDigit] at h
  | cons b r =>
    have hb : isDigit b = true := h
    obtain ⟨ds, hds, hr⟩ := exists_eq_append_skipDigits r
    refine ⟨b :: ds, ⟨List.cons_ne_nil b ds, List.forall_mem_cons.mpr ⟨hb, hds⟩⟩, ?_⟩
    have : skipDigits (b :: r) = skipDigits r := by simp [skipDigits, hb]
    rw [this, List.cons_append, ← hr]

/-- Where no number goes on no digit stands. -/
theorem Stops.startsWithDigit {t : Bytes} (h : Stops t) : startsWithDigit t = false := by
  cases t with
  | nil => rfl
  | cons b r => exact (h b r rfl).1

/-- No digit stands in front of what may end a number. -/
theorem startsWithDigit_exponent {e t : Bytes} (he : IsExponent e) (ht : Stops t) :
    startsWithDigit (e ++ t) = false := by
  rcases he with _ | ⟨he, -, -⟩
  · exact ht.startsWithDigit
  · rcases he with rfl | rfl <;> rfl

/-- No digit stands in front of what may follow an integer. -/
theorem startsWithDigit_fraction {f e t : Bytes} (hf : IsFraction f) (he : IsExponent e)
    (ht : Stops t) : startsWithDigit (f ++ (e ++ t)) = false := by
  rcases hf with _ | _
  · rw [List.nil_append]
    exact startsWithDigit_exponent he ht
  · rfl

/-- An exponent is passed over. -/
theorem skipExponent?_append {e t : Bytes} (he : IsExponent e) (ht : Stops t) :
    skipExponent? (e ++ t) = .ok t := by
  rcases he with _ | @⟨e, sign, ds, he, hsign, hds⟩
  · cases t with
    | nil => rfl
    | cons b r =>
      obtain ⟨-, -, h₁, h₂⟩ := ht b r rfl
      simp [skipExponent?, h₁, h₂]
  · obtain ⟨b, r, rfl⟩ := List.exists_cons_of_ne_nil hds.1
    have hb : isDigit b = true := hds.2 b List.mem_cons_self
    have hr : skipDigits (r ++ t) = t :=
      skipDigits_append (fun x hx => hds.2 x (List.mem_cons_of_mem _ hx)) ht.startsWithDigit
    have hplus : b ≠ plus ∧ b ≠ minus := by
      constructor <;> rintro rfl <;> exact absurd hb (by decide)
    have key : skipExponent (sign ++ (b :: r) ++ t) = .ok t := by
      rcases hsign with rfl | rfl | rfl <;> simp [skipExponent, hplus, hb, hr]
    rcases he with rfl | rfl <;> simpa [skipExponent?] using key

/-- Where no fraction stands only an exponent may follow. -/
theorem skipFraction_eq {s : Bytes} (h : ∀ r, s ≠ dot :: r) : skipFraction s = skipExponent? s := by
  cases s with
  | nil => rfl
  | cons b r =>
    have hb : b ≠ dot := by
      rintro rfl
      exact h r rfl
    simp [skipFraction, hb]

/-- A fraction and an exponent are passed over. -/
theorem skipFraction_append {f e t : Bytes} (hf : IsFraction f) (he : IsExponent e)
    (ht : Stops t) : skipFraction (f ++ (e ++ t)) = .ok t := by
  rcases hf with _ | hs
  · rw [List.nil_append, skipFraction_eq, skipExponent?_append he ht]
    rintro r hr
    rcases he with _ | ⟨he, -, -⟩
    · exact (ht dot r hr).2.1 rfl
    · rcases he with rfl | rfl <;> exact absurd (List.cons.inj hr).1 (by decide)
  · rw [List.cons_append, skipFraction, if_pos rfl, if_pos (startsWithDigit_append hs _),
      skipDigits_append hs.2 (startsWithDigit_exponent he ht), skipExponent?_append he ht]

/-- A number is passed over. -/
theorem skipNumber_append {s t : Bytes} (h : IsUnsigned s) (ht : Stops t) :
    skipNumber (s ++ t) = .ok t := by
  rcases h with @⟨i, f, e, hi, hf, he⟩
  have hrest := startsWithDigit_fraction hf he ht
  simp only [List.append_assoc]
  rcases hi with _ | @⟨b, ds, hz, hb, hds⟩
  · simp [skipNumber, hrest, skipFraction_append hf he ht]
  · rw [List.cons_append, skipNumber, if_neg hz, if_pos hb, skipDigits_append hds hrest,
      skipFraction_append hf he ht]

/-- What is passed over behind the letter of an exponent is a sign or none, and digits. -/
theorem exists_of_skipExponent {s t : Bytes} (h : skipExponent s = .ok t) :
    ∃ sign ds, (sign = [] ∨ sign = [plus] ∨ sign = [minus]) ∧ IsDigits ds ∧
      s = sign ++ ds ++ t := by
  cases s with
  | nil => cases h
  | cons b r =>
    by_cases hb : b = plus ∨ b = minus
    · simp only [skipExponent, Bool.or_eq_true, decide_eq_true_eq, if_pos hb] at h
      cases r with
      | nil => cases h
      | cons c r =>
        simp only at h
        split_ifs at h with hc
        obtain ⟨ds, hds, hr⟩ := exists_digits_of_startsWithDigit (s := c :: r) hc
        have ht : skipDigits (c :: r) = t := by simpa [skipDigits, hc] using h
        refine ⟨[b], ds, ?_, hds, by rw [hr, ht]; rfl⟩
        rcases hb with rfl | rfl <;> simp
    · simp only [skipExponent, Bool.or_eq_true, decide_eq_true_eq, if_neg hb] at h
      split_ifs at h with hc
      obtain ⟨ds, hds, hr⟩ := exists_digits_of_startsWithDigit (s := b :: r) hc
      have ht : skipDigits (b :: r) = t := by simpa [skipDigits, hc] using h
      exact ⟨[], ds, Or.inl rfl, hds, by rw [hr, ht]; rfl⟩

/-- What is passed over as an exponent is one. -/
theorem exists_of_skipExponent? {s t : Bytes} (h : skipExponent? s = .ok t) :
    ∃ e, IsExponent e ∧ s = e ++ t := by
  cases s with
  | nil => exact ⟨[], .none, Except.ok.inj h⟩
  | cons b r =>
    simp only [skipExponent?, Bool.or_eq_true, decide_eq_true_eq] at h
    split_ifs at h with hb
    · obtain ⟨sign, ds, hsign, hds, rfl⟩ := exists_of_skipExponent h
      exact ⟨_, .some hb hsign hds, by simp⟩
    · exact ⟨[], .none, Except.ok.inj h⟩

/-- What is passed over behind an integer is a fraction and an exponent. -/
theorem exists_of_skipFraction {s t : Bytes} (h : skipFraction s = .ok t) :
    ∃ f e, IsFraction f ∧ IsExponent e ∧ s = f ++ (e ++ t) := by
  cases s with
  | nil => exact ⟨[], [], .none, .none, Except.ok.inj h⟩
  | cons b r =>
    simp only [skipFraction] at h
    split_ifs at h with hb hd
    · obtain ⟨ds, hds, hr⟩ := exists_digits_of_startsWithDigit hd
      obtain ⟨e, he, hs⟩ := exists_of_skipExponent? h
      exact ⟨dot :: ds, e, .some hds, he, by rw [hb, hr, hs]; rfl⟩
    · obtain ⟨e, he, hs⟩ := exists_of_skipExponent? h
      exact ⟨[], e, .none, he, hs⟩

/-- What is passed over as a number is one. -/
theorem exists_of_skipNumber {s t : Bytes} (h : skipNumber s = .ok t) :
    ∃ u, IsUnsigned u ∧ s = u ++ t := by
  cases s with
  | nil => cases h
  | cons b r =>
    simp only [skipNumber] at h
    split_ifs at h with hz hd hb
    · obtain ⟨f, e, hf, he, rfl⟩ := exists_of_skipFraction h
      exact ⟨_, .mk .zero hf he, by simp [hz]⟩
    · obtain ⟨ds, hds, hr⟩ := exists_eq_append_skipDigits r
      obtain ⟨f, e, hf, he, hs⟩ := exists_of_skipFraction h
      exact ⟨_, .mk (.digits hz hb hds) hf he, by rw [hr, hs]; simp⟩

/-! ### Names -/

/-- A colon behind blanks is passed over. -/
theorem skipColon_append {b : Bytes} (hb : IsBlank b) (t : Bytes) :
    skipColon (b ++ colon :: t) = .ok t := by
  simp [skipColon, skipSpace_append hb, skipSpace_cons (b := colon) rfl]

/-- What is passed over in front of a member's value is a colon behind blanks. -/
theorem exists_of_skipColon {s t : Bytes} (h : skipColon s = .ok t) :
    ∃ b, IsBlank b ∧ s = b ++ colon :: t := by
  obtain ⟨a, ha, hs⟩ := exists_eq_append_skipSpace s
  unfold skipColon at h
  split at h
  · cases h
  · next c r hc =>
    split_ifs at h with hcolon
    obtain rfl := Except.ok.inj h
    exact ⟨a, ha, by rw [hs, hc, hcolon]⟩

/-- The name of an item is passed over. -/
theorem skipName_append {nest : Nest} {n : Bytes} (h : IsName nest n) (t : Bytes) :
    nest.skipName (n ++ t) = .ok t := by
  rcases h with _ | @⟨a, n, b, ha, hn, hb⟩
  · rfl
  · have hs : skipSpace (a ++ quote :: n ++ quote :: b ++ [colon] ++ t)
        = quote :: (n ++ quote :: (b ++ colon :: t)) := by
      simp [skipSpace_append ha, skipSpace_cons (b := quote) rfl]
    simp only [Nest.skipName, hs, if_true]
    rw [skipString_append hn]
    exact skipColon_append hb t

/-- What is passed over as the name of an item is one. -/
theorem exists_of_skipName {nest : Nest} {s t : Bytes} (h : nest.skipName s = .ok t) :
    ∃ n, IsName nest n ∧ s = n ++ t := by
  cases nest with
  | list => exact ⟨[], .list, Except.ok.inj h⟩
  | object =>
    obtain ⟨a, ha, hs⟩ := exists_eq_append_skipSpace s
    simp only [Nest.skipName] at h
    split at h
    · cases h
    · next c r hc =>
      split_ifs at h with hq
      cases hr : skipString r with
      | error _ => simp [hr, bind, Except.bind] at h
      | ok u =>
        obtain ⟨n, hn, rfl⟩ := exists_of_skipString hr
        obtain ⟨b, hb, rfl⟩ := exists_of_skipColon (by simpa [hr, bind, Except.bind] using h)
        exact ⟨_, .object ha hn hb, by rw [hs, hc, hq]; simp⟩

end Switchboard.Json
