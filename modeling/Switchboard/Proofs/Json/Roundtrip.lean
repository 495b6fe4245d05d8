import Switchboard.Proofs.Json.Members
/-!
# What is written is read back

A value is read back from its text as it was, whatever follows the text, when there are levels
enough for it (`Value.Plain.readsAs`). It must be one of those that texts stand for: its integers
fit 64 bits and the members of its objects stand in order, no two of one name and none named
`rawToken`. Nothing is said of doubles, which are read in floating point.

The levels are counted where a value is read: an object around a value takes one from it.
-/

namespace Switchboard.Json

open Ascii

/-! ### Integers -/

/-- The value of digits behind others. -/
def valueFrom (n : Nat) (ds : Bytes) : Nat := ds.foldl (fun n d => n * 10 + (d.toNat - 0x30)) n

/-- A number is not less than what its first digits are. -/
theorem le_valueFrom (n : Nat) (ds : Bytes) : n ≤ valueFrom n ds := by
  induction ds generalizing n with
  | nil => exact Nat.le_refl n
  | cons d ds ih =>
    have := ih (n * 10 + (d.toNat - 0x30))
    simp only [valueFrom, List.foldl_cons] at this ⊢
    omega

/-- A digit is worth what it was written for. -/
theorem toNat_digit {n : Nat} (h : n < 10) : (0x30 + n.toUInt8).toNat - 0x30 = n := by
  revert n
  decide

/-- The digits of a number are worth it, with those that stand behind them. -/
theorem valueFrom_digitsFrom {fuel n : Nat} (h : n < fuel) (acc : Bytes) :
    valueFrom 0 (Decimal.digitsFrom fuel n acc) = valueFrom n acc := by
  induction fuel generalizing n acc with
  | zero => omega
  | succ fuel ih =>
    have hdigit := toNat_digit (Nat.mod_lt n (by decide : 0 < 10))
    unfold Decimal.digitsFrom
    split_ifs with hn
    · simp only [valueFrom, List.foldl_cons, hdigit]
      rw [Nat.mod_eq_of_lt hn, Nat.zero_mul, Nat.zero_add]
    · rw [ih (by omega)]
      simp only [valueFrom, List.foldl_cons, hdigit]
      rw [Nat.div_add_mod']

/-- The digits of a number are worth it. -/
theorem valueFrom_digits (n : Nat) : valueFrom 0 (Decimal.digits n) = n :=
  valueFrom_digitsFrom (Nat.lt_succ_self n) []

/-- What stops a number is left behind an integer. -/
theorem readAfterInteger_stop {t : Bytes} (ht : Stops t) (negative : Bool) (n : Nat) :
    readAfterInteger negative n t = .ok (finishInteger negative n, t) := by
  cases t with
  | nil => rfl
  | cons b t =>
    obtain ⟨-, hdot, he, hE⟩ := ht b t rfl
    simp [readAfterInteger, hdot, he, hE]

/-- Digits that fit are read as the number they make. -/
theorem readIntegerDigits_append {ds t : Bytes} (hds : ∀ b ∈ ds, isDigit b = true) (ht : Stops t)
    (negative : Bool) {n : Nat} (h : valueFrom n ds ≤ maxWord) :
    readIntegerDigits negative n (ds ++ t) = .ok (finishInteger negative (valueFrom n ds), t) := by
  induction ds generalizing n with
  | nil =>
    cases t with
    | nil => rfl
    | cons b t =>
      obtain ⟨hdigit, -⟩ := ht b t rfl
      simp only [List.nil_append, readIntegerDigits, hdigit, Bool.false_eq_true, if_false]
      exact readAfterInteger_stop ht negative n
  | cons d ds ih =>
    obtain ⟨hd, hds⟩ := List.forall_mem_cons.mp hds
    have hnext : n * 10 + (d.toNat - 0x30) ≤ maxWord := (le_valueFrom _ ds).trans h
    simp only [List.cons_append, readIntegerDigits, hd, if_true, if_pos hnext]
    exact ih hds h

/-- A number without its sign is read as its digits. -/
theorem readNumber_digits (negative : Bool) {n : Nat} (hn : n ≤ maxWord) {t : Bytes}
    (ht : Stops t) :
    readNumber negative (Decimal.digits n ++ t) = .ok (finishInteger negative n, t) := by
  have hinteger : IsInteger (Decimal.digits n) :=
    isInteger_digitsFrom (Nat.lt_succ_self n) (by simp) (by simp)
  have hvalue := valueFrom_digits n
  generalize Decimal.digits n = ds at hinteger hvalue
  cases hinteger with
  | zero =>
    obtain rfl : 0 = n := hvalue
    have hstop := ht.startsWithDigit
    simp only [List.cons_append, List.nil_append, readNumber, if_true, hstop, Bool.false_eq_true,
      if_false]
    exact readAfterInteger_stop ht negative 0
  | @digits b s hz hb hs =>
    have hfirst : valueFrom (b.toNat - 0x30) s = n := by
      simpa [valueFrom] using hvalue
    simp only [List.cons_append, readNumber, if_neg hz, hb, if_true]
    rw [readIntegerDigits_append hs ht negative (hfirst ▸ hn), hfirst]

/-! ### Members in order -/

/-- A member behind all others is put at the end. -/
theorem Members.insert_of_forall_lt {name : String} {ms : Members} (h : ∀ m ∈ ms, m.1 < name)
    (v : Value) : Members.insert name v ms = ms ++ [(name, v)] := by
  induction ms with
  | nil => rfl
  | cons m ms ih =>
    obtain ⟨hm, hms⟩ := List.forall_mem_cons.mp h
    obtain ⟨other, w⟩ := m
    have hnot : ¬name < other := lt_asymm hm
    have hne : name ≠ other := (ne_of_lt hm).symm
    simp only [Members.insert, hnot, hne, if_false, ih hms, List.cons_append]

/-- Members that stand in order are their own object. -/
theorem Value.ofMembers_eq_self {ms : Members} (h : ms.Pairwise fun m n => m.1 < n.1) :
    Value.ofMembers ms = .object ms := by
  have inserted (before after : Members) (h : (before ++ after).Pairwise fun m n => m.1 < n.1) :
      after.foldl (fun ms m => Members.insert m.1 m.2 ms) before = before ++ after := by
    induction after generalizing before with
    | nil => simp
    | cons m after ih =>
      have hlast : ∀ n ∈ before, n.1 < m.1 := fun n hn =>
        (List.pairwise_append.mp h).2.2 n hn m List.mem_cons_self
      rw [List.foldl_cons, Members.insert_of_forall_lt hlast, ih _ (by simpa using h)]
      simp
  exact congrArg Value.object (inserted [] ms h)

/-! ### Values -/

/-- A value whose text is read as another, with so many levels left and whatever follows it. -/
structure Value.ReadsAs (depth : Nat) (v x : Value) : Prop where
  isValue : IsValue v.render
  reads (fuel : Nat) (t : Bytes) (hfuel : v.render.length ≤ fuel) (ht : Stops t) :
    readValueFrom fuel depth (v.render ++ t) = .ok (x, t)

/-- A value that texts stand for, with no more than `d` arrays and objects open at once in it. -/
inductive Value.Plain : Nat → Value → Prop
  | null {d : Nat} : Plain d .null
  | bool {d : Nat} (b : Bool) : Plain d (.bool b)
  | int {d : Nat} {n : Int} (hlow : -maxNegative ≤ n) (hhigh : n ≤ maxWord) :
    Plain d (.number (.int n))
  | string {d : Nat} (s : String) : Plain d (.string s)
  | array {d : Nat} {vs : List Value} (h : ∀ v ∈ vs, Plain d v) : Plain (d + 1) (.array vs)
  | object {d : Nat} {ms : Members} (hsorted : ms.Pairwise fun m n => m.1 < n.1)
    (hraw : ∀ m ∈ ms, m.1 ≠ rawToken) (h : ∀ m ∈ ms, Plain d m.2) : Plain (d + 1) (.object ms)

/-- No double stands in it. -/
theorem Value.Plain.exact {d : Nat} {v : Value} (h : v.Plain d) : v.Exact := by
  induction h with
  | null => exact .null
  | bool b => exact .bool b
  | int => exact .int _
  | string s => exact .string s
  | array _ ih => exact .array ih
  | object _ _ _ ih => exact .object ih

/-- What is nested less deep is not nested deeper. -/
theorem Value.Plain.mono {d e : Nat} {v : Value} (h : v.Plain d) (hde : d ≤ e) : v.Plain e := by
  induction h generalizing e with
  | null => exact .null
  | bool b => exact .bool b
  | int hlow hhigh => exact .int hlow hhigh
  | string s => exact .string s
  | array _ ih =>
    obtain ⟨e, rfl⟩ : ∃ k, e = k + 1 := ⟨e - 1, by omega⟩
    exact .array fun v hv => ih v hv (by omega)
  | object hsorted hraw _ ih =>
    obtain ⟨e, rfl⟩ : ∃ k, e = k + 1 := ⟨e - 1, by omega⟩
    exact .object hsorted hraw fun m hm => ih m hm (by omega)

section

variable {depth : Nat} {t : Bytes}

/-- Blanks in front of a value make no difference. -/
theorem readValueFrom_skip {a : Bytes} (ha : IsBlank a) (fuel : Nat) (s : Bytes) :
    readValueFrom (fuel + 1) depth (a ++ s) = readValueFrom (fuel + 1) depth s := by
  unfold readValueFrom
  rw [skipSpace_append ha]

/-- A value is read where any is. -/
theorem Value.ReadsAs.readValue_append {v x : Value} (h : v.ReadsAs depth x) {a : Bytes}
    (ha : IsBlank a) (ht : Stops t) : readValue depth (a ++ v.render ++ t) = .ok (x, t) := by
  rw [readValue, List.append_assoc, readValueFrom_skip ha]
  refine h.reads _ t ?_ ht
  simp only [List.length_append]
  omega

/-- A value's text is not empty. -/
theorem length_pos_of_isValue {s : Bytes} (h : IsValue s) : 0 < s.length := by
  obtain ⟨b, r, rfl, -⟩ := h.exists_cons
  exact Nat.succ_pos _

/-- A value is read with some fuel. -/
theorem exists_fuel {v : Value} (hv : IsValue v.render) {fuel : Nat}
    (hfuel : v.render.length ≤ fuel) : ∃ k, fuel = k + 1 :=
  ⟨fuel - 1, by have := length_pos_of_isValue hv; omega⟩

/-! ### Scalars -/

/-- A value is read as it was when its text is read so with any fuel at all. -/
theorem readsAs_of_forall {v : Value} (hv : v.Exact)
    (h : ∀ fuel t, Stops t → readValueFrom (fuel + 1) depth (v.render ++ t) = .ok (v, t)) :
    v.ReadsAs depth v := by
  refine ⟨Value.isValue_render hv, fun fuel t hfuel ht => ?_⟩
  obtain ⟨fuel, rfl⟩ := exists_fuel (Value.isValue_render hv) hfuel
  exact h fuel t ht

/-- `null` is read as it was. -/
theorem readsAs_null : Value.null.ReadsAs depth .null := by
  refine readsAs_of_forall .null fun fuel t _ => ?_
  have hident := skipIdent_append nullTail t
  simp only [nullTail, List.cons_append, List.nil_append] at hident
  simp +decide [readValueFrom, Value.render, skipSpace_cons, nullTail, hident, bind, Except.bind,
    pure, Except.pure]

/-- A truth value is read as it was. -/
theorem readsAs_bool (b : Bool) : (Value.bool b).ReadsAs depth (.bool b) := by
  refine readsAs_of_forall (.bool b) fun fuel t _ => ?_
  have htrue := skipIdent_append trueTail t
  have hfalse := skipIdent_append falseTail t
  simp only [trueTail, falseTail, List.cons_append, List.nil_append] at htrue hfalse
  cases b <;> simp +decide [readValueFrom, Value.render, skipSpace_cons, trueTail, falseTail, htrue,
    hfalse, bind, Except.bind, pure, Except.pure]

/-- A string is read as it was. -/
theorem readsAs_string (s : String) : (Value.string s).ReadsAs depth (.string s) := by
  refine readsAs_of_forall (.string s) fun fuel t _ => ?_
  have hread := readString_append (spells_escape (Utf8.encode s)) t
  simp +decide [readValueFrom, Value.render, renderString, skipSpace_cons, hread, bind, Except.bind,
    pure, Except.pure]

/-- A digit is none of the bytes that other values begin with. -/
theorem readValueFrom_digit {b : UInt8} (hb : isDigit b = true) (fuel : Nat) (s : Bytes) :
    readValueFrom (fuel + 1) depth (b :: s)
      = (fun p => (Value.number p.1, p.2)) <$> readNumber false (b :: s) := by
  have ne {c : UInt8} (hc : isDigit c = false) : b ≠ c := by
    rintro rfl
    simp [hb] at hc
  have h₁ : b ≠ 0x6E := ne rfl
  have h₂ : b ≠ 0x74 := ne rfl
  have h₃ : b ≠ 0x66 := ne rfl
  have h₄ : b ≠ minus := ne rfl
  simp only [readValueFrom, skipSpace_cons (isDigit_plain hb).1, h₁, h₂, h₃, h₄, hb, if_true,
    if_false]
  cases readNumber false (b :: s) <;> rfl

/-- An integer that fits 64 bits is read as it was. -/
theorem readsAs_int {n : Int} (hlow : -maxNegative ≤ n) (hhigh : n ≤ maxWord) :
    (Value.number (.int n)).ReadsAs depth (.number (.int n)) := by
  refine readsAs_of_forall (.int n) fun fuel t ht => ?_
  cases n with
  | ofNat n =>
    have hn : n ≤ maxWord := by simpa using hhigh
    have hread := readNumber_digits false hn ht
    obtain ⟨b, r, hr, hb⟩ := (isUnsigned_digits n).exists_cons
    simp only [Value.render, Number.render, Decimal.ofInt]
    rw [hr, List.cons_append] at hread ⊢
    rw [readValueFrom_digit hb, hread]
    rfl
  | negSucc n =>
    have hn : n + 1 ≤ maxNegative := by omega
    have hread := readNumber_digits true (hn.trans (by decide)) ht
    have hfinish : finishInteger true (n + 1) = .int (.negSucc n) := by
      simp [finishInteger, Nat.not_lt.mpr hn, Int.negSucc_eq]
    rw [hfinish] at hread
    simp +decide [readValueFrom, Value.render, Number.render, Decimal.ofInt, skipSpace_cons, hread,
      bind, Except.bind, pure, Except.pure]

/-! ### Arrays -/

/-- An element begins where it is led to. -/
theorem nextElement_append {first : Bool} {l : Bytes} (h : IsLead first l) {v : Bytes}
    (hv : IsValue v) (t : Bytes) : nextElement first (l ++ (v ++ t)) = .ok (some (v ++ t)) := by
  obtain ⟨b, r, rfl, hb, hclose, -⟩ := hv.exists_cons
  cases first with
  | true => simp [nextElement, skipSpace_append h, skipSpace_cons hb, hclose]
  | false =>
    obtain ⟨c, d, hc, hd, rfl⟩ := h
    have hcomma (s : Bytes) : skipSpace (comma :: s) = comma :: s := skipSpace_cons rfl s
    simp +decide [nextElement, skipSpace_append hc, skipSpace_append hd, hcomma, skipSpace_cons hb,
      hclose]

/-- At its bracket an array ends. -/
theorem nextElement_closeBracket (first : Bool) (t : Bytes) :
    nextElement first (closeBracket :: t) = .ok none := by
  simp [nextElement, skipSpace_cons (b := closeBracket) rfl]

/-- Behind an element there is another or the end of the array. -/
theorem stops_renderElements (vs : List Value) :
    Stops (renderElements vs ++ closeBracket :: t) := by
  cases vs with
  | nil => exact stops_cons (by decide) t
  | cons v vs => exact stops_cons (by decide) _

/-- The elements of an array behind others are read up to its end. -/
theorem readElements_append {vs : List Value} (h : ∀ v ∈ vs, v.ReadsAs depth v) (acc : List Value)
    (fuel : Nat) (hfuel : (renderElements vs).length < fuel) :
    readElements fuel depth false acc (renderElements vs ++ closeBracket :: t)
      = .ok (acc.reverse ++ vs, closeBracket :: t) := by
  induction vs generalizing acc fuel with
  | nil =>
    obtain ⟨fuel, rfl⟩ := Nat.exists_eq_add_of_lt hfuel
    simp [readElements, renderElements, nextElement_closeBracket, bind, Except.bind, pure,
      Except.pure]
  | cons v vs ih =>
    obtain ⟨hv, hvs⟩ := List.forall_mem_cons.mp h
    obtain ⟨fuel, rfl⟩ : ∃ k, fuel = k + 1 := ⟨fuel - 1, by omega⟩
    simp only [renderElements, List.length_append, List.length_cons] at hfuel
    have hnext := nextElement_append isLead_comma hv.isValue (renderElements vs ++ closeBracket :: t)
    have hstops : Stops (renderElements vs ++ closeBracket :: t) := stops_renderElements vs
    have hread := hv.reads fuel _ (by omega) hstops
    have hrest := ih hvs (v :: acc) fuel (by omega)
    simp only [renderElements, List.cons_append, List.append_assoc]
    rw [readElements]
    simp only [List.cons_append, List.nil_append] at hnext
    simp only [hnext, hread, hrest, bind, Except.bind, List.reverse_cons, List.append_assoc,
      List.cons_append, List.nil_append]

/-- An array is read one level further out than its elements. -/
theorem readsAs_array {vs : List Value} (hdepth : 0 < depth) (h : ∀ v ∈ vs, v.ReadsAs depth v)
    (hexact : ∀ v ∈ vs, v.Exact) : (Value.array vs).ReadsAs (depth + 1) (.array vs) := by
  have hvalue := Value.isValue_render (.array hexact)
  -- what is left to show is that the elements are found
  have found {fuel : Nat} {s t : Bytes}
      (hs : readElements fuel depth true [] s = .ok (vs, closeBracket :: t)) :
      readValueFrom (fuel + 1) (depth + 1) (openBracket :: s) = .ok (.array vs, t) := by
    have hlevel : ¬depth + 1 ≤ 1 := by omega
    have hend : endArray (closeBracket :: t) = .ok t := by
      simp [endArray, skipSpace_cons (b := closeBracket) rfl]
    simp +decide [readValueFrom, skipSpace_cons, hlevel, hs, hend, bind, Except.bind, pure,
      Except.pure]
  refine ⟨hvalue, fun fuel t hfuel _ => ?_⟩
  obtain ⟨fuel, rfl⟩ := exists_fuel hvalue hfuel
  cases vs with
  | nil =>
    obtain ⟨fuel, rfl⟩ : ∃ k, fuel = k + 1 :=
      ⟨fuel - 1, by simp only [Value.render, List.length_cons, List.length_nil] at hfuel; omega⟩
    exact found (by simp [readElements, nextElement_closeBracket, bind, Except.bind, pure,
      Except.pure])
  | cons v vs =>
    obtain ⟨hv, hvs⟩ := List.forall_mem_cons.mp h
    simp only [Value.render, List.length_append, List.length_cons, List.length_nil] at hfuel
    obtain ⟨fuel, rfl⟩ : ∃ k, fuel = k + 1 := ⟨fuel - 1, by omega⟩
    have hnext := nextElement_append isLead_nil hv.isValue (renderElements vs ++ closeBracket :: t)
    have hstops : Stops (renderElements vs ++ closeBracket :: t) := stops_renderElements vs
    have hread := hv.reads fuel _ (by omega) hstops
    have hpos := length_pos_of_isValue hv.isValue
    have hrest := readElements_append hvs (t := t) [v] fuel (by omega)
    simp only [Value.render, List.cons_append, List.append_assoc, List.nil_append]
    apply found
    rw [readElements]
    simp only [List.nil_append] at hnext
    simp only [hnext, hread, hrest, bind, Except.bind, List.reverse_singleton,
      List.singleton_append]

/-! ### Objects -/

/-- Behind a member there is another or the end of the object. -/
theorem stops_renderMembers (ms : Members) : Stops (renderMembers ms ++ closeBrace :: t) := by
  cases ms with
  | nil => exact stops_cons (by decide) t
  | cons m ms => exact stops_cons (by decide) _

/-- The members of an object behind others are read up to its end, each put in its place. -/
theorem readMembers_append {f : Value → Value} {ms : Members}
    (h : ∀ m ∈ ms, m.2.ReadsAs depth (f m.2)) (acc : Members) (fuel : Nat)
    (hfuel : (renderMembers ms).length < fuel) :
    readMembers fuel depth acc (renderMembers ms ++ closeBrace :: t)
      = .ok (.object (ms.foldl (fun ms m => Members.insert m.1 (f m.2) ms) acc),
        closeBrace :: t) := by
  induction ms generalizing acc fuel with
  | nil =>
    obtain ⟨fuel, rfl⟩ := Nat.exists_eq_add_of_lt hfuel
    have hend := nextMember_closeBrace false isBlank_nil t
    simp only [List.nil_append] at hend
    simp [readMembers, renderMembers, hend, bind, Except.bind, pure, Except.pure]
  | cons m ms ih =>
    obtain ⟨name, v⟩ := m
    obtain ⟨hm, hms⟩ : v.ReadsAs depth (f v) ∧ ∀ m ∈ ms, m.2.ReadsAs depth (f m.2) :=
      List.forall_mem_cons.mp h
    obtain ⟨fuel, rfl⟩ : ∃ k, fuel = k + 1 := ⟨fuel - 1, by omega⟩
    simp only [renderMembers, List.length_append, List.length_cons] at hfuel
    have hstops : Stops (renderMembers ms ++ closeBrace :: t) := stops_renderMembers ms
    have hread := hm.reads fuel _ (by omega) hstops
    have hrest := ih hms (acc.insert name (f v)) fuel (by omega)
    have hname := readString_append (spells_escape (Utf8.encode name))
      (colon :: (v.render ++ (renderMembers ms ++ closeBrace :: t)))
    have hnext := nextMember_append isLead_comma (escape (Utf8.encode name) ++ quote :: colon ::
      (v.render ++ (renderMembers ms ++ closeBrace :: t)))
    have hcolon := skipColon_append isBlank_nil (v.render ++ (renderMembers ms ++ closeBrace :: t))
    simp only [List.nil_append, List.cons_append] at hnext hcolon
    simp only [renderMembers, renderString, List.cons_append, List.append_assoc, List.nil_append]
    rw [readMembers]
    simp only [hnext, hname, hcolon, hread, hrest, bind, Except.bind, List.foldl_cons]

/-- An object is read one level further out than the values of its members, which are put in their
places. -/
theorem readsAs_object {f : Value → Value} {ms : Members} (hdepth : 0 < depth)
    (hraw : ∀ m ∈ ms, m.1 ≠ rawToken) (h : ∀ m ∈ ms, m.2.ReadsAs depth (f m.2))
    (hexact : ∀ m ∈ ms, m.2.Exact) :
    (Value.object ms).ReadsAs (depth + 1) (Value.ofMembers (ms.map fun m => (m.1, f m.2))) := by
  have hvalue := Value.isValue_render (.object hexact)
  -- what is left to show is that the members are found
  have found {fuel : Nat} {s t : Bytes} {x : Value}
      (hs : readObject fuel depth s = .ok (x, closeBrace :: t)) :
      readValueFrom (fuel + 1) (depth + 1) (openBrace :: s) = .ok (x, t) := by
    have hlevel : ¬depth + 1 ≤ 1 := by omega
    have hend := endObject_append isBlank_nil t
    rw [List.nil_append] at hend
    simp +decide [readValueFrom, skipSpace_cons, hlevel, hs, hend, bind, Except.bind, pure,
      Except.pure]
  refine ⟨hvalue, fun fuel t hfuel _ => ?_⟩
  obtain ⟨fuel, rfl⟩ := exists_fuel hvalue hfuel
  cases ms with
  | nil =>
    obtain ⟨fuel, rfl⟩ : ∃ k, fuel = k + 1 :=
      ⟨fuel - 1, by simp only [Value.render, List.length_cons, List.length_nil] at hfuel; omega⟩
    have hend := nextMember_closeBrace true isBlank_nil t
    rw [List.nil_append] at hend
    exact found (by simp [readObject, hend, bind, Except.bind, pure, Except.pure, Value.ofMembers])
  | cons m ms =>
    obtain ⟨name, v⟩ := m
    obtain ⟨hm, hms⟩ : v.ReadsAs depth (f v) ∧ ∀ m ∈ ms, m.2.ReadsAs depth (f m.2) :=
      List.forall_mem_cons.mp h
    have hne : name ≠ rawToken := hraw (name, v) List.mem_cons_self
    simp only [Value.render, renderString, List.length_append, List.length_cons, List.length_nil]
      at hfuel
    obtain ⟨fuel, rfl⟩ : ∃ k, fuel = k + 1 := ⟨fuel - 1, by omega⟩
    have hstops : Stops (renderMembers ms ++ closeBrace :: t) := stops_renderMembers ms
    have hread := hm.reads fuel _ (by omega) hstops
    have hrest := readMembers_append hms (t := t) [(name, f v)] fuel (by omega)
    have hname := readString_append (spells_escape (Utf8.encode name))
      (colon :: (v.render ++ (renderMembers ms ++ closeBrace :: t)))
    have hnext := nextMember_append isLead_nil (escape (Utf8.encode name) ++ quote :: colon ::
      (v.render ++ (renderMembers ms ++ closeBrace :: t)))
    have hcolon := skipColon_append isBlank_nil (v.render ++ (renderMembers ms ++ closeBrace :: t))
    simp only [List.nil_append] at hnext hcolon
    simp only [Value.render, renderString, List.cons_append, List.append_assoc, List.nil_append]
    apply found
    rw [readObject]
    simp only [hnext, hname, hcolon, hne, hread, hrest, bind, Except.bind, if_false]
    simp only [Value.ofMembers, List.map_cons, List.foldl_cons, List.foldl_map, Members.insert]

end

/-- A value that texts stand for is read as it was. -/
theorem Value.Plain.readsAs {d depth : Nat} {v : Value} (h : v.Plain d) (hdepth : d < depth) :
    v.ReadsAs depth v := by
  induction h generalizing depth with
  | null => exact readsAs_null
  | bool b => exact readsAs_bool b
  | int hlow hhigh => exact readsAs_int hlow hhigh
  | string s => exact readsAs_string s
  | array h ih =>
    obtain ⟨depth, rfl⟩ : ∃ k, depth = k + 1 := ⟨depth - 1, by omega⟩
    exact readsAs_array (by omega) (fun v hv => ih v hv (by omega)) fun v hv => (h v hv).exact
  | @object d ms hsorted hraw h ih =>
    obtain ⟨depth, rfl⟩ : ∃ k, depth = k + 1 := ⟨depth - 1, by omega⟩
    have hvalues : ∀ m ∈ ms, m.2.ReadsAs depth (id m.2) := fun m hm => ih m hm (by omega)
    have hread := readsAs_object (by omega) hraw hvalues fun m hm => (h m hm).exact
    have hsame : ms.map (fun m => (m.1, id m.2)) = ms := List.map_id' ms
    rw [hsame, Value.ofMembers_eq_self hsorted] at hread
    exact hread

/-- The text of a value holds what it is read as. -/
theorem Value.ReadsAs.parse {v x : Value} (h : v.ReadsAs maxDepth x) :
    Json.parse v.render = .ok x := by
  have hstops : Stops [] := fun _ _ h => by cases h
  have hread := h.readValue_append isBlank_nil hstops
  simp only [List.nil_append, List.append_nil] at hread
  simp [Json.parse, hread, endText, skipSpace, bind, Except.bind, pure, Except.pure]

/-- The text of a value that texts stand for holds that value. -/
theorem parse_render {v : Value} (h : v.Plain (maxDepth - 1)) : parse v.render = .ok v :=
  (h.readsAs (by decide)).parse

end Switchboard.Json
