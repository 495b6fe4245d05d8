import Switchboard.Proofs.Json.Token
/-!
# The scanner reads the grammar

`skipValue` finds the end of a value exactly where the grammar derives one. What the grammar
derives is passed over, whatever follows, as long as that does not go on with a number
(`skipValue_append`), and what is passed over is derived (`exists_of_skipValue`). Arrays and objects
that are open around a value are closed in the order of `Closing`, the scanner's stack as a text.

For a whole text this makes `isJson` a statement about the grammar (`isJson_iff`).
-/

namespace Switchboard.Json

open Ascii

/-! ### What the grammar derives is passed over -/

/-- Blanks end every number, and so does what ends one behind them. -/
theorem Stops.append {a t : Bytes} (ht : Stops t) (ha : IsBlank a) : Stops (a ++ t) := by
  intro b r h
  cases a with
  | nil => exact ht b r h
  | cons d a =>
    obtain ⟨rfl, -⟩ := List.cons.inj h
    have hd : isSpace d = true := ha d List.mem_cons_self
    simp only [isSpace, Bool.or_eq_true, decide_eq_true_eq] at hd
    rcases hd with ((rfl | rfl) | rfl) | rfl <;> decide

/-- The marks behind a value end every number. -/
theorem stops_cons {c : UInt8} (hc : c ∈ [comma, closeBracket, closeBrace]) (t : Bytes) :
    Stops (c :: t) := by
  intro b r h
  obtain ⟨rfl, -⟩ := List.cons.inj h
  simp only [List.mem_cons, List.not_mem_nil, or_false] at hc
  rcases hc with rfl | rfl | rfl <;> decide

/-- Nothing ends every number. -/
theorem stops_nil : Stops [] := by
  intro b r h
  cases h

/-- Blanks behind blanks are passed over with them. -/
theorem skipSpace_skipSpace (s : Bytes) : skipSpace (skipSpace s) = skipSpace s := by
  cases h : skipSpace s with
  | nil => rfl
  | cons b r => exact skipSpace_cons (isSpace_of_skipSpace h) r

/-- Blanks in front of a value make no difference. -/
theorem skipOpen_skipSpace (fuel : Nat) (nests : List Nest) (s : Bytes) :
    skipOpen (fuel + 1) nests (skipSpace s) = skipOpen (fuel + 1) nests s := by
  simp [skipOpen, skipFront, skipSpace_skipSpace]

/-- Blanks in front of a value, appended. -/
theorem skipOpen_append {a : Bytes} (ha : IsBlank a) (fuel : Nat) (nests : List Nest) (s : Bytes) :
    skipOpen (fuel + 1) nests (a ++ s) = skipOpen (fuel + 1) nests s := by
  rw [← skipOpen_skipSpace, skipSpace_append ha, skipOpen_skipSpace]

/-- Passes over a name and then over what is open behind it. -/
def skipItem (fuel : Nat) (nest : Nest) (nests : List Nest) (s : Bytes) : Except Fault Bytes := do
  skipOpen fuel (nest :: nests) (← nest.skipName s)

/-- Blanks in front of an item make no difference. -/
theorem skipItem_skipSpace (fuel : Nat) (nest : Nest) (nests : List Nest) (s : Bytes) :
    skipItem (fuel + 1) nest nests (skipSpace s) = skipItem (fuel + 1) nest nests s := by
  cases nest with
  | list => exact skipOpen_skipSpace fuel _ s
  | object => simp [skipItem, Nest.skipName, skipSpace_skipSpace]

/-- An item begins behind its name. -/
theorem skipItem_append {nest : Nest} {n : Bytes} (hn : IsName nest n) (fuel : Nat)
    (nests : List Nest) (s : Bytes) :
    skipItem fuel nest nests (n ++ s) = skipOpen fuel (nest :: nests) s := by
  simp [skipItem, skipName_append hn, bind, Except.bind]

/-- A value without items is passed over at once. -/
theorem skipOpen_of_whole {s r : Bytes} (h : skipFront s = .ok (.whole r)) (fuel : Nat)
    (nests : List Nest) : skipOpen (fuel + 1) nests s = skipRest fuel nests r := by
  simp [skipOpen, h, bind, Except.bind]

/-- The opening of an array or an object is seen. -/
theorem skipFront_opener (nest : Nest) (s : Bytes) :
    skipFront (nest.opener :: s) = .ok (.opened nest s) := by
  cases nest <;> simp +decide [skipFront, Nest.opener, skipSpace_cons]

/-- No closing bracket is a blank. -/
theorem isSpace_closer (nest : Nest) : isSpace nest.closer = false := by
  cases nest <;> rfl

/-- An array or an object without items is passed over at once. -/
theorem skipOpen_empty (nest : Nest) {a : Bytes} (ha : IsBlank a) (fuel : Nat) (nests : List Nest)
    (t : Bytes) : skipOpen (fuel + 1) nests (nest.opener :: (a ++ nest.closer :: t))
      = skipRest fuel nests t := by
  simp [skipOpen, skipFront_opener, bind, Except.bind, skipSpace_append ha,
    skipSpace_cons (isSpace_closer nest)]

/-- An array or an object with items begins with the first of them. -/
theorem skipOpen_full (nest : Nest) {s r : Bytes} {b : UInt8} (hs : skipSpace s = b :: r)
    (hb : b ≠ nest.closer) (fuel : Nat) (nests : List Nest) :
    skipOpen (fuel + 2) nests (nest.opener :: s) = skipItem (fuel + 1) nest nests s := by
  rw [← skipItem_skipSpace, hs]
  simp [skipOpen, skipFront_opener, bind, Except.bind, hs, hb, skipItem]

/-- Behind its last item an array or an object is closed. -/
theorem skipRest_closer {b : Bytes} (hb : IsBlank b) (fuel : Nat) (nest : Nest) (nests : List Nest)
    (t : Bytes) :
    skipRest (fuel + 1) (nest :: nests) (b ++ nest.closer :: t) = skipRest fuel nests t := by
  have hc : nest.closer ≠ comma := by cases nest <;> decide
  simp [skipRest, skipSpace_append hb, skipSpace_cons (isSpace_closer nest), hc]

/-- Behind a comma the next item begins. -/
theorem skipRest_comma {b : Bytes} (hb : IsBlank b) (fuel : Nat) (nest : Nest) (nests : List Nest)
    (t : Bytes) :
    skipRest (fuel + 1) (nest :: nests) (b ++ comma :: t) = skipItem fuel nest nests t := by
  simp [skipRest, skipItem, skipSpace_append hb, skipSpace_cons (b := comma) rfl]

/-- Items begin with no closing bracket. -/
theorem Derives.exists_skipSpace {nest : Nest} {s : Bytes} (h : Derives (.items nest) s)
    (t : Bytes) : ∃ b r, skipSpace (s ++ t) = b :: r ∧ b ≠ nest.closer := by
  have item {n a v : Bytes} (hn : IsName nest n) (ha : IsBlank a) (hv : IsValue v) (u : Bytes) :
      ∃ b r, skipSpace (n ++ (a ++ (v ++ u))) = b :: r ∧ b ≠ nest.closer := by
    rcases hn with _ | ⟨hc, -, -⟩
    · obtain ⟨b, r, rfl, hb, hl, -⟩ := hv.exists_cons
      exact ⟨b, r ++ u, by simp [skipSpace_append ha, skipSpace_cons hb], hl⟩
    · simp only [List.append_assoc, List.cons_append, skipSpace_append hc]
      rw [skipSpace_cons rfl]
      exact ⟨quote, _, rfl, by decide⟩
  cases h with
  | last hn ha _ hv => simpa using item hn ha hv _
  | more hn ha _ hv _ => simpa using item hn ha hv _

/-- What is derived is passed over in `k + 1` steps, of which its length leaves enough. -/
def Passes (k : Nat) : Form → Bytes → Prop
  | .value, s => k + 2 ≤ 2 * s.length ∧ ∀ fuel nests t, Stops t →
    skipOpen (fuel + k + 1) nests (s ++ t) = skipRest fuel nests t
  | .items nest, s => k + 1 ≤ 2 * s.length ∧ ∀ fuel nests t,
    skipItem (fuel + k + 1) nest nests (s ++ nest.closer :: t) = skipRest fuel nests t

/-- A value whose front is the whole of it is passed over in one step. -/
theorem passes_zero {b : UInt8} {s : Bytes}
    (h : ∀ t, Stops t → skipFront (b :: s ++ t) = .ok (.whole t)) : Passes 0 .value (b :: s) :=
  ⟨by simp only [List.length_cons]; omega, fun fuel nests t ht =>
    skipOpen_of_whole (h t ht) fuel nests⟩

/-- A number without its sign is the whole front of a text. -/
theorem skipFront_positive {s : Bytes} (h : IsUnsigned s) {t : Bytes} (ht : Stops t) :
    skipFront (s ++ t) = .ok (.whole t) := by
  have hskip := skipNumber_append h ht
  obtain ⟨b, r, rfl, hb⟩ := h.exists_cons
  have ne {c : UInt8} (hc : isDigit c = false) : b ≠ c := by
    rintro rfl
    simp [hb] at hc
  rw [List.cons_append] at hskip ⊢
  simp [skipFront, skipSpace_cons (isDigit_plain hb).1, hb, hskip, ne (c := 0x6E) rfl,
    ne (c := 0x74) rfl, ne (c := 0x66) rfl, ne (c := minus) rfl]

/-- The first value of items is passed over behind its name. -/
theorem Passes.item {k : Nat} {nest : Nest} {n a v : Bytes} (h : Passes k .value v)
    (hn : IsName nest n) (ha : IsBlank a) (fuel : Nat) (nests : List Nest) {t : Bytes}
    (ht : Stops t) :
    skipItem (fuel + k + 1) nest nests (n ++ (a ++ (v ++ t)))
      = skipRest fuel (nest :: nests) t := by
  rw [skipItem_append hn, skipOpen_append ha, h.2 _ _ _ ht]

/-- What the grammar derives is passed over. -/
theorem Derives.exists_passes {form : Form} {s : Bytes} (h : Derives form s) :
    ∃ k, Passes k form s := by
  induction h with
  | null | true | false =>
    exact ⟨0, passes_zero fun t _ => by simp +decide [skipFront, skipSpace_cons, skipIdent_append]⟩
  | positive hs =>
    obtain ⟨b, r, rfl, -⟩ := hs.exists_cons
    exact ⟨0, passes_zero fun t ht => skipFront_positive hs ht⟩
  | negative hs =>
    exact ⟨0, passes_zero fun t ht => by
      simp +decide [skipFront, skipSpace_cons, skipNumber_append hs ht]⟩
  | string hs =>
    exact ⟨0, passes_zero fun t _ => by
      simp +decide [skipFront, skipSpace_cons, skipString_append hs]⟩
  | @empty a nest ha =>
    refine ⟨0, by simp only [List.length_append, List.length_cons]; omega, fun fuel nests t _ => ?_⟩
    simpa using skipOpen_empty nest ha fuel nests t
  | @full s nest hs ih =>
    obtain ⟨k, hk, hpass⟩ := ih
    refine ⟨k + 1, by simp only [List.length_append, List.length_cons]; omega, ?_⟩
    intro fuel nests t _
    obtain ⟨b, r, hskip, hb⟩ := hs.exists_skipSpace (nest.closer :: t)
    have hfull := skipOpen_full nest hskip hb (fuel + k) nests
    rw [hpass fuel nests t] at hfull
    rw [← hfull, ← Nat.add_assoc]
    simp
  | @last n a v b nest hn ha hb hv ih =>
    obtain ⟨k, hk⟩ := ih
    refine ⟨k + 1, by have := hk.1; simp only [List.length_append]; omega, ?_⟩
    intro fuel nests t
    have hstops : Stops (b ++ nest.closer :: t) :=
      (stops_cons (by cases nest <;> decide) t).append hb
    have hitem := hk.item hn ha (fuel + 1) nests hstops
    rw [skipRest_closer hb] at hitem
    simpa [Nat.add_right_comm, Nat.add_assoc, Nat.add_comm 1] using hitem
  | @more n a v b s nest hn ha hb _ _ ihv ihs =>
    obtain ⟨k, hk⟩ := ihv
    obtain ⟨l, hl, hrest⟩ := ihs
    refine ⟨l + k + 2, ?_, ?_⟩
    · have := hk.1
      simp only [List.length_append, List.length_cons]
      omega
    · intro fuel nests t
      have hstops : Stops (b ++ comma :: (s ++ nest.closer :: t)) :=
        (stops_cons (by decide) _).append hb
      have hitem := hk.item hn ha (fuel + l + 2) nests hstops
      rw [skipRest_comma hb, hrest] at hitem
      rw [← hitem, show fuel + (l + k + 2) + 1 = fuel + l + 2 + k + 1 by omega]
      simp

/-- A value is passed over, whatever follows, as long as that does not go on with a number. -/
theorem skipValue_append {a s t : Bytes} (ha : IsBlank a) (hs : IsValue s) (ht : Stops t) :
    skipValue (a ++ s ++ t) = .ok t := by
  obtain ⟨k, hk, hpass⟩ := hs.exists_passes
  have hfuel : 2 * (a ++ s ++ t).length + 1 = 2 * (a ++ s ++ t).length - k + k + 1 := by
    simp only [List.length_append]
    omega
  rw [skipValue, hfuel, List.append_assoc, skipOpen_append ha, hpass _ _ _ ht, skipRest]

/-! ### What is passed over is derived -/

/-- What ends the arrays and objects that are open, the innermost first: the end of one, or a
further item of it. -/
inductive Closing : List Nest → Bytes → Prop
  | nil : Closing [] []
  | close {b r : Bytes} {nest : Nest} {nests : List Nest} (hb : IsBlank b) :
    Closing nests r → Closing (nest :: nests) (b ++ nest.closer :: r)
  | next {b n a v r : Bytes} {nest : Nest} {nests : List Nest} (hb : IsBlank b)
    (hn : IsName nest n) (ha : IsBlank a) (hv : IsValue v) :
    Closing (nest :: nests) r → Closing (nest :: nests) (b ++ comma :: (n ++ a ++ v ++ r))

/-- What ends the innermost array or object makes items of one, and ends the others. -/
theorem Closing.exists_items {nest : Nest} {nests : List Nest} {c : Bytes}
    (h : Closing (nest :: nests) c) : ∃ w r, Closing nests r ∧ c = w ++ nest.closer :: r ∧
      ∀ n a v, IsName nest n → IsBlank a → IsValue v →
        Derives (.items nest) (n ++ a ++ v ++ w) := by
  generalize hall : nest :: nests = all at h
  induction h with
  | nil => cases hall
  | @close b r _ _ hb hr _ =>
    obtain ⟨rfl, rfl⟩ := List.cons.inj hall
    exact ⟨b, r, hr, rfl, fun n a v hn ha hv => .last hn ha hb hv⟩
  | @next b n a v _ _ _ hb hn ha hv _ ih =>
    obtain ⟨rfl, rfl⟩ := List.cons.inj hall
    obtain ⟨w, r, hr, rfl, hitems⟩ := ih rfl
    refine ⟨b ++ comma :: (n ++ a ++ v ++ w), r, hr, by simp, ?_⟩
    intro n' a' v' hn' ha' hv'
    simpa using Derives.more hn' ha' hb hv' (hitems n a v hn ha hv)

/-- Blanks in front of an item are part of it. -/
theorem IsName.exists_append {nest : Nest} {b n a : Bytes} (hb : IsBlank b) (hn : IsName nest n)
    (ha : IsBlank a) : ∃ n' a', IsName nest n' ∧ IsBlank a' ∧ b ++ n ++ a = n' ++ a' := by
  cases hn with
  | list => exact ⟨[], b ++ a, .list, hb.append ha, by simp⟩
  | object hc hm hd => exact ⟨_, a, .object (hb.append hc) hm hd, ha, by simp⟩

/-- What is passed over as the front of a text is a value, or the opening of one. -/
def Front.Reads (s : Bytes) : Front → Prop
  | .whole r => ∃ v, IsValue v ∧ s = v ++ r
  | .opened nest r => s = nest.opener :: r

/-- What is passed over as the front of a text is one. -/
theorem exists_of_skipFront {s : Bytes} {front : Front} (h : skipFront s = .ok front) :
    ∃ a u, IsBlank a ∧ front.Reads u ∧ s = a ++ u := by
  obtain ⟨a, ha, hs⟩ := exists_eq_append_skipSpace s
  refine ⟨a, skipSpace s, ha, ?_, hs⟩
  have whole {x : Except Fault Bytes} (hx : Front.whole <$> x = .ok front)
      (hread : ∀ r, x = .ok r → ∃ v, IsValue v ∧ skipSpace s = v ++ r) :
      front.Reads (skipSpace s) := by
    cases x with
    | error _ => cases hx
    | ok r =>
      obtain rfl := Except.ok.inj hx
      exact hread r rfl
  unfold skipFront at h
  split at h
  · cases h
  · next b rest hb =>
    split_ifs at h with h₁ h₂ h₃ h₄ h₅ h₆ h₇ h₈
    · exact whole h fun r hr => ⟨_, .null, by rw [hb, h₁, eq_append_of_skipIdent hr]; rfl⟩
    · exact whole h fun r hr => ⟨_, .true, by rw [hb, h₂, eq_append_of_skipIdent hr]; rfl⟩
    · exact whole h fun r hr => ⟨_, .false, by rw [hb, h₃, eq_append_of_skipIdent hr]; rfl⟩
    · apply whole h
      intro r hr
      obtain ⟨u, hu, hrest⟩ := exists_of_skipNumber hr
      exact ⟨_, .negative hu, by rw [hb, h₄, hrest]; rfl⟩
    · apply whole h
      intro r hr
      obtain ⟨u, hu, hrest⟩ := exists_of_skipNumber hr
      exact ⟨_, .positive hu, by rw [hb, hrest]⟩
    · apply whole h
      intro r hr
      obtain ⟨n, hn, hrest⟩ := exists_of_skipString hr
      exact ⟨_, .string hn, by rw [hb, h₆, hrest]; simp⟩
    · obtain rfl := Except.ok.inj h
      rw [hb, h₇]
      rfl
    · obtain rfl := Except.ok.inj h
      rw [hb, h₈]
      rfl

/-- A value and what ends all that is open around it. -/
def Reads (nests : List Nest) (s t : Bytes) : Prop :=
  ∃ a v c, IsBlank a ∧ IsValue v ∧ Closing nests c ∧ s = a ++ v ++ c ++ t

/-- Items and what ends all that is open around them are a value and what ends the rest. -/
theorem Reads.of_items {nest : Nest} {nests : List Nest} {a n s t : Bytes} (hn : IsName nest n)
    (ha : IsBlank a) (h : Reads (nest :: nests) s t) :
    ∃ v c, IsValue v ∧ Closing nests c ∧ nest.opener :: (a ++ (n ++ s)) = v ++ c ++ t := by
  obtain ⟨b, v, c, hb, hv, hc, rfl⟩ := h
  obtain ⟨w, r, hr, rfl, hitems⟩ := hc.exists_items
  obtain ⟨n', a', hn', ha', heq⟩ := hn.exists_append ha hb
  refine ⟨_, r, .full nest (hitems n' a' v hn' ha' hv), hr, ?_⟩
  rw [← heq]
  simp

/-- What is passed over as a value, or behind one, is derived. -/
theorem reads_of_skip (fuel : Nat) : ∀ nests s t,
    (skipOpen fuel nests s = .ok t → Reads nests s t) ∧
      (skipRest fuel nests s = .ok t → ∃ c, Closing nests c ∧ s = c ++ t) := by
  induction fuel with
  | zero =>
    intro nests s t
    constructor
    · intro h
      cases h
    · intro h
      cases nests with
      | nil => exact ⟨[], .nil, Except.ok.inj h⟩
      | cons _ _ => cases h
  | succ fuel ih =>
    intro nests s t
    refine ⟨fun h => ?_, fun h => ?_⟩
    · cases hfront : skipFront s with
      | error _ => simp [skipOpen, hfront, bind, Except.bind] at h
      | ok front =>
        obtain ⟨a, u, ha, hread, rfl⟩ := exists_of_skipFront hfront
        cases front with
        | whole r =>
          obtain ⟨v, hv, rfl⟩ := hread
          rw [skipOpen_of_whole hfront] at h
          obtain ⟨c, hc, rfl⟩ := (ih nests r t).2 h
          exact ⟨a, v, c, ha, hv, hc, by simp⟩
        | opened nest r =>
          obtain rfl : u = nest.opener :: r := hread
          obtain ⟨b, hb, hr⟩ := exists_eq_append_skipSpace r
          simp only [skipOpen, hfront, bind, Except.bind] at h
          split at h
          · cases h
          · next d tail htail =>
            rw [htail] at hr
            split_ifs at h with hd
            · obtain ⟨c, hc, rfl⟩ := (ih nests tail t).2 h
              exact ⟨a, _, c, ha, .empty nest hb, hc, by rw [hr, hd]; simp⟩
            · split at h
              · cases h
              · next s' hs' =>
                obtain ⟨n, hn, hname⟩ := exists_of_skipName hs'
                obtain ⟨v, c, hv, hc, heq⟩ := ((ih _ s' t).1 h).of_items hn hb
                exact ⟨a, v, c, ha, hv, hc, by rw [hr, hname, heq]; simp⟩
    · cases nests with
      | nil =>
        unfold skipRest at h
        exact ⟨[], .nil, Except.ok.inj h⟩
      | cons nest nests =>
        obtain ⟨b, hb, hs⟩ := exists_eq_append_skipSpace s
        simp only [skipRest] at h
        split at h
        · cases h
        · next d tail htail =>
          rw [htail] at hs
          split_ifs at h with hcomma hcloser
          · simp only [bind, Except.bind] at h
            split at h
            · cases h
            · next s' hs' =>
              obtain ⟨n, hn, hname⟩ := exists_of_skipName hs'
              obtain ⟨a, v, c, ha, hv, hc, rfl⟩ := (ih _ s' t).1 h
              exact ⟨_, .next hb hn ha hv hc, by rw [hs, hcomma, hname]; simp⟩
          · obtain ⟨c, hc, rfl⟩ := (ih nests tail t).2 h
            exact ⟨_, .close hb hc, by rw [hs, hcloser]; simp⟩

/-- What is passed over as a value is blanks and one value. -/
theorem exists_of_skipValue {s t : Bytes} (h : skipValue s = .ok t) :
    ∃ a v, IsBlank a ∧ IsValue v ∧ s = a ++ v ++ t := by
  obtain ⟨a, v, c, ha, hv, hc, rfl⟩ := (reads_of_skip _ [] s t).1 h
  cases hc
  exact ⟨a, v, ha, hv, by simp⟩

/-! ### A whole text -/

/-- What is cut out as a value is one, with blanks in front of it. -/
theorem exists_of_captureValue {s v t : Bytes} (h : captureValue s = .ok (v, t)) :
    ∃ a, IsBlank a ∧ IsValue v ∧ Utf8.isValid v = true ∧ s = a ++ v ++ t := by
  obtain ⟨a, ha, hs⟩ := exists_eq_append_skipSpace s
  simp only [captureValue, bind, Except.bind] at h
  split at h
  · cases h
  · next r hr =>
    obtain ⟨b, u, hb, hu, heq⟩ := exists_of_skipValue hr
    have hbnil : b = [] := by
      cases b with
      | nil => rfl
      | cons d b =>
        have := isSpace_of_skipSpace (s := s) (b := d) (by rw [heq]; rfl)
        rw [hb d List.mem_cons_self] at this
        cases this
    have htake : (skipSpace s).take ((skipSpace s).length - r.length) = u := by
      simp [heq, hbnil]
    rw [htake] at h
    split_ifs at h with hvalid
    obtain ⟨rfl, rfl⟩ := Prod.mk.inj (Except.ok.inj h)
    exact ⟨a, ha, hu, hvalid, by rw [hs, heq, hbnil]; simp⟩

/-- A value is cut out of a text, whatever follows, as long as that does not go on with a
number. -/
theorem captureValue_append {a v t : Bytes} (ha : IsBlank a) (hv : IsValue v)
    (hu : Utf8.isValid v = true) (ht : Stops t) : captureValue (a ++ v ++ t) = .ok (v, t) := by
  have hskip : skipValue (v ++ t) = .ok t := skipValue_append (a := []) isBlank_nil hv ht
  rw [captureValue, skipSpace_append_value ha hv, hskip]
  simp [bind, Except.bind, hu, pure, Except.pure]

/-- Nothing but blanks may follow a value. -/
theorem isOk_endText {s : Bytes} : (endText s).isOk = true ↔ IsBlank s := by
  obtain ⟨a, ha, hs⟩ := exists_eq_append_skipSpace s
  unfold endText
  split
  · next h =>
    rw [h, List.append_nil] at hs
    exact iff_of_true rfl (hs ▸ ha)
  · next b r h =>
    apply iff_of_false (by simp [Except.isOk, Except.toBool])
    intro hblank
    have hb : isSpace b = true := hblank b (by rw [hs, h]; simp)
    rw [isSpace_of_skipSpace h] at hb
    cases hb

/-- A text is JSON when it is a value of well-formed text with blanks around it. -/
theorem isJson_iff {s : Bytes} : isJson s = true ↔
    ∃ a v b, IsBlank a ∧ IsValue v ∧ IsBlank b ∧ Utf8.isValid v = true ∧ s = a ++ v ++ b := by
  constructor
  · intro h
    unfold isJson at h
    split at h
    · next v r hcapture =>
      obtain ⟨a, ha, hv, hu, rfl⟩ := exists_of_captureValue hcapture
      exact ⟨a, v, r, ha, hv, isOk_endText.mp h, hu, rfl⟩
    · cases h
  · rintro ⟨a, v, b, ha, hv, hb, hu, rfl⟩
    have hstops : Stops b := by simpa using stops_nil.append hb
    rw [isJson, captureValue_append ha hv hu hstops]
    exact isOk_endText.mpr hb

end Switchboard.Json
