import Switchboard.Proofs.Json.Members
import Switchboard.Envelope.Decoder
/-!
# Which frames are envelopes

An envelope is a frame that is one object in which a member `channel` is there once and a member
`payload` at most once. Such a frame is decoded whatever its other members are, in whatever order
the members stand and whatever blanks stand between them (`decode_of_isObject`).

Conversely, a frame that is decoded is such an object, and the payload is its member's text
(`decode_spec`). Only of the channel more can be said to be read: besides strings, it takes objects
whose one member is named `rawToken` and holds the text of a string, to any depth. `Stands` is that
relation.
-/

namespace Switchboard.Envelope

open Json Ascii

/-! ### Frames without blanks at their ends -/

/-- Newlines may be turned into spaces before or after the blanks at the ends are taken off. -/
theorem normalize_eq (raw : Bytes) : normalize raw = oneLine (Bytes.trim raw) := by
  have hblank : (isBlank ∘ fun b => if b = newline then space else b) = isBlank := by
    funext b
    by_cases h : b = newline
    · simp +decide [h]
    · simp [h]
  change Bytes.trim (oneLine raw) = _
  unfold Bytes.trim Bytes.trimStart oneLine
  rw [List.dropWhile_map, hblank, ← List.map_reverse, List.dropWhile_map, hblank,
    ← List.map_reverse]

/-- No newline is left in a frame. -/
theorem ne_newline_of_mem_normalize {raw : Bytes} {b : UInt8} (h : b ∈ normalize raw) :
    b ≠ newline := by
  have hmem : b ∈ oneLine raw := by
    have := List.mem_reverse.mp h
    have := (List.dropWhile_suffix _).subset this
    exact (List.dropWhile_suffix _).subset (List.mem_reverse.mp this)
  exact ne_newline_of_mem_oneLine hmem

/-- A frame does not get longer. -/
theorem length_normalize_le (raw : Bytes) : (normalize raw).length ≤ raw.length := by
  rw [normalize_eq, oneLine, List.length_map, Bytes.trim, List.length_reverse]
  refine (List.dropWhile_suffix _).length_le.trans ?_
  rw [List.length_reverse]
  exact (List.dropWhile_suffix _).length_le

/-- A frame ends with no blank. -/
theorem isBlank_of_normalize_eq {raw r : Bytes} {b : UInt8} (h : normalize raw = r ++ [b]) :
    isBlank b = false := by
  unfold normalize Bytes.trim at h
  rw [List.reverse_eq_iff, List.reverse_append, List.reverse_singleton, List.singleton_append] at h
  have := List.head?_dropWhile_not isBlank (Bytes.trimStart
    (raw.map fun b => if b = newline then space else b)).reverse
  simpa [h] using this

/-- A frame that is an object up to blanks is an object. -/
theorem eq_nil_of_normalize_eq {raw r b : Bytes} (h : normalize raw = r ++ b) (hb : IsBlank b) :
    b = [] := by
  rcases List.eq_nil_or_concat' b with rfl | ⟨c, x, rfl⟩
  · rfl
  · have hx : isBlank x = false :=
      isBlank_of_normalize_eq (r := r ++ c) (by rw [h, List.append_assoc])
    have hspace : isSpace x = true := hb x (by simp)
    simp only [isSpace, Bool.or_eq_true, decide_eq_true_eq] at hspace
    rcases hspace with ((rfl | rfl) | rfl) | rfl <;> cases hx

/-! ### Payloads -/

/-- The only value that begins like `null` is `null`. -/
theorem eq_nullText {v : Bytes} (hv : IsValue v) {r : Bytes} (h : v = 0x6E :: r) :
    v = nullText := by
  have digit {u : Bytes} (hu : IsUnsigned u) : u ≠ 0x6E :: r := by
    rintro rfl
    obtain ⟨b, s, hs, hb⟩ := hu.exists_cons
    obtain ⟨rfl, -⟩ := List.cons.inj hs
    exact absurd hb (by decide)
  cases hv with
  | null => decide
  | true | false | negative _ => exact absurd (List.cons.inj h).1 (by decide)
  | string _ => exact absurd (List.cons.inj h).1 (by decide)
  | positive hs => exact absurd h (digit hs)
  | empty nest _ => cases nest <;> exact absurd (List.cons.inj h).1 (by decide)
  | full nest _ => cases nest <;> exact absurd (List.cons.inj h).1 (by decide)

/-- A payload as it is read behind its name. -/
def payloadOf (v : Bytes) : Option Bytes := if v = nullText then none else some v

/-- A missing payload and one that is `null` are `null`. -/
theorem payloadOf_getD (v : Bytes) : (payloadOf v).getD nullText = v := by
  unfold payloadOf
  split_ifs with h
  · exact h.symm
  · rfl

/-- A payload is read behind its name, whatever follows, as long as that does not go on with a
number. -/
theorem readPayload_append {b a v t : Bytes} (hb : IsBlank b) (ha : IsBlank a) (hv : IsValue v)
    (hu : Utf8.isValid v = true) (ht : Stops t) :
    readPayload (b ++ colon :: (a ++ v ++ t)) = .ok (payloadOf v, t) := by
  obtain ⟨c, r, hr, hc, -⟩ := hv.exists_cons
  have hspace : skipSpace (a ++ v ++ t) = c :: (r ++ t) := hr ▸ skipSpace_append_cons ha hc r t
  simp only [readPayload, skipColon_append hb, bind, Except.bind, hspace]
  by_cases hn : c = 0x6E
  · have hnull := eq_nullText hv (hn ▸ hr)
    have hident : r = nullTail := by
      have : c :: r = 0x6E :: nullTail := hr.symm.trans (hnull.trans (by decide))
      exact (List.cons.inj this).2
    simp [hn, hident, skipIdent_append, payloadOf, hnull, pure, Except.pure]
  · have hne : v ≠ nullText := by
      rintro rfl
      exact hn (List.cons.inj (hr.symm.trans (show nullText = 0x6E :: nullTail by decide))).1
    have hcapture : captureValue (c :: (r ++ t)) = .ok (v, t) := by
      have := captureValue_append isBlank_nil hv hu ht
      rw [List.nil_append, hr] at this
      rw [hr]
      exact this
    simp [hn, hcapture, payloadOf, hne, pure, Except.pure]

/-- What is read as a payload behind its name is the text of a value. -/
theorem exists_of_readPayload {s r : Bytes} {payload : Option Bytes}
    (h : readPayload s = .ok (payload, r)) :
    ∃ b a v, IsBlank b ∧ IsBlank a ∧ IsValue v ∧ Utf8.isValid v = true ∧
      s = b ++ colon :: (a ++ v ++ r) ∧ payload = payloadOf v := by
  obtain ⟨t, hcolon, hread⟩ := bind_eq_ok.mp h
  obtain ⟨b, hb, rfl⟩ := exists_of_skipColon hcolon
  obtain ⟨a, ha, ht⟩ := exists_eq_append_skipSpace t
  split at hread
  · cases hread
  · next c u hu =>
    split_ifs at hread with hc
    · obtain ⟨r', hident, hread⟩ := bind_eq_ok.mp hread
      obtain ⟨rfl, rfl⟩ := Prod.mk.inj (Except.ok.inj hread)
      refine ⟨b, a, nullText, hb, ha, .null, by decide, ?_, rfl⟩
      rw [ht, hu, hc, eq_append_of_skipIdent hident]
      simp [show nullText = 0x6E :: nullTail by decide]
    · obtain ⟨⟨v, r'⟩, hcapture, hread⟩ := bind_eq_ok.mp hread
      obtain ⟨rfl, rfl⟩ := Prod.mk.inj (Except.ok.inj hread)
      obtain ⟨d, hd, hv, hvalid, hcu⟩ := exists_of_captureValue hcapture
      have hne : v ≠ nullText := by
        rintro rfl
        -- the value begins where the blanks end, with a byte that does not begin `null`
        have hspace : isSpace c = false := isSpace_of_skipSpace hu
        cases d with
        | nil => exact hc (List.cons.inj hcu).1
        | cons x d =>
          obtain ⟨rfl, -⟩ := List.cons.inj hcu
          exact absurd (hd c List.mem_cons_self) (by simp [hspace])
      refine ⟨b, a ++ d, v, hb, ha.append hd, hv, hvalid, ?_, by rw [payloadOf, if_neg hne]⟩
      rw [ht, hu, hcu]
      simp

/-! ### Labels -/

/-- The texts that are read as a label: those of strings, and those of objects whose one member is
named `rawToken` and holds such a text, with blanks around it, as a string. -/
inductive Stands : Bytes → String → Prop
  | text {v : Bytes} {c : String} (h : IsText v c) : Stands v c
  | quoted {v q a u b : Bytes} {text c : String} (hv : IsObject [(rawToken, q)] v)
    (hq : IsText q text) (ha : IsBlank a) (hb : IsBlank b)
    (htext : Utf8.encode text = a ++ u ++ b) : Stands u c → Stands v c

/-- The text of a string is read as it, whatever follows. -/
theorem readValue_append {v : Bytes} {c : String} (h : IsText v c) (depth : Nat) {a : Bytes}
    (ha : IsBlank a) (t : Bytes) : readValue depth (a ++ v ++ t) = .ok (.string c, t) := by
  obtain ⟨n, hn, rfl⟩ := h
  unfold readValue readValueFrom
  rw [skipSpace_append_string ha]
  simp +decide [readString_append hn, bind, Except.bind, pure, Except.pure]

/-- Behind its first member an object is read as an object. -/
theorem exists_of_readMembers {fuel depth : Nat} {members : Members} {s r : Bytes} {x : Value}
    (h : readMembers fuel depth members s = .ok (x, r)) : ∃ ms, x = .object ms := by
  induction fuel generalizing members s with
  | zero => simp [readMembers] at h
  | succ fuel ih =>
    unfold readMembers at h
    obtain ⟨next, -, hread⟩ := bind_eq_ok.mp h
    cases next with
    | none => exact ⟨members, (Prod.mk.inj (Except.ok.inj hread)).1.symm⟩
    | some u =>
      obtain ⟨⟨name, t⟩, -, hread⟩ := bind_eq_ok.mp hread
      obtain ⟨p, -, hread⟩ := bind_eq_ok.mp hread
      obtain ⟨⟨y, q⟩, -, hread⟩ := bind_eq_ok.mp hread
      exact ih hread

/-- An object that is read as a string holds the text of the value in its one member. -/
theorem exists_of_readObject {fuel depth : Nat} {s r : Bytes} {c : String}
    (h : readObject fuel depth s = .ok (.string c, r)) :
    ∃ q w text tail k, k < fuel ∧ HasMembers true [(rawToken, q)] w ∧ IsText q text ∧
      s = w ++ r ∧ readValueFrom k maxDepth (Utf8.encode text) = .ok (.string c, tail) ∧
      IsBlank tail := by
  cases fuel with
  | zero => simp [readObject] at h
  | succ fuel =>
    unfold readObject at h
    obtain ⟨next, hnext, hread⟩ := bind_eq_ok.mp h
    cases next with
    | none => cases (Prod.mk.inj (Except.ok.inj hread)).1
    | some u =>
      obtain ⟨⟨name, t⟩, hname, hread⟩ := bind_eq_ok.mp hread
      obtain ⟨p, hcolon, hread⟩ := bind_eq_ok.mp hread
      simp only at hread
      split_ifs at hread with hraw
      · cases fuel with
        | zero => simp [readQuoted] at hread
        | succ fuel =>
          unfold readQuoted at hread
          obtain ⟨⟨text, rest⟩, hstring, hread⟩ := bind_eq_ok.mp hread
          simp only at hread
          split at hread
          · cases hread
          · next x tail hvalue =>
            split at hread
            · cases hread
            · next hend =>
              obtain ⟨rfl, rfl⟩ := Prod.mk.inj (Except.ok.inj hread)
              obtain ⟨l, hl, hs⟩ := exists_of_nextMember hnext
              obtain ⟨n, hn, hu⟩ := spells_of_readString hname
              obtain ⟨b, hb, ht⟩ := exists_of_skipColon hcolon
              obtain ⟨a, q, ha, hq, hp⟩ := exists_of_expectString hstring
              refine ⟨q, _, text, tail, fuel, by omega, .cons hl (hraw ▸ hn) hb ha hq.isValue
                (.nil false), hq, ?_, hvalue, isOk_endText.mp (by rw [hend]; rfl)⟩
              rw [hs, hu, ht, hp]
              simp
      · obtain ⟨⟨x, q⟩, -, hread⟩ := bind_eq_ok.mp hread
        obtain ⟨ms, hms⟩ := exists_of_readMembers hread
        cases hms

/-- A value that is read as a string stands for it. -/
theorem stands_of_readValueFrom {fuel depth : Nat} {a v r : Bytes} {c : String} (ha : IsBlank a)
    (hv : IsValue v) (h : readValueFrom fuel depth (a ++ v ++ r) = .ok (.string c, r)) :
    Stands v c := by
  induction fuel using Nat.strong_induction_on generalizing depth a v r with
  | _ fuel ih =>
    obtain ⟨b, u, rfl, hb, -⟩ := hv.exists_cons
    cases fuel with
    | zero => simp [readValueFrom] at h
    | succ fuel =>
      unfold readValueFrom at h
      rw [skipSpace_append_cons ha hb] at h
      simp only at h
      split_ifs at h with h₁ h₂ h₃ h₄ h₅ h₆ h₇ hdepth h₈ hdepth
      · obtain ⟨t, -, hread⟩ := bind_eq_ok.mp h
        cases (Prod.mk.inj (Except.ok.inj hread)).1
      · obtain ⟨t, -, hread⟩ := bind_eq_ok.mp h
        cases (Prod.mk.inj (Except.ok.inj hread)).1
      · obtain ⟨t, -, hread⟩ := bind_eq_ok.mp h
        cases (Prod.mk.inj (Except.ok.inj hread)).1
      · obtain ⟨t, -, hread⟩ := bind_eq_ok.mp h
        cases (Prod.mk.inj (Except.ok.inj hread)).1
      · obtain ⟨t, -, hread⟩ := bind_eq_ok.mp h
        cases (Prod.mk.inj (Except.ok.inj hread)).1
      · -- a string
        obtain ⟨⟨text, t⟩, hstring, hread⟩ := bind_eq_ok.mp h
        obtain ⟨htext, rfl⟩ := Prod.mk.inj (Except.ok.inj hread)
        obtain rfl := Value.string.inj htext
        obtain ⟨n, hn, hu⟩ := spells_of_readString hstring
        have : u = n ++ [quote] := List.append_cancel_right (hu.trans (by simp))
        exact .text ⟨n, hn, by rw [h₆, this]; rfl⟩
      · obtain ⟨⟨vs, t⟩, -, hread⟩ := bind_eq_ok.mp h
        obtain ⟨t', -, hread⟩ := bind_eq_ok.mp hread
        cases (Prod.mk.inj (Except.ok.inj hread)).1
      · -- an object in place of a string
        obtain ⟨⟨x, t⟩, hobject, hread⟩ := bind_eq_ok.mp h
        obtain ⟨t', hend, hread⟩ := bind_eq_ok.mp hread
        obtain ⟨rfl, rfl⟩ := Prod.mk.inj (Except.ok.inj hread)
        obtain ⟨q, w, text, tail, k, hk, hw, hq, hu, hinner, htail⟩ := exists_of_readObject hobject
        obtain ⟨d, hd, ht⟩ : ∃ d, IsBlank d ∧ t = d ++ closeBrace :: t' :=
          exists_of_endObject hend
        obtain ⟨a', v', ha', hv', hencode⟩ := (readsWithin k).value hinner
        have hrest : u = w ++ d ++ [closeBrace] :=
          List.append_cancel_right (hu.trans (by rw [ht]; simp))
        refine .quoted ⟨w, d, hw, hd, by rw [h₈, hrest]; rfl⟩ hq ha' htail hencode ?_
        exact ih k (by omega) ha' hv' (hencode ▸ hinner)

/-- A value that begins as a string is read as one. -/
theorem exists_of_readValue_quote {depth : Nat} {a v r : Bytes} {x : Value} (ha : IsBlank a)
    (h : readValue depth (a ++ quote :: v ++ r) = .ok (x, r)) : ∃ c, x = .string c := by
  unfold readValue readValueFrom at h
  rw [skipSpace_append_cons ha rfl] at h
  simp +decide only [if_true, if_false] at h
  obtain ⟨⟨text, t⟩, -, hread⟩ := bind_eq_ok.mp h
  exact ⟨text, (Prod.mk.inj (Except.ok.inj hread)).1.symm⟩

/-- What can be said of a channel's text from the value it is read as. -/
structure Reads (v : Bytes) (x : Value) : Prop where
  stands {c : String} : x = .string c → Stands v c
  isString : v.head? = some quote → ∃ c, x = .string c

/-- What is read as a value is the text of one, and of a string's what it stands for is read. -/
theorem reads_of_readValue {depth : Nat} {s r : Bytes} {x : Value}
    (h : readValue depth s = .ok (x, r)) :
    ∃ a v, IsBlank a ∧ IsValue v ∧ s = a ++ v ++ r ∧ Reads v x := by
  obtain ⟨a, v, ha, hv, rfl⟩ := exists_of_readValue h
  refine ⟨a, v, ha, hv, rfl, ⟨?_, ?_⟩⟩
  · rintro c rfl
    exact stands_of_readValueFrom ha hv h
  · intro hhead
    obtain ⟨t, rfl⟩ := List.head?_eq_some_iff.mp hhead
    exact exists_of_readValue_quote ha h

/-! ### Members -/

/-- What a member adds to what has been read, when a channel's text is related to its value. -/
inductive Adds (channel : Bytes → Value → Prop) : String → Bytes → Parts → Parts → Prop
  | channel {name : String} {v : Bytes} {x : Value} {payload : Option (Option Bytes)}
    (hc : name = "channel") (hv : channel v x) :
    Adds channel name v ⟨none, payload⟩ ⟨some x, payload⟩
  | payload {name : String} {v : Bytes} {x : Option Value} (hp : name = "payload")
    (hv : Utf8.isValid v = true) : Adds channel name v ⟨x, none⟩ ⟨x, some (payloadOf v)⟩
  | other {name : String} {v : Bytes} {parts : Parts} (hc : name ≠ "channel")
    (hp : name ≠ "payload") : Adds channel name v parts parts

/-- A place that is empty or taken, the texts that come for it, and what it holds behind them. It
takes one text, when it is empty, and no other. -/
def Fills {α : Type} (rel : Bytes → α → Prop) : Option α → List Bytes → Option α → Prop
  | x, [], y => x = y
  | none, v :: vs, y => ∃ z, rel v z ∧ Fills rel (some z) vs y
  | some _, _ :: _, _ => False

/-- An empty place is left empty or takes the one text that comes. -/
theorem fills_none_iff {α : Type} {rel : Bytes → α → Prop} {vs : List Bytes} {y : Option α} :
    Fills rel none vs y ↔ (vs = [] ∧ y = none) ∨ ∃ v z, vs = [v] ∧ rel v z ∧ y = some z := by
  rcases vs with _ | ⟨v, _ | ⟨u, vs⟩⟩
  · simp [Fills, eq_comm]
  · simp [Fills, eq_comm]
  · simp [Fills]

/-- What can be said of a payload's text from what it is read as. -/
def IsPart (v : Bytes) (p : Option Bytes) : Prop := p = payloadOf v ∧ Utf8.isValid v = true

/-- The members of an object fill the two places. -/
theorem takes_adds_iff {channel : Bytes → Value → Prop} {ms : TextMembers} {parts last : Parts} :
    Takes (Adds channel) ms parts last ↔
      Fills channel parts.channel (valuesOf "channel" ms) last.channel ∧
        Fills IsPart parts.payload (valuesOf "payload" ms) last.payload := by
  obtain ⟨x', p'⟩ := last
  induction ms generalizing parts with
  | nil =>
    obtain ⟨x, p⟩ := parts
    constructor
    · rintro ⟨⟩
      exact ⟨rfl, rfl⟩
    · rintro ⟨rfl, rfl⟩
      exact .nil _
  | cons m ms ih =>
    obtain ⟨name, v⟩ := m
    obtain ⟨x, p⟩ := parts
    have hcons : Takes (Adds channel) ((name, v) :: ms) ⟨x, p⟩ ⟨x', p'⟩ ↔
        ∃ next, Adds channel name v ⟨x, p⟩ next ∧ Takes (Adds channel) ms next ⟨x', p'⟩ := by
      constructor
      · rintro (_ | ⟨hstep, hrest⟩)
        exact ⟨_, hstep, hrest⟩
      · rintro ⟨_, hstep, hrest⟩
        exact .cons hstep hrest
    rw [hcons]
    by_cases hc : name = "channel"
    · rw [hc, valuesOf_cons_self, valuesOf_cons_of_ne (by decide)]
      constructor
      · rintro ⟨next, hstep, hrest⟩
        cases hstep with
        | channel _ hv => exact ⟨⟨_, hv, (ih.mp hrest).1⟩, (ih.mp hrest).2⟩
        | payload hp => exact absurd hp (by decide)
        | other hc => exact absurd rfl hc
      · rintro ⟨hchannel, hpayload⟩
        cases x with
        | some _ => exact hchannel.elim
        | none =>
          obtain ⟨z, hv, hchannel⟩ := hchannel
          exact ⟨_, .channel rfl hv, ih.mpr ⟨hchannel, hpayload⟩⟩
    · by_cases hp : name = "payload"
      · rw [hp, valuesOf_cons_self, valuesOf_cons_of_ne (by decide)]
        constructor
        · rintro ⟨next, hstep, hrest⟩
          cases hstep with
          | channel hc => exact absurd hc (by decide)
          | payload _ hv => exact ⟨(ih.mp hrest).1, _, ⟨rfl, hv⟩, (ih.mp hrest).2⟩
          | other _ hp => exact absurd rfl hp
        · rintro ⟨hchannel, hpayload⟩
          cases p with
          | some _ => exact hpayload.elim
          | none =>
            obtain ⟨z, ⟨rfl, hv⟩, hpayload⟩ := hpayload
            exact ⟨_, .payload rfl hv, ih.mpr ⟨hchannel, hpayload⟩⟩
      · rw [valuesOf_cons_of_ne hc, valuesOf_cons_of_ne hp]
        constructor
        · rintro ⟨next, hstep, hrest⟩
          cases hstep with
          | channel hc' => exact absurd hc' hc
          | payload hp' => exact absurd hp' hp
          | other => exact ih.mp hrest
        · intro h
          exact ⟨_, .other hc hp, ih.mpr h⟩

/-- A channel's text that is that of a string. -/
def SaysText (v : Bytes) (x : Value) : Prop := ∃ c, x = .string c ∧ IsText v c

/-- A member is read whatever follows it. -/
theorem readsAll_readMember : ReadsAll readMember (Adds SaysText) := by
  intro name parts next b a v t hadds hb ha hv ht
  cases hadds with
  | channel hname hx =>
    obtain ⟨c, rfl, hc⟩ := hx
    rw [readMember, if_pos hname]
    simp only [skipColon_append hb, readValue_append hc _ ha, bind, Except.bind, pure, Except.pure]
  | payload hname hu =>
    rw [readMember, if_neg (by rw [hname]; decide), if_pos hname]
    simp only [readPayload_append hb ha hv hu ht, bind, Except.bind, pure, Except.pure]
  | other hc hp =>
    rw [readMember, if_neg hc, if_neg hp]
    simp only [skipMember, skipColon_append hb, skipValue_append ha hv ht, bind, Except.bind, pure,
      Except.pure]

/-- What is read as a member is one. -/
theorem readsOnly_readMember : ReadsOnly readMember (Adds Reads) := by
  intro name parts next s r h
  obtain ⟨x, p⟩ := parts
  unfold readMember at h
  split_ifs at h with hc hp
  · cases x with
    | some _ => cases h
    | none =>
      obtain ⟨t, hcolon, hread⟩ := bind_eq_ok.mp h
      obtain ⟨⟨x, r'⟩, hvalue, hread⟩ := bind_eq_ok.mp hread
      obtain ⟨rfl, rfl⟩ := Prod.mk.inj (Except.ok.inj hread)
      obtain ⟨b, hb, rfl⟩ := exists_of_skipColon hcolon
      obtain ⟨a, v, ha, hv, rfl, hreads⟩ := reads_of_readValue hvalue
      exact ⟨b, a, v, hb, ha, hv, rfl, .channel hc hreads⟩
  · cases p with
    | some _ => cases h
    | none =>
      obtain ⟨⟨p, r'⟩, hpayload, hread⟩ := bind_eq_ok.mp h
      obtain ⟨rfl, rfl⟩ := Prod.mk.inj (Except.ok.inj hread)
      obtain ⟨b, a, v, hb, ha, hv, hvalid, rfl, rfl⟩ := exists_of_readPayload hpayload
      exact ⟨b, a, v, hb, ha, hv, rfl, .payload hp hvalid⟩
  · obtain ⟨r', hskip, hread⟩ := bind_eq_ok.mp h
    obtain ⟨rfl, rfl⟩ := Prod.mk.inj (Except.ok.inj hread)
    obtain ⟨t, hcolon, hvalue⟩ := bind_eq_ok.mp hskip
    obtain ⟨b, hb, rfl⟩ := exists_of_skipColon hcolon
    obtain ⟨a, v, ha, hv, rfl⟩ := exists_of_skipValue hvalue
    exact ⟨b, a, v, hb, ha, hv, rfl, .other hc hp⟩

/-! ### Objects -/

/-- The members of an object fill the parts of an envelope. -/
def Gives (channel : Bytes → Value → Prop) (ms : TextMembers) (parts : Parts) : Prop :=
  Fills channel none (valuesOf "channel" ms) parts.channel ∧
    Fills IsPart none (valuesOf "payload" ms) parts.payload

/-- An object is read behind its brace. -/
theorem readParts_of_isObject {ms : TextMembers} {s : Bytes} {parts : Parts}
    (h : IsObject ms (openBrace :: s)) (hgives : Gives SaysText ms parts) :
    readParts s = .ok parts := by
  obtain ⟨w, b, hw, hb, hs⟩ := h
  obtain rfl : s = w ++ (b ++ [closeBrace]) := by simpa using hs
  have htakes : Takes (Adds SaysText) ms ⟨none, none⟩ parts := takes_adds_iff.mpr hgives
  have hfold := foldMembers_append readsAll_readMember hw htakes hb []
    (hw.length_lt (b ++ [closeBrace]))
  rw [readParts]
  simp only [hfold, bind, Except.bind, endObject_append hb, endText, skipSpace, List.dropWhile_nil,
    pure, Except.pure]

/-- What is read behind a brace up to the end of the text is an object up to blanks. -/
theorem exists_of_readParts {s : Bytes} {parts : Parts} (h : readParts s = .ok parts) :
    ∃ ms t b, IsObject ms t ∧ IsBlank b ∧ openBrace :: s = t ++ b ∧ Gives Reads ms parts := by
  obtain ⟨⟨parts', r⟩, hfold, hread⟩ := bind_eq_ok.mp h
  obtain ⟨t, hend, hread⟩ := bind_eq_ok.mp hread
  obtain ⟨u, htext, hread⟩ := bind_eq_ok.mp hread
  obtain rfl := Except.ok.inj hread
  obtain ⟨ms, w, hw, htakes, rfl⟩ := exists_of_foldMembers readsOnly_readMember hfold
  obtain ⟨b, hb, rfl⟩ := exists_of_endObject hend
  have hblank : IsBlank t := isOk_endText.mp (by rw [htext]; rfl)
  exact ⟨ms, _, t, ⟨w, b, hw, hb, rfl⟩, hblank, by simp, takes_adds_iff.mp htakes⟩

/-! ### Frames -/

/-- A frame is decoded from what its members make. -/
theorem decode_of_readParts {raw s : Bytes} {parts : Parts} (h : normalize raw = openBrace :: s)
    (hparts : readParts s = .ok parts) : decode raw = ofParts parts := by
  simp [decode, h, hparts]

/-- A frame that begins with a brace and cannot be read is rejected for what is wrong with it. -/
theorem decode_of_fault {raw s : Bytes} {fault : Fault} (h : normalize raw = openBrace :: s)
    (hfault : readParts s = .error fault) :
    decode raw = .error (.malformed (fault.message (normalize raw))) := by
  simp [decode, h, hfault]

/-- A frame whose members are read is decoded as these make an envelope. -/
theorem decode_of_gives {raw : Bytes} {ms : TextMembers} {parts : Parts}
    (h : IsObject ms (normalize raw)) (hgives : Gives SaysText ms parts) :
    decode raw = ofParts parts := by
  obtain ⟨s, hs⟩ : ∃ s, normalize raw = openBrace :: s := by
    obtain ⟨w, b, -, -, hs⟩ := h
    exact ⟨_, hs⟩
  exact decode_of_readParts hs (readParts_of_isObject (hs ▸ h) hgives)

/-- A frame whose members make something is an object, and one of which nothing is left over. -/
theorem exists_of_ofParts {raw s : Bytes} (hs : normalize raw = openBrace :: s) {parts : Parts}
    (h : readParts s = .ok parts) : ∃ ms, IsObject ms (normalize raw) ∧ Gives Reads ms parts := by
  obtain ⟨ms, t, b, hobject, hb, ht, hgives⟩ := exists_of_readParts h
  have hnil : b = [] := eq_nil_of_normalize_eq (hs.trans ht) hb
  rw [hnil, List.append_nil] at ht
  exact ⟨ms, by rwa [hs, ht], hgives⟩

/-- A frame is decoded from an object's members, or is no object, or cannot be read as one. -/
theorem decode_cases (raw : Bytes) :
    ((normalize raw).head? ≠ some openBrace ∧ decode raw = .error .notAnObject) ∨
    ((normalize raw).head? = some openBrace ∧
      ((∃ reason, decode raw = .error (.malformed reason)) ∨
        ∃ ms parts, IsObject ms (normalize raw) ∧ Gives Reads ms parts ∧
          decode raw = ofParts parts)) := by
  cases hn : normalize raw with
  | nil => exact .inl ⟨by simp, by simp [decode, hn]⟩
  | cons b s =>
    by_cases hb : b = openBrace
    · subst hb
      refine .inr ⟨rfl, ?_⟩
      cases hparts : readParts s with
      | error fault => exact .inl ⟨_, decode_of_fault hn hparts⟩
      | ok parts =>
        obtain ⟨ms, hobject, hgives⟩ := exists_of_ofParts hn hparts
        exact .inr ⟨ms, parts, hn ▸ hobject, hgives, decode_of_readParts hn hparts⟩
    · exact .inl ⟨by simpa using hb, by simp [decode, hn, hb]⟩

/-! ### Main results -/

/-- A frame that is an object, up to blanks at its ends, is decoded when a member `channel` is there
once, a string, and a member `payload` at most once. The order of the members, the blanks between
them, the escapes in their names and all the other members make no difference: the channel is what
the string stands for, and the payload is the text of its value in one line. -/
theorem decode_of_isObject {raw v : Bytes} {ms : TextMembers} {c : String} {p : Option Bytes}
    (hvalid : Utf8.isValid (Bytes.trim raw) = true) (hobject : IsObject ms (Bytes.trim raw))
    (hchannel : valuesOf "channel" ms = [v]) (hv : IsText v c)
    (hpayload : valuesOf "payload" ms = p.toList) :
    decode raw = .ok ⟨c, (p.map oneLine).getD nullText⟩ := by
  have hline : IsObject (ms.map fun m => (m.1, oneLine m.2)) (normalize raw) := by
    rw [normalize_eq]
    exact hobject.oneLine
  let parts : Parts := ⟨some (.string c), (p.map oneLine).map payloadOf⟩
  have hgives : Gives SaysText (ms.map fun m => (m.1, oneLine m.2)) parts := by
    constructor
    · rw [valuesOf_oneLine, hchannel]
      refine fills_none_iff.mpr (.inr ⟨v, .string c, ?_, ⟨c, rfl, hv⟩, rfl⟩)
      rw [List.map_singleton, hv.oneLine_eq]
    · rw [valuesOf_oneLine, hpayload]
      cases p with
      | none => exact fills_none_iff.mpr (.inl ⟨rfl, rfl⟩)
      | some p =>
        have hp : ("payload", p) ∈ ms := mem_valuesOf.mp (by simp [hpayload])
        have hu := isValid_oneLine (hobject.isValid hvalid _ hp)
        exact fills_none_iff.mpr (.inr ⟨_, _, rfl, ⟨rfl, hu⟩, rfl⟩)
  rw [decode_of_gives hline hgives]
  cases p with
  | none => rfl
  | some p => exact congrArg Except.ok (congrArg (Envelope.mk c) (payloadOf_getD (oneLine p)))

/-- A frame of several lines. The channel's name is written with an escape, another member holds a
member of that name, and the payload has two lines. -/
theorem decode_of_isObject_escaped :
    let raw := Utf8.encode
      "\n\x7b \"x\": \x7b\"channel\": 1\x7d,\n\"ch\\u0061nnel\" :\"b\\n\",\"payload\":[1,\n2]\x7d\r\n"
    let ms := [("x", Utf8.encode "\x7b\"channel\": 1\x7d"), ("channel", Utf8.encode "\"b\\n\""),
      ("payload", Utf8.encode "[1,\n2]")]
    Utf8.isValid (Bytes.trim raw) = true ∧ IsObject ms (Bytes.trim raw) ∧
      valuesOf "channel" ms = [Utf8.encode "\"b\\n\""] ∧ IsText (Utf8.encode "\"b\\n\"") "b\n" ∧
      valuesOf "payload" ms = [Utf8.encode "[1,\n2]"] ∧
      decode raw = .ok ⟨"b\n", Utf8.encode "[1, 2]"⟩ := by
  intro raw ms
  have hvalid : Utf8.isValid (Bytes.trim raw) = true := by decide +kernel
  have hobject : IsObject ms (Bytes.trim raw) := by decide +kernel
  have hchannel : valuesOf "channel" ms = [Utf8.encode "\"b\\n\""] := by decide +kernel
  have htext : IsText (Utf8.encode "\"b\\n\"") "b\n" :=
    isText_iff.mpr ⟨Utf8.encode "b\\n\"", by decide +kernel, by decide +kernel⟩
  have hpayload : valuesOf "payload" ms = [Utf8.encode "[1,\n2]"] := by decide +kernel
  have hline : oneLine (Utf8.encode "[1,\n2]") = Utf8.encode "[1, 2]" := by decide +kernel
  have hdecode : decode raw = .ok ⟨"b\n", oneLine (Utf8.encode "[1,\n2]")⟩ :=
    decode_of_isObject hvalid hobject hchannel htext (p := some (Utf8.encode "[1,\n2]")) hpayload
  rw [hline] at hdecode
  exact ⟨hvalid, hobject, hchannel, htext, hpayload, hdecode⟩

/-- What is decoded is an object with one channel and at most one payload. -/
theorem exists_of_decode {raw : Bytes} {e : Envelope} (h : decode raw = .ok e) :
    ∃ ms v payload, IsObject ms (normalize raw) ∧ valuesOf "channel" ms = [v] ∧
      Stands v e.channel ∧ valuesOf "payload" ms = Option.toList payload ∧
      (∀ p ∈ payload, Utf8.isValid p = true) ∧ e.payload = payload.getD nullText := by
  rcases decode_cases raw with
    ⟨-, hnone⟩ | ⟨-, ⟨reason, hnone⟩ | ⟨ms, ⟨x, p⟩, hobject, hgives, hof⟩⟩
  · cases h.symm.trans hnone
  · cases h.symm.trans hnone
  · obtain ⟨hchannel, hpayload⟩ := hgives
    have hof := h.symm.trans hof
    rcases fills_none_iff.mp hchannel with ⟨-, rfl⟩ | ⟨v, y, hv, hreads, rfl⟩
    · cases hof
    · cases y with
      | string c =>
        obtain rfl := Except.ok.inj hof
        rcases fills_none_iff.mp hpayload with ⟨hnone, rfl⟩ | ⟨u, q, hu, ⟨rfl, hvalid⟩, rfl⟩
        · exact ⟨ms, v, none, hobject, hv, hreads.stands rfl, hnone, by simp, rfl⟩
        · exact ⟨ms, v, some u, hobject, hv, hreads.stands rfl, hu, by simpa using hvalid,
            payloadOf_getD u⟩
      | _ => cases hof

/-- A payload is JSON, stands in its frame or is `null`, and is no longer than the frame. -/
theorem isJson_of_decode {raw : Bytes} {e : Envelope} (h : decode raw = .ok e) :
    isJson e.payload = true ∧ (∀ b ∈ e.payload, b ≠ newline) ∧
      e.payload.length ≤ (normalize raw).length := by
  obtain ⟨ms, v, payload, hobject, hchannel, -, hpayload, hvalid, hp⟩ := exists_of_decode h
  cases payload with
  | none =>
    have hmember : v ∈ valuesOf "channel" ms := by simp [hchannel]
    have hlength := hobject.length_value_le hmember
    have hname : 4 ≤ (renderString "channel").length := by decide
    have hnull : e.payload.length = 4 := by rw [hp]; decide
    rw [hp]
    refine ⟨by decide, ?_, by rw [← hp]; omega⟩
    have hall : nullText.all (· ≠ newline) = true := by decide
    simpa using hall
  | some p =>
    obtain rfl : e.payload = p := hp
    have hmember : ("payload", e.payload) ∈ ms := mem_valuesOf.mp (by simp [hpayload])
    have hwithin := hobject.isInfix _ hmember
    have hvalue := hobject.isValue_of_mem _ hmember
    refine ⟨isJson_iff.mpr ⟨[], _, [], isBlank_nil, hvalue, isBlank_nil, hvalid _ rfl, by simp⟩, ?_,
      hwithin.length_le⟩
    exact fun b hb => ne_newline_of_mem_normalize (hwithin.subset hb)

/-- A frame that is rejected for its channel is an object whose members were read. -/
theorem gives_of_decode {raw : Bytes} {r : Rejection} (h : decode raw = .error r)
    (hr : r = .missingChannel ∨ r = .channelNotString) :
    ∃ ms parts, IsObject ms (normalize raw) ∧ Gives Reads ms parts ∧ ofParts parts = .error r := by
  rcases decode_cases raw with ⟨-, hnone⟩ | ⟨-, ⟨reason, hnone⟩ | ⟨ms, parts, hobject, hgives, hof⟩⟩
  · obtain rfl := Except.error.inj (h.symm.trans hnone)
    simp at hr
  · obtain rfl := Except.error.inj (h.symm.trans hnone)
    simp at hr
  · exact ⟨ms, parts, hobject, hgives, hof.symm.trans h⟩

/-- Nothing but envelopes is decoded, and what is not decoded is classified.

What is decoded is one object with exactly one channel, which stands for the envelope's, and at most
one payload, whose text is the envelope's; a payload is in one line, no longer than the frame, and
JSON by the test that upstream frames are put to. What is no object at all is known by its first
byte. A channel is missing, or no string, only where the frame is an object without one, or with one
that does not begin as a string; and everything else that begins with a brace, objects with more
than one channel or payload among it, is malformed. -/
theorem decode_spec (raw : Bytes) :
    (∀ e, decode raw = .ok e → ∃ ms v payload, IsObject ms (normalize raw) ∧
      valuesOf "channel" ms = [v] ∧ Stands v e.channel ∧
      valuesOf "payload" ms = Option.toList payload ∧ e.payload = payload.getD nullText ∧
      (∀ b ∈ e.payload, b ≠ newline) ∧ e.payload.length ≤ raw.length ∧ isJson e.payload = true) ∧
    (decode raw = .error .notAnObject ↔ (normalize raw).head? ≠ some openBrace) ∧
    (decode raw = .error .missingChannel →
      ∃ ms, IsObject ms (normalize raw) ∧ valuesOf "channel" ms = []) ∧
    (decode raw = .error .channelNotString →
      ∃ ms v, IsObject ms (normalize raw) ∧ valuesOf "channel" ms = [v] ∧
        v.head? ≠ some quote) ∧
    ((normalize raw).head? = some openBrace →
      (∀ ms, IsObject ms (normalize raw) →
        1 < (valuesOf "channel" ms).length ∨ 1 < (valuesOf "payload" ms).length) →
      ∃ reason, decode raw = .error (.malformed reason)) := by
  refine ⟨fun e h => ?_, ⟨fun h => ?_, fun h => ?_⟩, fun h => ?_, fun h => ?_,
    fun hbrace hmany => ?_⟩
  · obtain ⟨ms, v, payload, hobject, hchannel, hv, hpayload, -, hp⟩ := exists_of_decode h
    obtain ⟨hjson, hline, hlength⟩ := isJson_of_decode h
    exact ⟨ms, v, payload, hobject, hchannel, hv, hpayload, hp, hline,
      hlength.trans (length_normalize_le raw), hjson⟩
  · rcases decode_cases raw with ⟨hno, -⟩ | ⟨-, ⟨reason, hd⟩ | ⟨ms, ⟨x, p⟩, -, -, hd⟩⟩
    · exact hno
    · cases h.symm.trans hd
    · have hof := h.symm.trans hd
      rcases x with _ | x
      · cases hof
      · cases x <;> cases hof
  · rcases decode_cases raw with ⟨-, hd⟩ | ⟨hbrace, -⟩
    · exact hd
    · exact absurd hbrace h
  · obtain ⟨ms, ⟨x, p⟩, hobject, hgives, hof⟩ := gives_of_decode h (.inl rfl)
    rcases fills_none_iff.mp hgives.1 with ⟨hnone, -⟩ | ⟨v, y, -, -, rfl⟩
    · exact ⟨ms, hobject, hnone⟩
    · cases y <;> cases hof
  · obtain ⟨ms, ⟨x, p⟩, hobject, hgives, hof⟩ := gives_of_decode h (.inr rfl)
    rcases fills_none_iff.mp hgives.1 with ⟨-, rfl⟩ | ⟨v, y, hv, hreads, rfl⟩
    · cases hof
    · refine ⟨ms, v, hobject, hv, fun hhead => ?_⟩
      obtain ⟨c, rfl⟩ := hreads.isString hhead
      cases hof
  · rcases decode_cases raw with ⟨hno, -⟩ | ⟨-, hreason | ⟨ms, parts, hobject, hgives, -⟩⟩
    · exact absurd hbrace hno
    · exact hreason
    · have hone {α : Type} {rel : Bytes → α → Prop} {vs : List Bytes} {y : Option α}
          (h : Fills rel none vs y) : vs.length ≤ 1 := by
        rcases fills_none_iff.mp h with ⟨rfl, -⟩ | ⟨v, z, rfl, -⟩ <;> simp
      have hchannel := hone hgives.1
      have hpayload := hone hgives.2
      rcases hmany ms hobject with h | h <;> omega

/-- One frame that is decoded and three that are not, each with what is known of it. -/
theorem decode_spec_four :
    (let raw := Utf8.encode "\x7b\"payload\":[0],\"channel\":\"a\"\x7d";
      decode raw = .ok ⟨"a", Utf8.encode "[0]"⟩ ∧
        ∃ ms v payload, IsObject ms (normalize raw) ∧ valuesOf "channel" ms = [v] ∧ Stands v "a" ∧
          valuesOf "payload" ms = Option.toList payload ∧
          Utf8.encode "[0]" = payload.getD nullText) ∧
    (let raw := Utf8.encode "[]";
      decode raw = .error .notAnObject ∧ (normalize raw).head? ≠ some openBrace) ∧
    (let raw := Utf8.encode "\x7b\x7d";
      decode raw = .error .missingChannel ∧
        ∃ ms, IsObject ms (normalize raw) ∧ valuesOf "channel" ms = []) ∧
    (let raw := Utf8.encode "\x7b\"channel\":1\x7d";
      decode raw = .error .channelNotString ∧
        ∃ ms v, IsObject ms (normalize raw) ∧ valuesOf "channel" ms = [v] ∧
          v.head? ≠ some quote) := by
  refine ⟨?_, ?_, ?_, ?_⟩
  · intro raw
    have h : decode raw = .ok ⟨"a", Utf8.encode "[0]"⟩ := by decide +kernel
    obtain ⟨ms, v, payload, hobject, hchannel, hv, hpayload, hp, -⟩ := (decode_spec raw).1 _ h
    exact ⟨h, ms, v, payload, hobject, hchannel, hv, hpayload, hp⟩
  · intro raw
    have h : decode raw = .error .notAnObject := by decide +kernel
    exact ⟨h, (decode_spec raw).2.1.mp h⟩
  · intro raw
    have h : decode raw = .error .missingChannel := by decide +kernel
    exact ⟨h, (decode_spec raw).2.2.1 h⟩
  · intro raw
    have h : decode raw = .error .channelNotString := by decide +kernel
    exact ⟨h, (decode_spec raw).2.2.2.1 h⟩

/-- A channel that is no string and is decoded as one. -/
theorem decode_rawToken :
    let raw := Utf8.encode
      "\x7b\"channel\":\x7b\"$serde_json::private::RawValue\":\"\\\"a\\\"\"\x7d\x7d"
    decode raw = .ok ⟨"a", nullText⟩ ∧
      ∀ ms v c, IsObject ms (normalize raw) → valuesOf "channel" ms = [v] → ¬IsText v c := by
  intro raw
  refine ⟨by decide +kernel, fun ms v c hobject hchannel => ?_⟩
  rintro ⟨n, -, rfl⟩
  have honly : IsObject [("channel", Utf8.encode
      "\x7b\"$serde_json::private::RawValue\":\"\\\"a\\\"\"\x7d")] (normalize raw) := by
    decide +kernel
  obtain rfl := hobject.unique honly
  rw [valuesOf_cons_self] at hchannel
  -- an object begins with a brace, not with a quote
  have hhead := congrArg List.head? (List.cons.inj hchannel).1
  revert hhead
  simp +decide

end Switchboard.Envelope
