import Switchboard.Proofs.Json.Printer
import Switchboard.Proofs.Json.Reader
/-!
# Objects and their members

An object of the grammar whose names stand for texts has a list of members: each a name, as it
reads without its escapes, and the text of a value. `IsObject` relates the two. It does not mention
how objects are read: blanks, escapes in the names and the order of the members are free, and a
name may come more than once.

`foldMembers` reads such objects and no others. If reading one member of a name and a text changes
the state of the reading in a certain way, then reading all of them changes it in these ways one
after another (`foldMembers_append`), and whatever is read without a fault is read so
(`exists_of_foldMembers`). Reading them as they are finds the members of any object
(`members?_eq_some_iff`), so that an object has only one list of them.
-/

namespace Switchboard.Json

open Ascii

/-! ### Members -/

/-- A name, without its escapes, and the text of its value. -/
abbrev TextMembers := List (String × Bytes)

/-- Members of an object, from the first on or from a further one on, if there are any. -/
inductive HasMembers : Bool → TextMembers → Bytes → Prop
  | nil (first : Bool) : HasMembers first [] []
  | cons {first : Bool} {l n b a v w : Bytes} {name : String} {ms : TextMembers}
    (hl : IsLead first l) (hn : Spells n (Utf8.encode name)) (hb : IsBlank b) (ha : IsBlank a)
    (hv : IsValue v) :
    HasMembers false ms w →
    HasMembers first ((name, v) :: ms) (l ++ quote :: n ++ quote :: b ++ colon :: (a ++ v ++ w))

/-- The text of one object with the given members. -/
def IsObject (ms : TextMembers) (t : Bytes) : Prop :=
  ∃ w b, HasMembers true ms w ∧ IsBlank b ∧ t = openBrace :: (w ++ b) ++ [closeBrace]

/-- The texts of the members of one name, in order. -/
def valuesOf (name : String) (ms : TextMembers) : List Bytes :=
  (ms.filter (·.1 = name)).map (·.2)

@[simp] theorem valuesOf_nil (name : String) : valuesOf name [] = [] := rfl

@[simp] theorem valuesOf_cons_self (name : String) (v : Bytes) (ms : TextMembers) :
    valuesOf name ((name, v) :: ms) = v :: valuesOf name ms := by
  simp [valuesOf]

/-- The members of one name are members. -/
theorem mem_valuesOf {name : String} {v : Bytes} {ms : TextMembers} :
    v ∈ valuesOf name ms ↔ (name, v) ∈ ms := by
  simp [valuesOf]

/-- A member of another name does not count. -/
theorem valuesOf_cons_of_ne {name other : String} (h : other ≠ name) (v : Bytes)
    (ms : TextMembers) : valuesOf name ((other, v) :: ms) = valuesOf name ms := by
  simp [valuesOf, h]

section

variable {first : Bool} {ms : TextMembers} {w : Bytes}

/-- Members are items of the grammar. -/
theorem HasMembers.listed (h : HasMembers first ms w) : Listed .object first w := by
  induction h with
  | nil first => exact .nil first
  | cons hl hn hb ha hv _ ih => exact listed_of_member hl hn.isBody hb ha hv ih

/-- An object with members is one value of the grammar. -/
theorem IsObject.isValue {t : Bytes} (h : IsObject ms t) : IsValue t := by
  obtain ⟨w, b, hw, hb, rfl⟩ := h
  exact hw.listed.isValue hb

/-- The values of members are values of the grammar. -/
theorem HasMembers.isValue (h : HasMembers first ms w) : ∀ m ∈ ms, IsValue m.2 := by
  induction h with
  | nil => simp
  | cons _ _ _ _ hv _ ih => exact List.forall_mem_cons.mpr ⟨hv, ih⟩

/-- The values of an object's members are values of the grammar. -/
theorem IsObject.isValue_of_mem {t : Bytes} (h : IsObject ms t) : ∀ m ∈ ms, IsValue m.2 := by
  obtain ⟨w, b, hw, -, -⟩ := h
  exact hw.isValue

/-- Each member takes some of the text. -/
theorem HasMembers.length_le (h : HasMembers first ms w) : ms.length ≤ w.length := by
  induction h with
  | nil => exact Nat.le_refl 0
  | cons _ _ _ _ _ _ ih =>
    simp only [List.length_cons, List.length_append]
    omega

/-- There are fewer members than steps for a text that they begin. -/
theorem HasMembers.length_lt (h : HasMembers first ms w) (t : Bytes) :
    ms.length < (w ++ t).length + 1 := by
  rw [List.length_append]
  exact Nat.lt_succ_of_le (h.length_le.trans (Nat.le_add_right _ _))

/-- Each value stands in the text. -/
theorem HasMembers.isInfix (h : HasMembers first ms w) : ∀ m ∈ ms, m.2 <:+: w := by
  induction h with
  | nil => simp
  | @cons first l n b a v w name ms _ _ _ _ _ _ ih =>
    refine List.forall_mem_cons.mpr ⟨⟨l ++ quote :: n ++ quote :: b ++ colon :: a, w, by simp⟩, ?_⟩
    intro m hm
    refine (ih m hm).trans ⟨l ++ quote :: n ++ quote :: b ++ colon :: (a ++ v), [], by simp⟩

/-- Each value of an object stands in its text. -/
theorem IsObject.isInfix {t : Bytes} (h : IsObject ms t) : ∀ m ∈ ms, m.2 <:+: t := by
  obtain ⟨w, b, hw, -, rfl⟩ := h
  intro m hm
  exact (hw.isInfix m hm).trans ⟨[openBrace], b ++ [closeBrace], by simp⟩

/-- A member takes as much of the text as its name takes when it is written, and its value. -/
theorem HasMembers.length_member_le (h : HasMembers first ms w) :
    ∀ m ∈ ms, (renderString m.1).length + m.2.length + 1 ≤ w.length := by
  induction h with
  | nil => simp
  | cons _ hn _ _ _ _ ih =>
    have hname := hn.length_escape_le
    refine List.forall_mem_cons.mpr ⟨?_, fun m hm => ?_⟩
    · simp only [renderString, List.length_append, List.length_cons, List.length_nil]
      omega
    · have := ih m hm
      simp only [List.length_append, List.length_cons]
      omega

/-- An object is longer than any of its members by its braces. -/
theorem IsObject.length_member_le {t : Bytes} (h : IsObject ms t) :
    ∀ m ∈ ms, (renderString m.1).length + m.2.length + 3 ≤ t.length := by
  obtain ⟨w, b, hw, -, rfl⟩ := h
  intro m hm
  have := hw.length_member_le m hm
  simp only [List.length_append, List.length_cons, List.length_nil]
  omega

/-- An object is longer than a value by the name, the colon and the braces. -/
theorem IsObject.length_value_le {t v : Bytes} {name : String} (h : IsObject ms t)
    (hv : v ∈ valuesOf name ms) : (renderString name).length + v.length + 3 ≤ t.length :=
  h.length_member_le (name, v) (mem_valuesOf.mp hv)

/-! ### Newlines -/

/-- What leads to a member in one line does so. -/
theorem IsLead.oneLine {l : Bytes} (h : IsLead first l) : IsLead first (oneLine l) := by
  cases first with
  | true => exact IsBlank.oneLine h
  | false =>
    obtain ⟨b, c, hb, hc, rfl⟩ := h
    exact ⟨_, _, hb.oneLine, hc.oneLine, by simp +decide [oneLine_cons]⟩

/-- Members in one line are the members with their values in one line. -/
theorem HasMembers.oneLine (h : HasMembers first ms w) :
    HasMembers first (ms.map fun m => (m.1, oneLine m.2)) (oneLine w) := by
  induction h with
  | nil first => exact .nil first
  | cons hl hn hb ha hv _ ih =>
    have := HasMembers.cons hl.oneLine hn hb.oneLine ha.oneLine hv.oneLine ih
    simpa +decide [oneLine_cons, oneLine_eq_self hn.isBody.ne_newline] using this

/-- An object in one line has its members with their values in one line. -/
theorem IsObject.oneLine {t : Bytes} (h : IsObject ms t) :
    IsObject (ms.map fun m => (m.1, Json.oneLine m.2)) (Json.oneLine t) := by
  obtain ⟨w, b, hw, hb, rfl⟩ := h
  exact ⟨_, _, hw.oneLine, hb.oneLine, by simp +decide [oneLine_cons]⟩

/-- The values of one name in one line. -/
theorem valuesOf_oneLine (name : String) (ms : TextMembers) :
    valuesOf name (ms.map fun m => (m.1, Json.oneLine m.2)) =
      (valuesOf name ms).map Json.oneLine := by
  simp [valuesOf, List.filter_map, Function.comp_def]

/-! ### Well-formed text -/

/-- Well-formed text stays so in one line. -/
theorem isValid_oneLine {s : Bytes} (h : Utf8.isValid s = true) :
    Utf8.isValid (oneLine s) = true := by
  have hflat : oneLine s = s.flatMap fun b => [if b = newline then space else b] :=
    List.map_eq_flatMap
  rw [hflat]
  refine Utf8.isValid_flatMap (fun a ha x hx => ?_) (fun a ha => ?_) h
  · obtain rfl := List.mem_singleton.mp hx
    split_ifs
    · decide
    · exact ha
  · rw [if_neg]
    rintro rfl
    exact ha (by decide)

/-- Blanks are ASCII. -/
theorem isSpace_ascii {b : UInt8} (h : isSpace b = true) : b < 0x80 := by
  simp only [isSpace, Bool.or_eq_true, decide_eq_true_eq] at h
  rcases h with ((rfl | rfl) | rfl) | rfl <;> decide

/-- Blanks are well-formed text. -/
theorem IsBlank.isValid {a : Bytes} (h : IsBlank a) : Utf8.isValid a = true :=
  Utf8.isValid_of_ascii fun b hb => isSpace_ascii (h b hb)

/-- What is left of a well-formed text behind blanks is well-formed. -/
theorem isValid_of_isBlank_append {a s : Bytes} (ha : IsBlank a)
    (h : Utf8.isValid (a ++ s) = true) : Utf8.isValid s = true := by
  induction a with
  | nil => exact h
  | cons b a ih =>
    have hb : b < 0x80 := isSpace_ascii (ha b List.mem_cons_self)
    exact ih (fun x hx => ha x (List.mem_cons_of_mem _ hx))
      (Utf8.isValid_of_append_cons (a := []) hb h).2

/-- What leads to a member begins with an ASCII byte or is nothing. -/
theorem HasMembers.exists_ascii (h : HasMembers false ms w) {c : UInt8} (hc : c < 0x80)
    (t : Bytes) : ∃ x r, w ++ c :: t = x :: r ∧ x < 0x80 := by
  cases h with
  | nil => exact ⟨c, t, rfl, hc⟩
  | cons hl =>
    obtain ⟨b, d, hb, -, rfl⟩ := hl
    cases b with
    | nil => exact ⟨comma, _, rfl, by decide⟩
    | cons x b => exact ⟨x, _, rfl, isSpace_ascii (hb x List.mem_cons_self)⟩

/-- The values of members of a well-formed text are well-formed. -/
theorem HasMembers.isValid (h : HasMembers first ms w) {c : UInt8} (hc : c < 0x80) {t : Bytes}
    (hvalid : Utf8.isValid (w ++ c :: t) = true) : ∀ m ∈ ms, Utf8.isValid m.2 = true := by
  induction h with
  | nil => simp
  | @cons first l n b a v w name ms _ _ _ ha _ hw ih =>
    have hsplit : l ++ quote :: n ++ quote :: b ++ colon :: (a ++ v ++ w) ++ c :: t
        = (l ++ quote :: n ++ quote :: b) ++ colon :: (a ++ (v ++ (w ++ c :: t))) := by simp
    rw [hsplit] at hvalid
    have hvalue := (Utf8.isValid_of_append_cons (by decide) hvalid).2
    have hfrom := isValid_of_isBlank_append ha hvalue
    obtain ⟨x, r, hx, hascii⟩ := hw.exists_ascii hc t
    rw [hx] at hfrom
    obtain ⟨hv, hr⟩ := Utf8.isValid_of_append_cons hascii hfrom
    have hrest : Utf8.isValid (w ++ c :: t) = true := by
      rw [hx]
      exact Utf8.isValid_append (a := [x]) (Utf8.isValid_of_ascii (by simpa using hascii)) hr
    exact List.forall_mem_cons.mpr ⟨hv, ih hrest⟩

/-- The values of the members of a well-formed object are well-formed. -/
theorem IsObject.isValid {t : Bytes} (h : IsObject ms t) (hvalid : Utf8.isValid t = true) :
    ∀ m ∈ ms, Utf8.isValid m.2 = true := by
  obtain ⟨w, b, hw, hb, rfl⟩ := h
  have hinner := (Utf8.isValid_of_append_cons (a := []) (x := openBrace) (by decide)
    (by simpa using hvalid : Utf8.isValid ([] ++ openBrace :: (w ++ (b ++ [closeBrace]))) = true)).2
  cases b with
  | nil => exact hw.isValid (c := closeBrace) (by decide) hinner
  | cons x b => exact hw.isValid (isSpace_ascii (hb x List.mem_cons_self)) hinner

end

/-! ### Reading members -/

/-- A name and a colon lead to what stands behind them. -/
theorem nextMember_append {first : Bool} {l : Bytes} (h : IsLead first l) (t : Bytes) :
    nextMember first (l ++ quote :: t) = .ok (some t) := by
  cases first with
  | true => simp +decide [nextMember, skipSpace_append h, skipSpace_cons]
  | false =>
    obtain ⟨b, c, hb, hc, rfl⟩ := h
    simp +decide [nextMember, skipSpace_append hb, skipSpace_append hc, skipSpace_cons]

/-- Behind blanks an object ends. -/
theorem nextMember_closeBrace (first : Bool) {b : Bytes} (hb : IsBlank b) (t : Bytes) :
    nextMember first (b ++ closeBrace :: t) = .ok none := by
  simp [nextMember, skipSpace_append hb, skipSpace_cons (b := closeBrace) rfl]

/-- Behind blanks the end of an object is found. -/
theorem endObject_append {b : Bytes} (hb : IsBlank b) (t : Bytes) :
    endObject (b ++ closeBrace :: t) = .ok t := by
  simp [endObject, skipSpace_append hb, skipSpace_cons (b := closeBrace) rfl]

/-- Behind a value the further members do not go on with a number. -/
theorem HasMembers.stops {ms : TextMembers} {w t : Bytes} (h : HasMembers false ms w)
    (ht : Stops t) : Stops (w ++ t) := by
  cases h with
  | nil => exact ht
  | cons hl =>
    obtain ⟨b, c, hb, -, rfl⟩ := hl
    have hcomma (r : Bytes) : Stops (comma :: r) := stops_cons (by decide) r
    simpa using (hcomma _).append hb

/-- The states of a reading that takes one member after another. -/
inductive Takes {σ : Type} (step : String → Bytes → σ → σ → Prop) : TextMembers → σ → σ → Prop
  | nil (state : σ) : Takes step [] state state
  | cons {name : String} {v : Bytes} {ms : TextMembers} {state next last : σ} :
    step name v state next → Takes step ms next last → Takes step ((name, v) :: ms) state last

section

variable {σ : Type} (field : String → σ → Bytes → Except Fault (σ × Bytes))
  (step : String → Bytes → σ → σ → Prop)

/-- A member that changes the state in one of certain ways is read so, whatever follows it. -/
def ReadsAll : Prop :=
  ∀ name state state' b a v t, step name v state state' → IsBlank b → IsBlank a → IsValue v →
    Stops t → field name state (b ++ colon :: (a ++ v ++ t)) = .ok (state', t)

/-- What is read is a member that changes the state in one of certain ways. -/
def ReadsOnly : Prop :=
  ∀ name state state' s r, field name state s = .ok (state', r) →
    ∃ b a v, IsBlank b ∧ IsBlank a ∧ IsValue v ∧ s = b ++ colon :: (a ++ v ++ r) ∧
      step name v state state'

variable {field step}

/-- The members of an object are read one after another, when each is read whatever follows it. -/
theorem foldMembers_append (hfield : ReadsAll field step) {first : Bool} {ms : TextMembers}
    {w : Bytes} (h : HasMembers first ms w) {state last : σ} (htakes : Takes step ms state last)
    {b : Bytes} (hb : IsBlank b) (t : Bytes) {fuel : Nat} (hfuel : ms.length < fuel) :
    foldMembers field fuel first state (w ++ (b ++ closeBrace :: t))
      = .ok (last, b ++ closeBrace :: t) := by
  induction h generalizing state fuel with
  | nil first =>
    cases htakes
    obtain ⟨fuel, rfl⟩ := Nat.exists_eq_add_of_lt hfuel
    simp [foldMembers, nextMember_closeBrace first hb, bind, Except.bind, pure, Except.pure]
  | @cons first l n c a v w name ms hl hn hc ha hv hw ih =>
    obtain ⟨fuel, rfl⟩ : ∃ k, fuel = k + 1 := ⟨fuel - 1, by omega⟩
    cases htakes with
    | cons hstep hrest =>
      have hbrace : Stops (closeBrace :: t) := stops_cons (by decide) t
      have hstops : Stops (w ++ (b ++ closeBrace :: t)) := hw.stops (hbrace.append hb)
      have htext : l ++ quote :: n ++ quote :: c ++ colon :: (a ++ v ++ w) ++ (b ++ closeBrace :: t)
          = l ++ quote :: (n ++ quote ::
            (c ++ colon :: (a ++ v ++ (w ++ (b ++ closeBrace :: t))))) := by
        simp
      rw [htext, foldMembers, nextMember_append hl]
      simp only [bind, Except.bind, readString_append hn,
        hfield _ _ _ _ _ _ _ hstep hc ha hv hstops]
      exact ih hrest (by simpa using hfuel)

/-- What is read as the members of an object are members, and they were read one after another. -/
theorem exists_of_foldMembers (hfield : ReadsOnly field step) {fuel : Nat} {first : Bool}
    {state last : σ} {s r : Bytes} (h : foldMembers field fuel first state s = .ok (last, r)) :
    ∃ ms w, HasMembers first ms w ∧ Takes step ms state last ∧ s = w ++ r := by
  induction fuel generalizing first state s with
  | zero => cases h
  | succ fuel ih =>
    unfold foldMembers at h
    obtain ⟨next, hnext, hread⟩ := bind_eq_ok.mp h
    cases next with
    | none =>
      obtain ⟨rfl, rfl⟩ := Prod.mk.inj (Except.ok.inj hread)
      exact ⟨[], [], .nil first, .nil state, rfl⟩
    | some u =>
      obtain ⟨⟨name, t⟩, hname, hrest⟩ := bind_eq_ok.mp hread
      obtain ⟨⟨next, q⟩, hmember, hlast⟩ := bind_eq_ok.mp hrest
      obtain ⟨l, hl, rfl⟩ := exists_of_nextMember hnext
      obtain ⟨n, hn, rfl⟩ := spells_of_readString hname
      obtain ⟨b, a, v, hb, ha, hv, rfl, hstep⟩ := hfield _ _ _ _ _ hmember
      obtain ⟨ms, w, hw, htakes, rfl⟩ := ih hlast
      exact ⟨_, _, .cons hl hn hb ha hv hw, .cons hstep htakes, by simp⟩

end

/-! ### Finding the members -/

/-- Gathers a member as it is. -/
def gather (name : String) (ms : TextMembers) (s : Bytes) : Except Fault (TextMembers × Bytes) := do
  let start := skipSpace (← skipColon s)
  let rest ← skipValue start
  pure (ms ++ [(name, start.take (start.length - rest.length))], rest)

/-- The members of an object, when a text is one. -/
def members? : Bytes → Option TextMembers
  | [] => none
  | b :: s =>
    if b = openBrace then
      match foldMembers gather (s.length + 1) true [] s with
      | .ok (ms, rest) => if endObject rest = .ok [] then some ms else none
      | .error _ => none
    else none

/-- What gathering a member does. -/
def Gathers (name : String) (v : Bytes) (ms ms' : TextMembers) : Prop := ms' = ms ++ [(name, v)]

/-- Every member is gathered, whatever follows it. -/
theorem readsAll_gather : ReadsAll gather Gathers := by
  rintro name ms _ b a v t rfl hb ha hv ht
  have hskip : skipValue (v ++ t) = .ok t := skipValue_append (a := []) isBlank_nil hv ht
  have htake : (v ++ t).take ((v ++ t).length - t.length) = v := by simp
  simp only [gather, skipColon_append hb, skipSpace_append_value ha hv, hskip, htake, bind,
    Except.bind, pure, Except.pure]

/-- What is gathered is a member. -/
theorem readsOnly_gather : ReadsOnly gather Gathers := by
  intro name ms ms' s r h
  obtain ⟨t, hcolon, hread⟩ := bind_eq_ok.mp h
  obtain ⟨r', hskip, hread⟩ := bind_eq_ok.mp hread
  obtain ⟨rfl, rfl⟩ := Prod.mk.inj (Except.ok.inj hread)
  obtain ⟨b, hb, rfl⟩ := exists_of_skipColon hcolon
  obtain ⟨a, ha, ht⟩ := exists_eq_append_skipSpace t
  obtain ⟨d, v, hd, hv, hstart⟩ := exists_of_skipValue hskip
  obtain rfl : d = [] := by
    cases d with
    | nil => rfl
    | cons x d =>
      have hx : isSpace x = false := isSpace_of_skipSpace (by simpa using hstart)
      exact absurd (hd x List.mem_cons_self) (by simp [hx])
  rw [List.nil_append] at hstart
  have htake : (v ++ r').take ((v ++ r').length - r'.length) = v := by simp
  exact ⟨b, a, v, hb, ha, hv, by rw [ht, hstart, List.append_assoc], by rw [hstart, htake]; rfl⟩

/-- All the members of an object are gathered in order. -/
theorem takes_gathers_iff {ms before last : TextMembers} :
    Takes Gathers ms before last ↔ last = before ++ ms := by
  constructor
  · intro h
    induction h with
    | nil before => simp
    | cons hstep _ ih =>
      rw [ih, hstep]
      simp
  · rintro rfl
    induction ms generalizing before with
    | nil => simpa using Takes.nil before
    | cons m ms ih =>
      have hrest := @ih (before ++ [m])
      exact .cons rfl (by simpa using hrest)

/-- The members that are found are those of the grammar. -/
theorem members?_eq_some_iff {ms : TextMembers} {t : Bytes} :
    members? t = some ms ↔ IsObject ms t := by
  constructor
  · intro h
    unfold members? at h
    split at h
    · cases h
    · next b s =>
      split_ifs at h with hb
      split at h
      · next ms' rest hfold =>
        split_ifs at h with hend
        obtain rfl := Option.some.inj h
        obtain ⟨ms, w, hw, htakes, rfl⟩ := exists_of_foldMembers readsOnly_gather hfold
        obtain rfl := takes_gathers_iff.mp htakes
        obtain ⟨c, hc, rfl⟩ := exists_of_endObject hend
        exact ⟨w, c, hw, hc, by simp [hb]⟩
      · cases h
  · rintro ⟨w, b, hw, hb, rfl⟩
    have hfold := foldMembers_append readsAll_gather hw
      (takes_gathers_iff.mpr (List.nil_append ms).symm) hb [] (hw.length_lt (b ++ [closeBrace]))
    have htext : openBrace :: (w ++ b) ++ [closeBrace] =
        openBrace :: (w ++ (b ++ [closeBrace])) := by
      simp
    rw [htext]
    simp only [members?, if_true, hfold, endObject_append hb]

/-- An object has only one list of members. -/
theorem IsObject.unique {ms ms' : TextMembers} {t : Bytes} (h : IsObject ms t)
    (h' : IsObject ms' t) : ms = ms' :=
  Option.some.inj ((members?_eq_some_iff.mpr h).symm.trans (members?_eq_some_iff.mpr h'))

instance (ms : TextMembers) (t : Bytes) : Decidable (IsObject ms t) :=
  decidable_of_iff _ members?_eq_some_iff

end Switchboard.Json
