import Switchboard.Proofs.Gate.Registry
import Switchboard.Proofs.Text.Order
/-!
# Which gate files make a registry

A gate file makes a registry exactly when it has gates, each gate has channels and each channel is
fit (`IsFit`). The registry then holds these gates and no others, each with the labels of its
section and what their URLs are read as. Any other file is refused for a gate that is at fault, and
if that gate has channels for the first of those that are not fit, in the order of their bytes
(`Registry.ofFile_spec`). What is said of a channel that is not fit is the first thing that is wrong
with it (`Offends`).
-/

namespace Switchboard

namespace Gate

/-! ### Definitions -/

/-- The bytes that a label may hold. -/
def alphabet : Bytes :=
  Utf8.encode "ABCDEFGHIJKLMNOPQRSTUVWXYZabcdefghijklmnopqrstuvwxyz0123456789_.-"

/-- One to 64 bytes of the alphabet. -/
structure IsWord (label : String) : Prop where
  one_le : 1 ≤ (Utf8.encode label).length
  le_64 : (Utf8.encode label).length ≤ 64
  plain : ∀ b ∈ Utf8.encode label, b ∈ alphabet

/-- A URL of a WebSocket on a host. -/
structure IsSocketUrl (u : Url) : Prop where
  scheme : u.scheme = "ws".toList ∨ u.scheme = "wss".toList
  host : u.host ≠ none

/-- A channel that a gate may have. -/
structure IsFit (parseUrl : String → Option Url) (label url : String) : Prop where
  unreserved : label ≠ "_control"
  word : IsWord label
  reads : ∃ u, parseUrl url = some u ∧ IsSocketUrl u

/-- What is said of a channel that is not fit: the first of these that is true of it. -/
inductive Offends (parseUrl : String → Option Url) (label url : String) : String → Prop
  | reserved (hc : label = "_control") : Offends parseUrl label url "channel label is reserved"
  | notALabel (hc : label ≠ "_control") (hl : ¬ IsWord label) :
    Offends parseUrl label url "invalid channel label"
  | notAbsolute (hc : label ≠ "_control") (hl : IsWord label) (hu : parseUrl url = none) :
    Offends parseUrl label url "channel url is not absolute"
  | wrongScheme {u : Url} (hc : label ≠ "_control") (hl : IsWord label)
    (hu : parseUrl url = some u) (hs : ¬ IsSocketUrl u) :
    Offends parseUrl label url "channel url must be ws:// or wss://"

/-- A channel of a section is not fit, and this is said of it; the labels of the others that are not
fit come after its own, in the order of bytes. -/
structure OffendsFirst (parseUrl : String → Option Url) (s : Section) (label message : String) :
    Prop where
  offends : ∃ url, (label, url) ∈ s ∧ Offends parseUrl label url message
  first : ∀ c ∈ s, ¬ IsFit parseUrl c.1 c.2 → c.1 = label ∨ Utf8.encode label < Utf8.encode c.1

section

variable {parseUrl : String → Option Url} {name label url message : String} {u : Url}
  {s : Section} {gate : Gate} {refusal : Refusal}

/-! ### One channel -/

/-- The bytes of labels are those of the alphabet. -/
theorem isLabelByte_iff {b : UInt8} : isLabelByte b = true ↔ b ∈ alphabet := by
  have hall : ∀ n < 256, isLabelByte (UInt8.ofNat n) = true ↔ UInt8.ofNat n ∈ alphabet := by
    decide +kernel
  simpa using hall b.toNat b.toNat_lt

/-- The labels are the words. -/
theorem isLabel_iff : isLabel label = true ↔ IsWord label := by
  simp only [isLabel, Bool.and_eq_true, List.all_eq_true, isLabelByte_iff]
  constructor
  · rintro ⟨⟨hone, hmax⟩, hall⟩
    refine ⟨List.length_pos_iff.mpr ?_, of_decide_eq_true hmax, hall⟩
    rintro hnil
    simp [hnil] at hone
  · rintro ⟨hone, hmax, hall⟩
    refine ⟨⟨?_, decide_eq_true hmax⟩, hall⟩
    simpa using List.length_pos_iff.mp hone

/-- The URLs that can be dialed are those of WebSockets on a host. -/
theorem isDialable_iff : isDialable u = true ↔ IsSocketUrl u := by
  simp only [isDialable, Bool.and_eq_true, Bool.or_eq_true, decide_eq_true_eq,
    Option.isSome_iff_ne_none]
  exact ⟨fun h => ⟨h.1, h.2⟩, fun h => ⟨h.scheme, h.host⟩⟩

/-- A channel that is let in is fit, and its URL is what it is read as. -/
theorem checkChannel_ok_iff : checkChannel parseUrl label url = .ok u ↔
    IsFit parseUrl label url ∧ parseUrl url = some u := by
  constructor
  · intro h
    unfold checkChannel at h
    split_ifs at h with hcontrol hlabel
    rw [Bool.not_eq_true, Bool.not_eq_false', isLabel_iff] at hlabel
    split at h
    · cases h
    · next u' hu =>
      split_ifs at h with hdial
      obtain rfl := Except.ok.inj h
      exact ⟨⟨hcontrol, hlabel, u', hu, isDialable_iff.mp hdial⟩, hu⟩
  · rintro ⟨⟨hcontrol, hword, u', hu', hsocket⟩, hu⟩
    obtain rfl := Option.some.inj (hu.symm.trans hu')
    have hlabel := isLabel_iff.mpr hword
    have hdial := isDialable_iff.mpr hsocket
    simp [checkChannel, Envelope.controlLabel, hcontrol, hlabel, hu, hdial]

/-- What is said of a channel that is not let in. -/
theorem offends_iff : Offends parseUrl label url message ↔
    ∃ flaw, checkChannel parseUrl label url = .error flaw ∧ flaw.message = message := by
  constructor
  · intro h
    cases h with
    | reserved hc =>
      refine ⟨.reserved, ?_, rfl⟩
      simp [checkChannel, Envelope.controlLabel, hc]
    | notALabel hc hl =>
      rw [← isLabel_iff] at hl
      refine ⟨.notALabel, ?_, rfl⟩
      simp [checkChannel, Envelope.controlLabel, hc, hl]
    | notAbsolute hc hl hu =>
      rw [← isLabel_iff] at hl
      refine ⟨.notAbsolute, ?_, rfl⟩
      simp [checkChannel, Envelope.controlLabel, hc, hl, hu]
    | wrongScheme hc hl hu hs =>
      rw [← isLabel_iff] at hl
      rw [← isDialable_iff] at hs
      refine ⟨.wrongScheme, ?_, rfl⟩
      simp [checkChannel, Envelope.controlLabel, hc, hl, hu, hs]
  · rintro ⟨flaw, h, rfl⟩
    unfold checkChannel at h
    split_ifs at h with hcontrol hlabel
    · obtain rfl := Except.error.inj h
      exact .reserved hcontrol
    · obtain rfl := Except.error.inj h
      exact .notALabel hcontrol fun hword => by simp [isLabel_iff.mpr hword] at hlabel
    · rw [Bool.not_eq_true, Bool.not_eq_false', isLabel_iff] at hlabel
      split at h
      · next hu =>
        obtain rfl := Except.error.inj h
        exact .notAbsolute hcontrol hlabel hu
      · next u hu =>
        split_ifs at h with hdial
        obtain rfl := Except.error.inj h
        exact .wrongScheme hcontrol hlabel hu fun hs => hdial (isDialable_iff.mpr hs)

/-- Nothing is said of a channel that is fit. -/
theorem IsFit.not_offends (h : IsFit parseUrl label url) : ¬ Offends parseUrl label url message := by
  intro hoffends
  obtain ⟨u, hu, -⟩ := h.reads
  obtain ⟨flaw, hflaw, -⟩ := offends_iff.mp hoffends
  cases hflaw.symm.trans (checkChannel_ok_iff.mpr ⟨h, hu⟩)

/-! ### The channels of a gate -/

/-- A pair that is put in its place among others in order leaves them in order. -/
theorem pairwise_insertByName {α : Type} (p : String × α) {pairs : List (String × α)}
    (h : pairs.Pairwise fun a b => a.1 ≤ b.1) :
    (insertByName p pairs).Pairwise fun a b => a.1 ≤ b.1 := by
  induction pairs with
  | nil => exact List.pairwise_singleton _ _
  | cons q rest ih =>
    obtain ⟨hq, hrest⟩ := List.pairwise_cons.mp h
    unfold insertByName
    split_ifs with hlt
    · refine List.pairwise_cons.mpr ⟨?_, h⟩
      intro a ha
      rcases List.mem_cons.mp ha with rfl | ha
      · exact hlt.le
      · exact hlt.le.trans (hq a ha)
    · refine List.pairwise_cons.mpr ⟨?_, ih hrest⟩
      intro a ha
      rcases List.mem_cons.mp ((perm_insertByName p rest).mem_iff.mp ha) with rfl | ha
      · exact not_lt.mp hlt
      · exact hq a ha

/-- Sorted pairs are in order. -/
theorem pairwise_sortByName {α : Type} (pairs : List (String × α)) :
    (sortByName pairs).Pairwise fun a b => a.1 ≤ b.1 := by
  induction pairs with
  | nil => exact List.Pairwise.nil
  | cons p rest ih => exact pairwise_insertByName p ih

/-- What channels are found to be, when all of them are let in. -/
theorem mem_of_checkChannels {channels : List (String × Url)}
    (h : checkChannels parseUrl name s = .ok channels) :
    (∀ c ∈ s, IsFit parseUrl c.1 c.2) ∧
      ∀ {label u}, (label, u) ∈ channels ↔ ∃ url, (label, url) ∈ s ∧ parseUrl url = some u := by
  induction s generalizing channels with
  | nil =>
    obtain rfl := Except.ok.inj h
    simp
  | cons c rest ih =>
    obtain ⟨label', url'⟩ := c
    unfold checkChannels at h
    split at h
    · cases h
    · next u' hu' =>
      split at h
      · cases h
      · next more hmore =>
        obtain rfl := Except.ok.inj h
        obtain ⟨hfit, hmem⟩ := ih hmore
        obtain ⟨hfirst, hread⟩ := checkChannel_ok_iff.mp hu'
        refine ⟨?_, fun {label u} => ?_⟩
        · intro c hc
          rcases List.mem_cons.mp hc with rfl | hc
          · exact hfirst
          · exact hfit c hc
        · simp only [List.mem_cons, hmem, Prod.mk.injEq]
          constructor
          · rintro (⟨rfl, rfl⟩ | ⟨url, hurl, hu⟩)
            · exact ⟨url', Or.inl ⟨rfl, rfl⟩, hread⟩
            · exact ⟨url, Or.inr hurl, hu⟩
          · rintro ⟨url, ⟨rfl, rfl⟩ | hurl, hu⟩
            · exact Or.inl ⟨rfl, Option.some.inj (hu.symm.trans hread)⟩
            · exact Or.inr ⟨url, hurl, hu⟩

/-- Channels that are not all let in are refused for the first of them that is not. -/
theorem exists_of_checkChannels_error (h : checkChannels parseUrl name s = .error refusal) :
    ∃ before c after flaw, s = before ++ c :: after ∧ (∀ d ∈ before, IsFit parseUrl d.1 d.2) ∧
      checkChannel parseUrl c.1 c.2 = .error flaw ∧ refusal = .channel name c.1 flaw := by
  induction s with
  | nil => cases h
  | cons c rest ih =>
    unfold checkChannels at h
    split at h
    · next flaw hflaw =>
      obtain rfl := Except.error.inj h
      exact ⟨[], c, rest, flaw, rfl, by simp, hflaw, rfl⟩
    · next u hu =>
      split at h
      · next r hr =>
        obtain rfl := Except.error.inj h
        obtain ⟨before, d, after, flaw, rfl, hbefore, hflaw, hrefusal⟩ := ih hr
        refine ⟨c :: before, d, after, flaw, rfl, ?_, hflaw, hrefusal⟩
        intro x hx
        rcases List.mem_cons.mp hx with rfl | hx
        · exact (checkChannel_ok_iff.mp hu).1
        · exact hbefore x hx
      · cases h

/-- A section that makes a gate has channels, all of them fit, and the gate has its channels. -/
theorem of_ofSection_ok (h : ofSection parseUrl name s = .ok gate) :
    gate.name = name ∧ s ≠ [] ∧ (∀ c ∈ s, IsFit parseUrl c.1 c.2) ∧
      ∀ {label u}, (label, u) ∈ gate.channels ↔
        ∃ url, (label, url) ∈ s ∧ parseUrl url = some u := by
  unfold ofSection at h
  split_ifs at h with hempty
  split at h
  · cases h
  · next channels hchannels =>
    obtain rfl := Except.ok.inj h
    obtain ⟨hfit, hmem⟩ := mem_of_checkChannels hchannels
    have hsorted {c : String × String} : c ∈ sortByName s ↔ c ∈ s := (perm_sortByName s).mem_iff
    refine ⟨rfl, by simpa using hempty, fun c hc => hfit c (hsorted.mpr hc), fun {label u} => ?_⟩
    simp only [hmem, hsorted]

/-- A section that makes no gate has no channels, or is refused for the first that is not fit. -/
theorem of_ofSection_error (h : ofSection parseUrl name s = .error refusal) :
    s = [] ∧ refusal = .noChannels name ∨
      ∃ label flaw, refusal = .channel name label flaw ∧
        OffendsFirst parseUrl s label flaw.message := by
  unfold ofSection at h
  split_ifs at h with hempty
  · obtain rfl := Except.error.inj h
    exact Or.inl ⟨by simpa using hempty, rfl⟩
  · split at h
    · next r hr =>
      obtain rfl := Except.error.inj h
      obtain ⟨before, c, after, flaw, hsorted, hbefore, hflaw, rfl⟩ :=
        exists_of_checkChannels_error hr
      have hmem {d : String × String} : d ∈ s ↔ d ∈ before ++ c :: after := by
        rw [← hsorted]
        exact (perm_sortByName s).mem_iff.symm
      have horder := pairwise_sortByName s
      rw [hsorted] at horder
      refine Or.inr ⟨c.1, flaw, rfl, ⟨c.2, hmem.mpr (by simp), offends_iff.mpr ⟨flaw, hflaw, rfl⟩⟩, ?_⟩
      intro d hd hunfit
      rcases List.mem_append.mp (hmem.mp hd) with hd | hd
      · exact absurd (hbefore d hd) hunfit
      rcases List.mem_cons.mp hd with rfl | hd
      · exact Or.inl rfl
      · have hle : c.1 ≤ d.1 :=
          (List.pairwise_cons.mp (List.pairwise_append.mp horder).2.1).1 d hd
        rcases hle.eq_or_lt with heq | hlt
        · exact Or.inl heq.symm
        · exact Or.inr (Utf8.encode_lt_iff.mpr hlt)
    · cases h

/-- A section makes a gate exactly when it has channels and all of them are fit. -/
theorem exists_ofSection_iff : (∃ gate, ofSection parseUrl name s = .ok gate) ↔
    s ≠ [] ∧ ∀ c ∈ s, IsFit parseUrl c.1 c.2 := by
  constructor
  · rintro ⟨gate, h⟩
    obtain ⟨-, hne, hfit, -⟩ := of_ofSection_ok h
    exact ⟨hne, hfit⟩
  · rintro ⟨hne, hfit⟩
    cases h : ofSection parseUrl name s with
    | ok gate => exact ⟨gate, rfl⟩
    | error refusal =>
      rcases of_ofSection_error h with ⟨hnil, -⟩ | ⟨label, flaw, -, ⟨url, hmem, hoffends⟩, -⟩
      · exact absurd hnil hne
      · exact absurd hoffends (hfit _ hmem).not_offends

/-! ### The gates of a file -/

/-- Sections that make gates do so one by one, and the gates have their names. -/
theorem of_ofSections_ok {sections : List (String × Section)} {gates : List Gate}
    (h : ofSections parseUrl sections = .ok gates) :
    gates.map (·.name) = sections.map (·.1) ∧
      ∀ p ∈ sections, ∃ gate, ofSection parseUrl p.1 p.2 = .ok gate := by
  induction sections generalizing gates with
  | nil =>
    obtain rfl := Except.ok.inj h
    exact ⟨rfl, by simp⟩
  | cons p rest ih =>
    unfold ofSections at h
    split at h
    · cases h
    · next gate hgate =>
      split at h
      · cases h
      · next more hmore =>
        obtain rfl := Except.ok.inj h
        obtain ⟨hnames, hall⟩ := ih hmore
        refine ⟨by rw [List.map_cons, List.map_cons, hnames, (of_ofSection_ok hgate).1], ?_⟩
        intro q hq
        rcases List.mem_cons.mp hq with rfl | hq
        · exact ⟨gate, hgate⟩
        · exact hall q hq

/-- Sections that do not all make gates are refused for one of them that does not. -/
theorem exists_of_ofSections_error {sections : List (String × Section)}
    (h : ofSections parseUrl sections = .error refusal) :
    ∃ p ∈ sections, ofSection parseUrl p.1 p.2 = .error refusal := by
  induction sections with
  | nil => cases h
  | cons p rest ih =>
    unfold ofSections at h
    split at h
    · next r hr =>
      obtain rfl := Except.error.inj h
      exact ⟨p, List.mem_cons_self, hr⟩
    · split at h
      · next r hr =>
        obtain rfl := Except.error.inj h
        obtain ⟨q, hq, hrefused⟩ := ih hr
        exact ⟨q, List.mem_cons_of_mem _ hq, hrefused⟩
      · cases h

end

end Gate

namespace Registry

open Gate

/-- A registry holds the gates of a file and no others, with their labels and what their URLs are
read as. -/
structure Holds (parseUrl : String → Option Url) (f : Gate.File) (r : Registry) : Prop where
  size : r.size = f.gates.length
  names : (r.gates.map (·.name)).Perm (f.gates.map (·.1))
  found : ∀ p ∈ f.gates, ∃ gate, r.find p.1 = .ok gate ∧ gate.name = p.1 ∧
    (gate.channels.map (·.1)).Perm (p.2.map (·.1)) ∧
    ∀ label u, (label, u) ∈ gate.channels ↔ ∃ url, (label, url) ∈ p.2 ∧ parseUrl url = some u
  missing : ∀ name ∉ f.gates.map (·.1),
    r.find name = .error (.withDetails .notFound "gate not found" [("gate", .string name)])

section

variable {parseUrl : String → Option Url} {f : Gate.File} {order : List (String × Section)}
  {r : Registry}

/-- A name that no gate has is not found. -/
theorem find_of_notMem {name : String} (h : name ∉ r.gates.map (·.name)) :
    r.find name = .error (.withDetails .notFound "gate not found" [("gate", .string name)]) := by
  have hnone : r.gates.find? (·.name = name) = none := by
    rw [List.find?_eq_none]
    intro gate hgate hname
    exact h (List.mem_map.mpr ⟨gate, hgate, of_decide_eq_true hname⟩)
  rw [find, hnone]

/-- A name that a gate has is found. -/
theorem exists_find {name : String} (h : name ∈ r.gates.map (·.name)) :
    ∃ gate ∈ r.gates, gate.name = name ∧ r.find name = .ok gate := by
  obtain ⟨gate, hgate, hname⟩ := List.mem_map.mp h
  have hsome : (r.gates.find? (·.name = name)).isSome := by
    rw [List.find?_isSome]
    exact ⟨gate, hgate, decide_eq_true hname⟩
  obtain ⟨found, hfound⟩ := Option.isSome_iff_exists.mp hsome
  refine ⟨found, List.mem_of_find?_eq_some hfound, ?_, ?_⟩
  · simpa using List.find?_some hfound
  · rw [find, hfound]

/-- What sections in any order make holds the gates of their file. -/
theorem Holds.of_ofSections (hf : File.IsTable (File.IsTable fun _ => True) f.gates)
    (horder : order.Perm f.gates) (h : ofSections parseUrl order = .ok r.gates) :
    Holds parseUrl f r := by
  have hperm : (r.gates.map (·.name)).Perm (f.gates.map (·.1)) :=
    (of_ofSections_ok h).1 ▸ horder.map _
  refine ⟨?_, hperm, ?_, fun name hname => find_of_notMem fun hmem => hname (hperm.mem_iff.mp hmem)⟩
  · rw [Registry.size]
    simpa only [List.length_map] using hperm.length_eq
  · intro p hp
    obtain ⟨gate, hgate, hname, hfind⟩ :=
      exists_find (r := r) (hperm.mem_iff.mpr (List.mem_map_of_mem hp))
    obtain ⟨q, hq, hsection⟩ := exists_of_ofSections h gate hgate
    obtain ⟨hsame, -, -, hmem⟩ := of_ofSection_ok hsection
    obtain rfl : q = p :=
      List.inj_on_of_nodup_map hf.distinct (horder.mem_iff.mp hq) hp (hsame.symm.trans hname)
    exact ⟨gate, hfind, hname, perm_labels_of_ofSection hsection, fun label u => hmem⟩

/-- A file that makes no registry has no gates, or is refused for one of its sections. -/
theorem of_ofFile_error {refusal : Refusal} (h : ofFile parseUrl f = .error refusal) :
    f.gates = [] ∧ refusal = .noGates ∨
      ∃ p ∈ f.gates, ofSection parseUrl p.1 p.2 = .error refusal := by
  unfold ofFile at h
  split_ifs at h with hempty
  · obtain rfl := Except.error.inj h
    exact Or.inl ⟨by simpa using hempty, rfl⟩
  · split at h
    · next r hr =>
      obtain rfl := Except.error.inj h
      exact Or.inr (exists_of_ofSections_error hr)
    · cases h

/-- A file that makes a registry has gates, and the registry has those of its sections. -/
theorem of_ofFile_ok (h : ofFile parseUrl f = .ok r) :
    f.gates ≠ [] ∧ ofSections parseUrl f.gates = .ok r.gates := by
  unfold ofFile at h
  split_ifs at h with hempty
  split at h
  · cases h
  · next gates hgates =>
    obtain rfl := Except.ok.inj h
    exact ⟨by simpa using hempty, hgates⟩

/-! ### Main result -/

/-- A gate file, its gates taken up in any order, makes a registry exactly when it has gates, each
gate has channels and each channel is fit. The registry holds these gates and no others. Any other
file is refused because it has no gates, or for a gate that has no channels, or for a gate with a
channel that is not fit, the first of them in the order of bytes; the refusal names the gate and the
channel and says what is wrong with it. -/
theorem ofFile_spec (hf : File.IsTable (File.IsTable fun _ => True) f.gates)
    (horder : order.Perm f.gates) :
    ((∃ r, ofFile parseUrl ⟨order⟩ = .ok r) ↔
      f.gates ≠ [] ∧ ∀ p ∈ f.gates, p.2 ≠ [] ∧ ∀ c ∈ p.2, IsFit parseUrl c.1 c.2) ∧
    (∀ r, ofFile parseUrl ⟨order⟩ = .ok r → Holds parseUrl f r) ∧
    ∀ refusal, ofFile parseUrl ⟨order⟩ = .error refusal →
      f.gates = [] ∧ refusal.failure = .plain .internal "gate registry defines no gates" ∨
      ∃ p ∈ f.gates,
        p.2 = [] ∧ refusal.failure = .withDetails .internal "gate has no channels"
          [("gate", .string p.1), ("channel", .string "")] ∨
        ∃ label message, OffendsFirst parseUrl p.2 label message ∧
          refusal.failure = .withDetails .internal message
            [("gate", .string p.1), ("channel", .string label)] := by
  have hnil : order = [] ↔ f.gates = [] :=
    ⟨fun h => (h ▸ horder).symm.eq_nil, fun h => (h ▸ horder).eq_nil⟩
  refine ⟨⟨?_, ?_⟩, ?_, ?_⟩
  · rintro ⟨r, hr⟩
    obtain ⟨hne, hsections⟩ := of_ofFile_ok hr
    refine ⟨fun h => hne (hnil.mpr h), fun p hp => ?_⟩
    exact exists_ofSection_iff.mp ((of_ofSections_ok hsections).2 p (horder.mem_iff.mpr hp))
  · rintro ⟨hne, hfit⟩
    cases h : ofFile parseUrl ⟨order⟩ with
    | ok r => exact ⟨r, rfl⟩
    | error refusal =>
      rcases of_ofFile_error h with ⟨hempty, -⟩ | ⟨p, hp, hrefused⟩
      · exact absurd (hnil.mp hempty) hne
      · obtain ⟨gate, hgate⟩ := exists_ofSection_iff.mpr (hfit p (horder.mem_iff.mp hp))
        cases hgate.symm.trans hrefused
  · intro r hr
    exact .of_ofSections hf horder (of_ofFile_ok hr).2
  · intro refusal h
    rcases of_ofFile_error h with ⟨hempty, rfl⟩ | ⟨p, hp, hrefused⟩
    · exact Or.inl ⟨hnil.mp hempty, rfl⟩
    · refine Or.inr ⟨p, horder.mem_iff.mp hp, ?_⟩
      rcases of_ofSection_error hrefused with ⟨hnone, rfl⟩ | ⟨label, flaw, rfl, hfirst⟩
      · exact Or.inl ⟨hnone, rfl⟩
      · exact Or.inr ⟨label, flaw.message, hfirst, rfl⟩

/-- How some texts are read. -/
def readKnown (text : String) : Option Url :=
  let radio (scheme : String) (port : Option Nat) : Url :=
    ⟨scheme.toList, true, [], [], some (.name "radio".toList), port, .segments [[]], none, none⟩
  if text = "ws://radio:8080/" then some (radio "ws" (some 8080))
  else if text = "http://radio/" then some (radio "http" none)
  else none

/-- A gate with two channels. -/
def soundGate : String × Section := ("web", [("b", "ws://radio:8080/"), ("a", "ws://radio:8080/")])

/-- A gate with four channels, one of which is fit. -/
def mixedGate : String × Section :=
  ("radio", [("é", "ws://radio:8080/"), ("z", "http://radio/"), ("ok", "ws://radio:8080/"),
    ("B", "relative")])

/-- The gate with unfit channels is refused for the one that comes first in the order of bytes; the
other one alone makes a registry. -/
theorem ofFile_spec_mixed :
    (∃ refusal, ofFile readKnown ⟨[mixedGate, soundGate]⟩ = .error refusal ∧
      refusal = .channel "radio" "B" .notAbsolute ∧
      ∃ p ∈ [soundGate, mixedGate],
        p.2 = [] ∧ refusal.failure = .withDetails .internal "gate has no channels"
          [("gate", .string p.1), ("channel", .string "")] ∨
        ∃ label message, OffendsFirst readKnown p.2 label message ∧
          refusal.failure = .withDetails .internal message
            [("gate", .string p.1), ("channel", .string label)]) ∧
    ∃ r, ofFile readKnown ⟨[soundGate]⟩ = .ok r ∧ Holds readKnown ⟨[soundGate]⟩ r := by
  have htable {gates : List (String × Section)} (h : (gates.map (·.1)).Nodup)
      (hall : ∀ p ∈ gates, (p.2.map (·.1)).Nodup) : File.IsTable (File.IsTable fun _ => True) gates :=
    ⟨h, fun p hp => ⟨hall p hp, fun _ _ => trivial⟩⟩
  have hmixed : ofFile readKnown ⟨[mixedGate, soundGate]⟩
      = .error (.channel "radio" "B" .notAbsolute) := by
    decide +kernel
  have hsound : ∃ r, ofFile readKnown ⟨[soundGate]⟩ = .ok r := ⟨_, rfl⟩
  have hfile : File.IsTable (File.IsTable fun _ => True) (File.mk [soundGate, mixedGate]).gates :=
    htable (by decide +kernel) (by decide +kernel)
  obtain ⟨-, -, hrefused⟩ := @ofFile_spec readKnown _ _ hfile (List.Perm.swap _ _ _)
  obtain ⟨r, hr⟩ := hsound
  refine ⟨⟨_, hmixed, rfl, ?_⟩, r, hr, ?_⟩
  · exact (hrefused _ hmixed).resolve_left fun h => by simp at h
  · have halone : File.IsTable (File.IsTable fun _ => True) (File.mk [soundGate]).gates :=
      htable (by decide +kernel) (by decide +kernel)
    exact (ofFile_spec halone (List.Perm.refl _)).2.1 r hr

end

end Registry

end Switchboard
