import Switchboard.Gate.Registry
import Switchboard.Proofs.Gate.File
/-!
# Sound gates

Every gate of a registry is sound, whatever text the registry was read from: it has channels, each
of them under a label that is not kept for notices and at a URL that can be dialed. Its labels are
different from each other (`Registry.nodup_labels_of_parse`).
-/

namespace Switchboard

namespace Gate

/-- A gate with channels that can be dialed under labels of their own. -/
structure IsSound (gate : Gate) : Prop where
  ne_nil : gate.channels ≠ []
  ne_controlLabel : ∀ c ∈ gate.channels, c.1 ≠ Envelope.controlLabel
  isLabel : ∀ c ∈ gate.channels, isLabel c.1 = true
  isDialable : ∀ c ∈ gate.channels, isDialable c.2 = true

section

variable {parseUrl : String → Option Url}

/-- A channel that is found sound. -/
theorem checkChannel_eq_ok {label url : String} {u : Url}
    (h : checkChannel parseUrl label url = .ok u) :
    label ≠ Envelope.controlLabel ∧ Gate.isLabel label = true ∧ Gate.isDialable u = true := by
  unfold checkChannel at h
  split_ifs at h with hcontrol hlabel
  split at h
  · cases h
  · next u' _ =>
    split_ifs at h with hdial
    obtain rfl := Except.ok.inj h
    exact ⟨hcontrol, by simpa using hlabel, hdial⟩

/-- Channels that are found sound one after the other. -/
theorem checkChannels_eq_ok {name : String} {s : Section} :
    ∀ {channels : List (String × Url)}, checkChannels parseUrl name s = .ok channels →
    channels.map (·.1) = s.map (·.1) ∧ ∀ c ∈ channels, c.1 ≠ Envelope.controlLabel ∧
      Gate.isLabel c.1 = true ∧ Gate.isDialable c.2 = true := by
  induction s with
  | nil =>
    intro channels h
    obtain rfl := Except.ok.inj h
    exact ⟨rfl, by simp⟩
  | cons p rest ih =>
    intro channels h
    unfold checkChannels at h
    split at h
    · cases h
    · next u hu =>
      split at h
      · cases h
      · next more hmore =>
        obtain rfl := Except.ok.inj h
        obtain ⟨hnames, hsound⟩ := ih hmore
        refine ⟨by simp [hnames], ?_⟩
        intro c hc
        rcases List.mem_cons.mp hc with rfl | hc
        · exact checkChannel_eq_ok hu
        · exact hsound c hc

/-- A pair that is put in its place is added to the others. -/
theorem perm_insertByName {α : Type} (p : String × α) (pairs : List (String × α)) :
    (insertByName p pairs).Perm (p :: pairs) := by
  induction pairs with
  | nil => exact List.Perm.refl _
  | cons q rest ih =>
    unfold insertByName
    split_ifs
    · exact List.Perm.refl _
    · exact (ih.cons q).trans (List.Perm.swap p q rest)

/-- Sorting keeps the pairs. -/
theorem perm_sortByName {α : Type} (pairs : List (String × α)) :
    (sortByName pairs).Perm pairs := by
  induction pairs with
  | nil => exact List.Perm.refl _
  | cons p rest ih => exact (perm_insertByName p (sortByName rest)).trans (ih.cons p)

/-- A section makes a gate with its labels, if any. -/
theorem perm_labels_of_ofSection {name : String} {s : Section} {gate : Gate}
    (h : ofSection parseUrl name s = .ok gate) :
    (gate.channels.map (·.1)).Perm (s.map (·.1)) := by
  unfold ofSection at h
  split_ifs at h
  split at h
  · cases h
  · next channels hchannels =>
    obtain rfl := Except.ok.inj h
    obtain ⟨hnames, -⟩ := checkChannels_eq_ok hchannels
    rw [hnames]
    exact (perm_sortByName s).map _

/-- A section makes a sound gate, if any. -/
theorem isSound_of_ofSection {name : String} {s : Section} {gate : Gate}
    (h : ofSection parseUrl name s = .ok gate) : gate.IsSound := by
  unfold ofSection at h
  split_ifs at h with hempty
  split at h
  · cases h
  · next channels hchannels =>
    obtain rfl := Except.ok.inj h
    obtain ⟨hnames, hsound⟩ := checkChannels_eq_ok hchannels
    refine ⟨?_, fun c hc => (hsound c hc).1, fun c hc => (hsound c hc).2.1,
      fun c hc => (hsound c hc).2.2⟩
    rintro rfl
    have hsorted : sortByName s = [] := List.map_eq_nil_iff.mp hnames.symm
    have hnone : s = [] := (hsorted ▸ perm_sortByName s).symm.eq_nil
    simp [hnone] at hempty

/-- Each gate of sections is the gate of one of them. -/
theorem exists_of_ofSections {sections : List (String × Section)} :
    ∀ {gates : List Gate}, ofSections parseUrl sections = .ok gates → ∀ gate ∈ gates,
      ∃ p ∈ sections, ofSection parseUrl p.1 p.2 = .ok gate := by
  induction sections with
  | nil =>
    intro gates h gate hgate
    obtain rfl := Except.ok.inj h
    cases hgate
  | cons p rest ih =>
    intro gates h gate hgate
    unfold ofSections at h
    split at h
    · cases h
    · next first hfirst =>
      split at h
      · cases h
      · next more hmore =>
        obtain rfl := Except.ok.inj h
        rcases List.mem_cons.mp hgate with rfl | hgate
        · exact ⟨p, List.mem_cons_self, hfirst⟩
        · obtain ⟨q, hq, hsection⟩ := ih hmore gate hgate
          exact ⟨q, List.mem_cons_of_mem _ hq, hsection⟩

end

end Gate

namespace Registry

variable {text : String} {r : Registry} {gate : Gate}

/-- Each gate of a registry is the gate of a section of its file. -/
theorem exists_of_parse (h : parse text = .ok r) (hgate : gate ∈ r.gates) :
    ∃ file p, Gate.File.parse text = .ok file ∧ p ∈ file.gates ∧
      Gate.ofSection Url.parse p.1 p.2 = .ok gate := by
  unfold parse at h
  split at h
  · cases h
  · next file hfile =>
    split at h
    · cases h
    · next registry hregistry =>
      obtain rfl := Except.ok.inj h
      unfold ofFile at hregistry
      split_ifs at hregistry
      split at hregistry
      · cases hregistry
      · next gates hgates =>
        obtain rfl := Except.ok.inj hregistry
        obtain ⟨p, hp, hsection⟩ := Gate.exists_of_ofSections hgates gate hgate
        exact ⟨file, p, hfile, hp, hsection⟩

/-- Every gate of a registry is sound. -/
theorem isSound_of_parse (h : parse text = .ok r) (hgate : gate ∈ r.gates) : gate.IsSound := by
  obtain ⟨file, p, -, -, hsection⟩ := exists_of_parse h hgate
  exact Gate.isSound_of_ofSection hsection

/-- The labels of a gate are different. -/
theorem nodup_labels_of_parse (h : parse text = .ok r) (hgate : gate ∈ r.gates) :
    (gate.channels.map (·.1)).Nodup := by
  obtain ⟨file, p, hfile, hp, hsection⟩ := exists_of_parse h hgate
  have hlabels := (Gate.File.isTable_of_parse hfile).value p hp
  exact (Gate.perm_labels_of_ofSection hsection).nodup_iff.mpr hlabels.distinct

end Registry

end Switchboard
