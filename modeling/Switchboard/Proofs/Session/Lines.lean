import Switchboard.Proofs.Session.Run
/-!
# The lines of a session

While a session prepares, its lines tell exactly what was dialed, what was answered and which
endpoints there are (`Lines`): every channel of the gate has one line, a line that is not ready any
more was dialed once, and the channels of the exchange are those of the open lines. So when all
lines are open, each channel of the gate was dialed and has one endpoint, and nothing else was or has
(`Lines.complete`).
-/

namespace Switchboard.Session

/-! ### Definitions -/

/-- The channel that a line leads to. -/
def Line.channel (l : Line) : String × Url := (l.label, l.url)

/-- The channel that was dialed. -/
def Call.channel (c : Call) : String × Url := (c.label, c.url)

/-- What the lines of a session that prepares tell, after the given events. -/
structure Lines (past : List Event) (s : Session) : Prop where
  channels : s.lines.map Line.channel = s.gate.channels
  distinct : (s.gate.channels.map (·.1)).Nodup
  dialed : (s.dialed.map Call.channel).Perm
    ((s.lines.filter (·.state ≠ .ready)).map Line.channel)
  labels : s.exchange.labels.Perm ((s.lines.filter (·.state = .open)).map (·.label))
  answered {l : Line} : l ∈ s.lines → l.state = .answered none ∨ l.state = .open →
    .answerDial l.label none ∈ past

/-- Every channel of the gate was dialed once, was answered and has one endpoint, and no other. -/
structure IsComplete (past : List Event) (s : Session) : Prop where
  distinct : (s.gate.channels.map (·.1)).Nodup
  labels : s.exchange.labels.Perm (s.gate.channels.map (·.1))
  dialed : (s.dialed.map Call.channel).Perm s.gate.channels
  answered {label : String} : label ∈ s.gate.channels.map (·.1) →
    .answerDial label none ∈ past

section

variable {past : List Event} {s t : Session} {l : Line}

@[simp] theorem dialed_setLine (s : Session) (label : String) (state : LineState) :
    (s.setLine label state).dialed = s.dialed := rfl

@[simp] theorem exchange_setLine (s : Session) (label : String) (state : LineState) :
    (s.setLine label state).exchange = s.exchange := rfl

@[simp] theorem exchange_recordDial (s : Session) (l : Line) :
    (s.recordDial l).exchange = s.exchange := rfl

/-- The labels of the lines are those of the gate. -/
theorem Lines.labels_eq (h : Lines past s) :
    s.lines.map (·.label) = s.gate.channels.map (·.1) := by
  rw [← h.channels, List.map_map]
  rfl

/-- The lines have different labels. -/
theorem Lines.nodup_lines (h : Lines past s) : (s.lines.map (·.label)).Nodup :=
  h.labels_eq ▸ h.distinct

/-- The channels have different labels. -/
theorem Lines.nodup (h : Lines past s) : s.exchange.labels.Nodup :=
  h.labels.nodup_iff.mpr (h.nodup_lines.sublist (List.filter_sublist.map _))

/-- A line that is put in a state, among the others. -/
theorem Lines.exists_setLine (h : Lines past s) (hl : l ∈ s.lines) (state : LineState) :
    ∃ front back, s.lines = front ++ l :: back ∧
      (s.setLine l.label state).lines = front ++ { l with state := state } :: back := by
  have hlines := h.nodup_lines
  obtain ⟨front, back, heq⟩ := List.append_of_mem hl
  refine ⟨front, back, heq, ?_⟩
  rw [heq, List.map_append, List.map_cons, List.nodup_middle, List.nodup_cons] at hlines
  have hother {k : Line} (hk : k ∈ front ++ back) : k.label ≠ l.label := by
    intro hlabel
    rw [← List.map_append] at hlines
    exact hlines.1 (hlabel ▸ List.mem_map_of_mem hk)
  unfold setLine
  dsimp only
  rw [heq, List.map_append, List.map_cons, if_pos rfl]
  congr 1
  · apply (List.map_congr_left _).trans (List.map_id front)
    intro k hk
    rw [if_neg (hother (List.mem_append_left _ hk))]
    rfl
  · congr 1
    apply (List.map_congr_left _).trans (List.map_id back)
    intro k hk
    rw [if_neg (hother (List.mem_append_right _ hk))]
    rfl

/-- A line that is put in a state is among the lines. -/
theorem mem_setLine (hl : l ∈ s.lines) (state : LineState) :
    { l with state := state } ∈ (s.setLine l.label state).lines :=
  List.mem_map.mpr ⟨l, hl, if_pos rfl⟩

/-- The channels of the lines stay what they are. -/
theorem Lines.channels_setLine (h : Lines past s) (label : String) (state : LineState) :
    (s.setLine label state).lines.map Line.channel = s.gate.channels := by
  rw [← h.channels, setLine, List.map_map]
  apply List.map_congr_left
  intro k _
  by_cases hk : k.label = label <;> simp [hk, Line.channel]

/-- A line is found under its label. -/
theorem Lines.line?_eq (h : Lines past s) (hl : l ∈ s.lines) : s.line? l.label = some l := by
  have hsome : (s.line? l.label).isSome = true := List.find?_isSome.mpr ⟨l, hl, by simp⟩
  obtain ⟨k, hk⟩ := Option.isSome_iff_exists.mp hsome
  obtain ⟨hmem, hlabel⟩ := exists_line hk
  rw [hk, List.inj_on_of_nodup_map h.nodup_lines hmem hl hlabel]

/-- A line that is not ready any more leads to a channel of the gate, and was dialed. -/
theorem Lines.mem_dialed (h : Lines past s) (hl : l ∈ s.lines) (hr : l.state ≠ .ready) :
    l.channel ∈ s.gate.channels ∧ l.channel ∈ s.dialed.map Call.channel := by
  constructor
  · rw [← h.channels]
    exact List.mem_map_of_mem hl
  · refine h.dialed.mem_iff.mpr (List.mem_map_of_mem (List.mem_filter.mpr ⟨hl, ?_⟩))
    simpa using hr

/-- One more in the middle is one more at the end. -/
theorem perm_middle_concat {α : Type} (front back : List α) (a : α) :
    (front ++ a :: back).Perm ((front ++ back) ++ [a]) :=
  List.perm_middle.trans (List.perm_append_singleton a _).symm

/-- Only what the lines tell of matters. -/
theorem Lines.congr (h : Lines past s) (hlines : t.lines = s.lines) (hgate : t.gate = s.gate)
    (hdialed : t.dialed = s.dialed) (hlabels : t.exchange.labels = s.exchange.labels) :
    Lines past t := by
  obtain ⟨hchannels, hdistinct, hcalls, hopen, hanswered⟩ := h
  refine ⟨?_, ?_, ?_, ?_, ?_⟩
  · rwa [hlines, hgate]
  · rwa [hgate]
  · rwa [hlines, hdialed]
  · rwa [hlines, hlabels]
  · rwa [hlines]

/-- More has happened. -/
theorem Lines.concat (h : Lines past s) (event : Event) : Lines (past ++ [event]) s where
  channels := h.channels
  distinct := h.distinct
  dialed := h.dialed
  labels := h.labels
  answered hl hstate := List.mem_append_left _ (h.answered hl hstate)

/-! ### What becomes of a line -/

/-- A ready line is dialed. -/
theorem Lines.dial (h : Lines past s) (hl : l ∈ s.lines) (hready : l.state = .ready) :
    Lines past ((s.recordDial l).setLine l.label .ringing) := by
  obtain ⟨front, back, hlines, hset⟩ := h.exists_setLine hl .ringing
  have hset : ((s.recordDial l).setLine l.label .ringing).lines
      = front ++ { l with state := .ringing } :: back := hset
  refine ⟨h.channels_setLine l.label .ringing, h.distinct, ?_, ?_, ?_⟩
  · have hcalls := h.dialed
    rw [hlines] at hcalls
    rw [hset]
    simp only [List.filter_append, List.filter_cons, hready, ne_eq, not_true_eq_false, decide_false,
      Bool.false_eq_true, if_false, List.map_append] at hcalls
    simp only [List.filter_append, List.filter_cons, ne_eq, reduceCtorEq, not_false_eq_true,
      decide_true, if_true, List.map_append, List.map_cons]
    refine List.Perm.trans ?_ (perm_middle_concat _ _ _).symm
    have hconcat : ((s.recordDial l).setLine l.label .ringing).dialed.map Call.channel
        = s.dialed.map Call.channel ++ [l.channel] := List.map_append
    rw [hconcat]
    exact hcalls.append_right [l.channel]
  · have hopen := h.labels
    rw [hlines] at hopen
    rw [hset]
    simpa [List.filter_cons, hready] using hopen
  · intro k hk hstate
    rw [hset, List.mem_append, List.mem_cons] at hk
    rcases hk with hk | rfl | hk
    · exact h.answered (by simp [hlines, hk]) hstate
    · simp at hstate
    · exact h.answered (by simp [hlines, hk]) hstate

/-- A dial is answered. -/
theorem Lines.answer (h : Lines past s) (hl : l ∈ s.lines) (hringing : l.state = .ringing)
    (problem : Option Wire.SocketError) :
    Lines (past ++ [.answerDial l.label problem]) (s.setLine l.label (.answered problem)) := by
  obtain ⟨front, back, hlines, hset⟩ := h.exists_setLine hl (.answered problem)
  refine ⟨h.channels_setLine l.label (.answered problem), h.distinct, ?_, ?_, ?_⟩
  · have hcalls := h.dialed
    rw [hlines] at hcalls
    rw [hset]
    simpa [List.filter_cons, hringing, Line.channel] using hcalls
  · have hopen := h.labels
    rw [hlines] at hopen
    rw [hset]
    simpa [List.filter_cons, hringing] using hopen
  · intro k hk hstate
    rw [hset, List.mem_append, List.mem_cons] at hk
    rcases hk with hk | rfl | hk
    · exact List.mem_append_left _ (h.answered (by simp [hlines, hk]) hstate)
    · have hnone : problem = none := by simpa using hstate
      subst hnone
      simp
    · exact List.mem_append_left _ (h.answered (by simp [hlines, hk]) hstate)

/-- A line opens, and the exchange has a channel more. -/
theorem Lines.open (h : Lines past s) (hl : l ∈ s.lines) (hanswered : l.state = .answered none)
    {x : Exchange} (hx : x.labels = s.exchange.labels ++ [l.label]) :
    Lines past ({ s with exchange := x }.setLine l.label .open) := by
  obtain ⟨front, back, hlines, hset⟩ := h.exists_setLine hl .open
  have hset : (({ s with exchange := x } : Session).setLine l.label .open).lines
      = front ++ { l with state := .open } :: back := hset
  refine ⟨h.channels_setLine l.label .open, h.distinct, ?_, ?_, ?_⟩
  · have hcalls := h.dialed
    rw [hlines] at hcalls
    rw [hset]
    simpa [List.filter_cons, hanswered, Line.channel] using hcalls
  · have hopen := h.labels
    rw [hlines] at hopen
    rw [hset]
    simp only [List.filter_append, List.filter_cons, hanswered, reduceCtorEq, decide_false,
      Bool.false_eq_true, if_false, List.map_append] at hopen
    simp only [List.filter_append, List.filter_cons, decide_true, if_true, List.map_append,
      List.map_cons]
    refine List.Perm.trans ?_ (perm_middle_concat _ _ _).symm
    have hlabels : (({ s with exchange := x } : Session).setLine l.label .open).exchange.labels
        = s.exchange.labels ++ [l.label] := hx
    rw [hlabels]
    exact hopen.append_right [l.label]
  · intro k hk hstate
    rw [hset, List.mem_append, List.mem_cons] at hk
    rcases hk with hk | rfl | hk
    · exact h.answered (by simp [hlines, hk]) hstate
    · have hpast := h.answered hl (Or.inl hanswered)
      exact hpast
    · exact h.answered (by simp [hlines, hk]) hstate

/-- When every line is open, all is there. -/
theorem Lines.complete (h : Lines past s) (hopen : ∀ l ∈ s.lines, l.state = .open) :
    IsComplete past s where
  distinct := h.distinct
  labels := by
    have hall : s.lines.filter (·.state = .open) = s.lines := by
      rw [List.filter_eq_self]
      intro l hl
      simp [hopen l hl]
    rw [← h.labels_eq]
    exact hall ▸ h.labels
  dialed := by
    have hall : s.lines.filter (·.state ≠ .ready) = s.lines := by
      rw [List.filter_eq_self]
      intro l hl
      simp [hopen l hl]
    rw [← h.channels]
    exact hall ▸ h.dialed
  answered := by
    intro label hlabel
    rw [← h.labels_eq] at hlabel
    obtain ⟨l, hl, rfl⟩ := List.mem_map.mp hlabel
    exact h.answered hl (Or.inr (hopen l hl))

/-- A new session has dialed nothing. -/
theorem Lines.start (c : Configuration) (gate : Gate) (headers : Http.Headers) (isStopping : Bool)
    (now : Nat) (hd : (gate.channels.map (·.1)).Nodup) :
    Lines [] (start c gate headers isStopping now) := by
  have hready {l : Line} (hl : l ∈ (Session.start c gate headers isStopping now).lines) :
      l.state = .ready := by
    obtain ⟨channel, -, rfl⟩ := List.mem_map.mp hl
    rfl
  have hnone (p : LineState → Bool) (hp : p .ready = false) :
      (Session.start c gate headers isStopping now).lines.filter (fun l => p l.state) = [] := by
    rw [List.filter_eq_nil_iff]
    intro l hl
    simp [hready hl, hp]
  refine ⟨?_, hd, ?_, ?_, ?_⟩
  · have hmap : (Session.start c gate headers isStopping now).lines.map Line.channel
        = gate.channels.map id := by
      simp only [Session.start, List.map_map]
      rfl
    exact hmap.trans (List.map_id _)
  · rw [hnone (fun state => decide (state ≠ .ready)) rfl]
    exact List.Perm.nil
  · rw [hnone (fun state => decide (state = .open)) rfl]
    exact List.Perm.nil
  · intro l hl hstate
    simp [hready hl] at hstate

end

end Switchboard.Session
