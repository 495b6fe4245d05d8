import Switchboard.Proofs.Exchange.Evolution
/-!
# Exchanges that have not begun

Before an exchange begins its relays are idle, and only its endpoints move. So each party goes on by
itself, and what all endpoints have is kept by what is done to each of them (`Dormant`).
-/

namespace Switchboard.Exchange

open Endpoint

/-- An exchange that has not begun, nor any of its relays, and whose endpoints have a property. -/
structure Dormant (Q : Side → Endpoint → Prop) (x : Exchange) : Prop where
  outcome : x.outcome = (false, none)
  party {s : Side} {p : Party} : x.party? s = some p → p = .idle p.endpoint ∧ Q s p.endpoint

section

variable {Q Q' : Side → Endpoint → Prop} {x y : Exchange} {side : Side} {now : Nat}

/-! ### The shape -/

@[simp] theorem shape_onSides (sides : List Side) (f : Endpoint → Endpoint) :
    ∀ x : Exchange, (sides.foldl (fun x side => x.onEndpoint side f) x).shape = x.shape := by
  induction sides with
  | nil =>
    intro x
    rfl
  | cons side sides ih =>
    intro x
    exact (ih _).trans (shape_onEndpoint x side f)

/-- What is done to every channel is done to the sides of the channels. -/
theorem onChannels_eq (x : Exchange) (f : Endpoint → Endpoint) :
    x.onChannels f = (x.labels.map .channel).foldl (fun x side => x.onEndpoint side f) x := by
  rw [onChannels, List.foldl_map]

@[simp] theorem shape_onChannels (x : Exchange) (f : Endpoint → Endpoint) :
    (x.onChannels f).shape = x.shape := by
  rw [onChannels_eq, shape_onSides]

@[simp] theorem shape_onAll (x : Exchange) (f : Endpoint → Endpoint) :
    (x.onAll f).shape = x.shape :=
  shape_onSides x.sides f x

/-- A relay that goes on leaves the shape as it is. -/
theorem shape_relayOn (h : x.relayOn side = some y) : y.shape = x.shape := by
  unfold relayOn at h
  cases hp : x.party? side with
  | none => simp [hp] at h
  | some p =>
    simp only [hp] at h
    split at h
    · split at h
      · obtain rfl := Option.some.inj h
        simp
      · cases h
      · obtain rfl := Option.some.inj h
        simp
    · next target ticket _ =>
      cases hq : x.party? target with
      | none => simp [hq] at h
      | some q =>
        simp only [hq] at h
        obtain ⟨⟨success, e⟩, -, rfl⟩ := Option.map_eq_some_iff.mp h
        simp
    · cases h

/-- The end of an exchange leaves the shape as it is. -/
theorem shape_finishWith (x : Exchange) (r : Except Failure Unit) :
    (x.finishWith r).shape = x.shape := by
  have hstop (sides : List Side) : ∀ x : Exchange, (sides.foldl stopRelay x).shape = x.shape := by
    induction sides with
    | nil =>
      intro x
      rfl
    | cons side sides ih =>
      intro x
      exact (ih _).trans (shape_stopRelay x side)
  exact hstop x.sides x

/-- Every move leaves the shape as it is. -/
theorem shape_perform {m : Move} (h : x.perform now m = some y) : y.shape = x.shape := by
  cases m with
  | endpoint side move =>
    simp only [perform] at h
    split_ifs at h
    obtain ⟨p, -, hmove⟩ := Option.bind_eq_some_iff.mp h
    obtain ⟨e, -, rfl⟩ := Option.map_eq_some_iff.mp hmove
    exact shape_setEndpoint x side e
  | relay side => exact shape_relayOn h
  | finish =>
    simp only [perform] at h
    split_ifs at h
    obtain rfl := Option.some.inj h
    exact shape_finishWith x _
  | join side =>
    simp only [perform] at h
    split_ifs at h
    obtain ⟨r, -, rfl⟩ := Option.map_eq_some_iff.mp h
    exact shape_finishWith x r

/-- The labels stay what they are where the shape does. -/
theorem labels_eq (h : y.shape = x.shape) : y.labels = x.labels := (Prod.mk.inj h).1

/-- The scope has ended or not where the shape stays as it is. -/
theorem isCancelled_eq (h : y.shape = x.shape) : y.isCancelled = x.isCancelled :=
  (Prod.mk.inj (Prod.mk.inj h).2).2

@[simp] theorem labels_onEndpoint (x : Exchange) (side : Side) (f : Endpoint → Endpoint) :
    (x.onEndpoint side f).labels = x.labels := labels_eq (shape_onEndpoint x side f)

@[simp] theorem labels_onChannels (x : Exchange) (f : Endpoint → Endpoint) :
    (x.onChannels f).labels = x.labels := labels_eq (shape_onChannels x f)

@[simp] theorem labels_onAll (x : Exchange) (f : Endpoint → Endpoint) :
    (x.onAll f).labels = x.labels := labels_eq (shape_onAll x f)

@[simp] theorem labels_begin (x : Exchange) : x.begin.labels = x.labels := by
  simp [labels, begin, Function.comp_def]

/-! ### What is done to several parties -/

/-- Something is done to the endpoints of some sides. -/
theorem party?_onSides (f : Endpoint → Endpoint) {sides : List Side} (hn : sides.Nodup) :
    ∀ x : Exchange, (sides.foldl (fun x side => x.onEndpoint side f) x).party? =
      Parties.map x.party? fun s p =>
        if s ∈ sides then { p with endpoint := f p.endpoint } else p := by
  induction sides with
  | nil =>
    intro x
    funext s
    simp [Parties.map]
  | cons side sides ih =>
    intro x
    rw [List.nodup_cons] at hn
    rw [List.foldl_cons, ih hn.2, party?_onEndpoint, Parties.modify, Parties.map_map]
    congr 1
    funext s p
    by_cases hs : s = side
    · subst hs
      simp [hn.1]
    · simp [hs]

/-- Something is done to the endpoint of every channel. -/
theorem party?_onChannels (x : Exchange) (hn : x.labels.Nodup) (f : Endpoint → Endpoint) :
    (x.onChannels f).party? = Parties.map x.party? fun s p =>
      if s ∈ x.labels.map .channel then { p with endpoint := f p.endpoint } else p := by
  have hsides : (x.labels.map Side.channel).Nodup := by
    apply hn.map
    intro a b hab
    exact Side.channel.inj hab
  rw [onChannels_eq, party?_onSides f hsides]

/-- What is done to the channels is not done to the client. -/
theorem client_onChannels (x : Exchange) (hn : x.labels.Nodup) (f : Endpoint → Endpoint) :
    (x.onChannels f).client = x.client := by
  have hclient := congrFun (party?_onChannels x hn f) .client
  simpa [party?, Parties.map] using hclient

/-! ### Dormant exchanges -/

/-- A dormant exchange is not going on. -/
theorem Dormant.notRunning (h : Dormant Q x) : x.isRunning = false := (Prod.mk.inj h.outcome).1

/-- What the endpoints have may be weakened. -/
theorem Dormant.mono (h : Dormant Q x) (hQ : ∀ s e, Q s e → Q' s e) : Dormant Q' x where
  outcome := h.outcome
  party hp := ⟨(h.party hp).1, hQ _ _ (h.party hp).2⟩

/-- Only the parties matter, and that the exchange is not going on. -/
theorem Dormant.congr (h : Dormant Q x) (hparty : y.party? = x.party?)
    (houtcome : y.outcome = x.outcome) : Dormant Q y where
  outcome := houtcome.trans h.outcome
  party := by
    rw [hparty]
    exact h.party

/-- The scope of the exchange ends. -/
theorem Dormant.cancelled (h : Dormant Q x) : Dormant Q { x with isCancelled := true } := by
  refine h.congr ?_ rfl
  funext side
  cases side <;> rfl

/-- An endpoint in its place. -/
theorem Dormant.setEndpoint (h : Dormant Q x) {e : Endpoint} (he : Q side e) :
    Dormant Q (x.setEndpoint side e) where
  outcome := (outcome_setEndpoint x side e).trans h.outcome
  party := by
    intro s q hq
    rw [party?_setEndpoint] at hq
    obtain ⟨p, hp, rfl⟩ := Parties.map_eq_some.mp hq
    by_cases hs : s = side
    · subst hs
      rw [if_pos rfl, (h.party hp).1]
      exact ⟨rfl, he⟩
    · rw [if_neg hs]
      exact h.party hp

/-- Something is done to the endpoint on a side. -/
theorem Dormant.onEndpoint (h : Dormant Q x) {f : Endpoint → Endpoint}
    (hf : ∀ e, Q side e → Q' side (f e)) (hQ : ∀ s e, s ≠ side → Q s e → Q' s e) :
    Dormant Q' (x.onEndpoint side f) where
  outcome := (outcome_onEndpoint x side f).trans h.outcome
  party := by
    intro s q hq
    rw [party?_onEndpoint] at hq
    obtain ⟨p, hp, rfl⟩ := Parties.map_eq_some.mp hq
    obtain ⟨hidle, hp⟩ := h.party hp
    by_cases hs : s = side
    · subst hs
      rw [if_pos rfl, hidle]
      exact ⟨rfl, hf _ hp⟩
    · rw [if_neg hs]
      exact ⟨hidle, hQ _ _ hs hp⟩

/-- Something is done to some sides. -/
theorem Dormant.onSides (sides : List Side) {f : Endpoint → Endpoint}
    (hf : ∀ s e, Q s e → Q s (f e)) : ∀ {x : Exchange}, Dormant Q x →
    Dormant Q (sides.foldl (fun x side => x.onEndpoint side f) x) := by
  induction sides with
  | nil => exact fun h => h
  | cons side sides ih =>
    intro x h
    exact ih (h.onEndpoint (hf side) fun _ _ _ => id)

/-- Something is done to every channel. -/
theorem Dormant.onChannels (h : Dormant Q x) (hn : x.labels.Nodup) {f : Endpoint → Endpoint}
    (hclient : ∀ e, Q .client e → Q' .client e)
    (hchannel : ∀ label e, Q (.channel label) e → Q' (.channel label) (f e)) :
    Dormant Q' (x.onChannels f) where
  outcome := by
    have hsame : Dormant (fun _ _ => True) (x.onChannels f) := by
      rw [onChannels_eq]
      exact Dormant.onSides _ (fun _ _ _ => trivial) (h.mono fun _ _ _ => trivial)
    exact hsame.outcome
  party := by
    intro s q hq
    rw [party?_onChannels x hn] at hq
    obtain ⟨p, hp, rfl⟩ := Parties.map_eq_some.mp hq
    obtain ⟨hidle, hQ⟩ := h.party hp
    cases s with
    | client =>
      rw [if_neg (by simp)]
      exact ⟨hidle, hclient _ hQ⟩
    | channel label =>
      rw [if_pos (List.mem_map_of_mem (mem_labels hp)), hidle]
      exact ⟨rfl, hchannel label _ hQ⟩

/-- Another channel. -/
theorem Dormant.addChannel (h : Dormant Q x) {label : String} {e : Endpoint}
    (he : Q (.channel label) e) :
    Dormant Q { x with channels := x.channels ++ [(label, .idle e)] } where
  outcome := h.outcome
  party := by
    intro s q hq
    cases s with
    | client => exact h.party hq
    | channel l =>
      simp only [party?, List.find?_append, Option.map_or] at hq
      rcases Option.or_eq_some_iff.mp hq with hq | ⟨-, hq⟩
      · exact h.party hq
      · obtain ⟨c, hc, rfl⟩ := Option.map_eq_some_iff.mp hq
        have hlabel := List.find?_some hc
        obtain rfl := List.mem_singleton.mp (List.mem_of_find?_eq_some hc)
        obtain rfl : label = l := by simpa using hlabel
        exact ⟨rfl, he⟩

/-- In a dormant exchange only the endpoints move. -/
theorem Dormant.perform (h : Dormant Q x) {m : Move} (hy : x.perform now m = some y) :
    ∃ side p move e, x.party? side = some p ∧ isRelayed move = false ∧
      Step now p.endpoint move e ∧ y = x.setEndpoint side e := by
  cases m with
  | endpoint side move =>
    simp only [Exchange.perform] at hy
    split_ifs at hy with hrelayed
    obtain ⟨p, hp, hmove⟩ := Option.bind_eq_some_iff.mp hy
    obtain ⟨e, he, rfl⟩ := Option.map_eq_some_iff.mp hmove
    exact ⟨side, p, move, e, hp, Bool.of_not_eq_true hrelayed, step_of_perform he, rfl⟩
  | relay side =>
    simp only [Exchange.perform, relayOn] at hy
    cases hp : x.party? side with
    | none => simp [hp] at hy
    | some p =>
      have hidle : p.relay = .idle := by rw [(h.party hp).1, Party.idle]
      simp [hp, hidle] at hy
  | finish => simp [Exchange.perform, h.notRunning] at hy
  | join side => simp [Exchange.perform, h.notRunning] at hy

/-- A move of a dormant exchange leaves it dormant. -/
theorem Dormant.step (h : Dormant Q x) {m : Move} (hy : x.perform now m = some y)
    (hstep : ∀ {s e e' move}, isRelayed move = false → Step now e move e' → Q s e → Q s e') :
    Dormant Q y := by
  obtain ⟨side, p, move, e, hp, hrelayed, he, rfl⟩ := h.perform hy
  exact h.setEndpoint (hstep hrelayed he (h.party hp).2)

end

end Switchboard.Exchange
