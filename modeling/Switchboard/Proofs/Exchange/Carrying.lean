import Switchboard.Proofs.Endpoint.Retirement
import Switchboard.Proofs.Exchange.Dormant
/-!
# What an exchange does to its endpoints

Whatever an exchange and its session do to endpoints, short of closing them, leaves every endpoint
on its side, with all that it keeps while nobody closes it (`Carries`). Only the channels live in
the scope, so only they end with it. The client's endpoint has nothing to do with it
(`Side.isMember`).

Besides, no relay breaks off, and so no exchange fails (`IsSound`).
-/

namespace Switchboard.Exchange

open Endpoint

/-! ### Definitions -/

/-- Whether the endpoint on a side lives in the scope of the exchange. -/
def Side.isMember : Side → Bool
  | .client => false
  | .channel _ => true

/-- No relay has broken off, and no failure came of the exchange. -/
structure IsSound (x : Exchange) : Prop where
  relay {s : Side} {p : Party} {reason : String} : x.party? s = some p → p.relay ≠ .broken reason
  result {f : Failure} : x.result ≠ some (.error f)

/-- One exchange comes from another in the course of time, while nobody closes an endpoint. -/
structure Carries (now now' : Nat) (x y : Exchange) : Prop where
  present (s : Side) : (y.party? s).isSome = (x.party? s).isSome
  party {s : Side} {q : Party} : y.party? s = some q → ∃ p, x.party? s = some p ∧
    Persists s.isMember now now' p.endpoint q.endpoint ∧
    ∀ {reason}, q.relay = .broken reason → p.relay = .broken reason
  result {f : Failure} : IsSound x → y.result ≠ some (.error f)

/-- Every endpoint is still there in the course of time, with all that cannot be taken away from
it. -/
structure Retains (now now' : Nat) (x y : Exchange) : Prop where
  party {s : Side} {p : Party} : x.party? s = some p →
    ∃ q, y.party? s = some q ∧ Outlasts now now' p.endpoint q.endpoint

/-- Every endpoint has a property. -/
def Everywhere (P : Endpoint → Prop) (x : Exchange) : Prop :=
  ∀ s p, x.party? s = some p → P p.endpoint

section

variable {now now' now'' : Nat} {x y z : Exchange} {side : Side} {p : Party} {e : Endpoint}
  {P : Nat → Endpoint → Prop}

/-! ### Carrying -/

/-- No relay breaks off, and no failure comes of it. -/
theorem Carries.sound (h : Carries now now' x y) (hx : IsSound x) : IsSound y where
  relay hq hbroken := by
    obtain ⟨p, hp, -, hrelay⟩ := h.party hq
    exact hx.relay hp (hrelay hbroken)
  result := h.result hx

/-- Time passes. -/
theorem Carries.later (hle : now ≤ now') (x : Exchange) : Carries now now' x x where
  present _ := rfl
  party hq := ⟨_, hq, fun _ hP hp => hP.later hle hp, id⟩
  result hx := hx.result

theorem Carries.refl (now : Nat) (x : Exchange) : Carries now now x x := .later (Nat.le_refl now) x

theorem Carries.trans (h : Carries now now' x y) (h' : Carries now' now'' y z) :
    Carries now now'' x z where
  present s := (h'.present s).trans (h.present s)
  party hq := by
    obtain ⟨p', hp', hpersists', hrelay'⟩ := h'.party hq
    obtain ⟨p, hp, hpersists, hrelay⟩ := h.party hp'
    exact ⟨p, hp, hpersists.trans hpersists', fun hbroken => hrelay (hrelay' hbroken)⟩
  result hx := h'.result (h.sound hx)

/-- The client's endpoint comes from the client's. -/
theorem Carries.client (h : Carries now now' x y) :
    Persists false now now' x.client.endpoint y.client.endpoint := by
  obtain ⟨p, hp, hpersists, -⟩ := h.party (s := .client) rfl
  obtain rfl := Option.some.inj hp
  exact hpersists

/-- What all endpoints have that they keep while nobody closes them, they have later. -/
theorem Carries.everywhere (h : Carries now now' x y) (hP : ∀ member, IsSteady member P)
    (hx : Everywhere (P now) x) : Everywhere (P now') y := by
  intro s q hq
  obtain ⟨p, hp, hpersists, -⟩ := h.party hq
  exact hpersists P (hP _) (hx s p hp)

/-- What cannot be taken away from endpoints stays everywhere. -/
theorem Carries.everywhere_stable (h : Carries now now' x y) (hP : IsStable P)
    (hx : Everywhere (P now) x) : Everywhere (P now') y :=
  h.everywhere (fun member => hP.isSteady member) hx

/-! ### What is done to an exchange -/

/-- Only the parties matter, and what came of the exchange. -/
theorem Carries.of_eq (hparty : y.party? = x.party?) (hresult : y.result = x.result) :
    Carries now now x y where
  present s := by rw [hparty]
  party hq := ⟨_, hparty ▸ hq, .refl _ _ _, id⟩
  result hx := hresult ▸ hx.result

/-- One party is changed. -/
theorem Carries.of_modify {f : Party → Party} (hparty : y.party? = Parties.modify x.party? side f)
    (hpersists : ∀ {p}, x.party? side = some p →
      Persists side.isMember now now p.endpoint (f p).endpoint)
    (hrelay : ∀ {p reason}, (f p).relay = .broken reason → p.relay = .broken reason)
    (houtcome : y.outcome = x.outcome) : Carries now now x y where
  present := by
    intro s
    rw [hparty]
    exact Option.isSome_map
  party := by
    intro s q hq
    rw [hparty] at hq
    obtain ⟨p, hp, rfl⟩ := Parties.map_eq_some.mp hq
    refine ⟨p, hp, ?_⟩
    by_cases hs : s = side
    · subst hs
      rw [if_pos rfl]
      exact ⟨hpersists hp, hrelay⟩
    · rw [if_neg hs]
      exact ⟨.refl _ _ _, id⟩
  result hx := by
    have hresult : y.result = x.result := congrArg Prod.snd houtcome
    exact hresult ▸ hx.result

/-- An endpoint goes on. -/
theorem Carries.setEndpoint (hp : x.party? side = some p)
    (he : Tacit now p.endpoint side.isMember e) : Carries now now x (x.setEndpoint side e) := by
  refine .of_modify (party?_setEndpoint x side e) ?_ id (outcome_setEndpoint x side e)
  intro p' hp'
  obtain rfl := Parties.party_eq hp hp' rfl
  exact .of_tacit he

/-- Something is done to the endpoint on a side. -/
theorem Carries.onEndpoint (x : Exchange) {f : Endpoint → Endpoint}
    (hf : ∀ e, Persists side.isMember now now e (f e)) :
    Carries now now x (x.onEndpoint side f) :=
  .of_modify (party?_onEndpoint x side f) (fun _ => hf _) id (outcome_onEndpoint x side f)

/-- An endpoint is replaced by what has become of it. -/
theorem Carries.replace (hp : x.party? side = some p) (he : Tacit now p.endpoint side.isMember e) :
    Carries now now x (x.onEndpoint side fun _ => e) := by
  unfold Exchange.onEndpoint
  rw [hp]
  exact .setEndpoint hp he

/-- A relay goes on, or stops. -/
theorem Carries.setRelay (x : Exchange) {r : Relay} (hr : ∀ reason, r ≠ .broken reason) :
    Carries now now x (x.setRelay side r) :=
  .of_modify (party?_setRelay x side r) (fun _ => .refl _ _ _)
    (fun {_ reason} hbroken => absurd hbroken (hr reason)) (outcome_setRelay x side r)

/-- A relay has received a frame. -/
theorem Carries.receivedBy (x : Exchange) (frame : Bytes) :
    Carries now now x (x.receivedBy side frame) :=
  .of_modify (party?_receivedBy x side frame) (fun _ => .refl _ _ _) id
    (outcome_receivedBy x side frame)

/-- A line is added to the log. -/
theorem Carries.note (x : Exchange) (line : Option LogEntry) : Carries now now x (x.note line) :=
  .of_eq (party?_note x line) rfl

/-- Something is done to the endpoints of some sides. -/
theorem Carries.onSides (sides : List Side) {f : Endpoint → Endpoint}
    (hf : ∀ s ∈ sides, ∀ e, Persists s.isMember now now e (f e)) :
    ∀ x, Carries now now x (sides.foldl (fun x side => x.onEndpoint side f) x) := by
  induction sides with
  | nil =>
    intro x
    exact .refl now x
  | cons side sides ih =>
    intro x
    have hfirst : Carries now now x (x.onEndpoint side f) :=
      .onEndpoint x (hf side List.mem_cons_self)
    exact hfirst.trans (ih (fun s hs => hf s (List.mem_cons_of_mem _ hs)) _)

/-- Something is done to the endpoint of every channel. -/
theorem Carries.onChannels (x : Exchange) {f : Endpoint → Endpoint}
    (hf : ∀ e, Tacit now e true (f e)) : Carries now now x (x.onChannels f) := by
  rw [onChannels_eq]
  apply Carries.onSides
  intro s hs e
  obtain ⟨label, -, rfl⟩ := List.mem_map.mp hs
  exact .of_tacit (hf e)

/-- The relays begin. -/
theorem Carries.begin (x : Exchange) : Carries now now x x.begin := by
  have hparty : x.begin.party? = Parties.map x.party? fun _ p => p.begin := by
    funext s
    cases s with
    | client => rfl
    | channel label =>
      simp only [party?, Exchange.begin, List.find?_map, Parties.map, Option.map_map]
      rfl
  refine ⟨?_, ?_, fun hx => hx.result⟩
  · intro s
    rw [hparty]
    exact Option.isSome_map
  · intro s q hq
    rw [hparty] at hq
    obtain ⟨p, hp, rfl⟩ := Parties.map_eq_some.mp hq
    exact ⟨p, hp, .of_tacit .takeInbound, fun hbroken => by cases hbroken⟩

/-! ### Moves -/

/-- A relay sends. -/
theorem Carries.deliver (x : Exchange) (d : Delivery) :
    Carries now now x (x.deliver side d) := by
  unfold Exchange.deliver
  cases hq : x.party? d.target with
  | none => exact .refl now x
  | some q =>
    have hsent : Tacit now q.endpoint d.target.isMember (q.endpoint.send d.frame).2 := .send d.frame
    dsimp only
    split
    · next success e heq =>
      rw [heq] at hsent
      exact .setEndpoint hq hsent
    · next ticket e heq =>
      rw [heq] at hsent
      exact (Carries.setEndpoint hq hsent).trans (.setRelay _ (by simp))

/-- A relay goes on. -/
theorem Carries.relayOn (h : x.relayOn side = some y) : Carries now now x y := by
  unfold Exchange.relayOn at h
  cases hp : x.party? side with
  | none => simp [hp] at h
  | some p =>
    have hreceived : Tacit now p.endpoint side.isMember p.endpoint.receive.2 := .receive
    simp only [hp] at h
    split at h
    · split at h
      · next frame e heq =>
        obtain rfl := Option.some.inj h
        rw [heq] at hreceived
        exact (((Carries.setEndpoint hp hreceived).trans (.receivedBy _ frame)).trans
          (.note _ _)).trans (.deliver _ _)
      · cases h
      · next e heq =>
        obtain rfl := Option.some.inj h
        obtain ⟨rfl, -⟩ := eq_of_receive_ended heq
        have hnoted : (x.note (some (endLine side))).party? side = some p := by
          rw [party?_note, hp]
        exact ((Carries.note x _).trans (.setEndpoint hnoted .dropInbound)).trans
          (.setRelay _ (by simp))
    · next target ticket hr =>
      cases hq : x.party? target with
      | none => simp [hq] at h
      | some q =>
        simp only [hq] at h
        obtain ⟨⟨success, e⟩, hresume, rfl⟩ := Option.map_eq_some_iff.mp h
        have hstep : Endpoint.Step now q.endpoint (.resume ticket) e := by
          apply step_of_perform
          rw [Endpoint.perform, hresume]
          rfl
        exact (Carries.setEndpoint hq (.step hstep)).trans (.setRelay _ (by simp))
    · cases h

/-- A relay is stopped. -/
theorem Carries.stopRelay (x : Exchange) (side : Side) :
    Carries now now x (x.stopRelay side) := by
  have hdropped (x : Exchange) :
      Carries now now x ((x.onEndpoint side Endpoint.dropInbound).setRelay side .stopped) :=
    (Carries.onEndpoint x fun _ => .of_tacit .dropInbound).trans (.setRelay _ (by simp))
  unfold Exchange.stopRelay
  cases x.party? side with
  | none => exact .refl now x
  | some p =>
    dsimp only
    split
    · exact hdropped x
    · next target ticket _ =>
      have hwithdrawn : Carries now now x (x.onEndpoint target (·.withdraw ticket)) :=
        .onEndpoint x fun _ => .of_tacit (.withdraw ticket)
      exact hwithdrawn.trans (hdropped _)
    · exact .refl now x

/-- An exchange ends, and not with a failure unless one of its relays broke off. -/
theorem Carries.finishWith {r : Except Failure Unit} (hr : IsSound x → ∀ f, r ≠ .error f) :
    Carries now now x (x.finishWith r) := by
  have hstopped (sides : List Side) :
      ∀ x, Carries now now x (sides.foldl Exchange.stopRelay x) := by
    induction sides with
    | nil =>
      intro x
      exact .refl now x
    | cons side sides ih =>
      intro x
      exact (Carries.stopRelay x side).trans (ih _)
  obtain ⟨hpresent, hparty, -⟩ := hstopped x.sides x
  refine ⟨?_, ?_, ?_⟩
  · intro s
    rw [party?_finishWith]
    exact hpresent s
  · intro s q hq
    rw [party?_finishWith] at hq
    exact hparty hq
  · intro f hx hresult
    exact hr hx f (Option.some.inj hresult)

/-- Every move leaves each endpoint what it keeps while nobody closes it. -/
theorem Carries.perform {m : Move} (h : x.perform now m = some y) : Carries now now x y := by
  cases m with
  | endpoint side move =>
    simp only [Exchange.perform] at h
    split_ifs at h
    obtain ⟨p, hp, hmove⟩ := Option.bind_eq_some_iff.mp h
    obtain ⟨e, he, rfl⟩ := Option.map_eq_some_iff.mp hmove
    exact .setEndpoint hp (.step (step_of_perform he))
  | relay side => exact .relayOn h
  | finish =>
    simp only [Exchange.perform] at h
    split_ifs at h
    obtain rfl := Option.some.inj h
    exact .finishWith fun _ f hf => by cases hf
  | join side =>
    simp only [Exchange.perform] at h
    split_ifs at h
    obtain ⟨r, hresult, rfl⟩ := Option.map_eq_some_iff.mp h
    obtain ⟨p, hp, hresult⟩ := Option.bind_eq_some_iff.mp hresult
    refine .finishWith ?_
    rintro hx f rfl
    cases hrelay : p.relay with
    | broken reason => exact hx.relay hp hrelay
    | _ => simp [hrelay, Relay.result?] at hresult

/-! ### Endpoints that stay -/

theorem Retains.refl (now : Nat) (x : Exchange) : Retains now now x x where
  party hp := ⟨_, hp, .refl now _⟩

theorem Retains.trans (h : Retains now now' x y) (h' : Retains now' now'' y z) :
    Retains now now'' x z where
  party hp := by
    obtain ⟨q, hq, houtlasts⟩ := h.party hp
    obtain ⟨r, hr, houtlasts'⟩ := h'.party hq
    exact ⟨r, hr, houtlasts.trans houtlasts'⟩

/-- While nobody closes an endpoint, all stay. -/
theorem Carries.retains (h : Carries now now' x y) : Retains now now' x y where
  party := by
    intro s p hp
    have hpresent := h.present s
    rw [hp, Option.isSome_some, Option.isSome_iff_exists] at hpresent
    obtain ⟨q, hq⟩ := hpresent
    obtain ⟨p', hp', hpersists, -⟩ := h.party hq
    obtain rfl := Option.some.inj (hp.symm.trans hp')
    exact ⟨q, hq, fun _ hP => hpersists.stable hP⟩

/-- Something is done to the endpoint on a side. -/
theorem Retains.onEndpoint (x : Exchange) (side : Side) {f : Endpoint → Endpoint}
    (hf : ∀ e, Act now e (f e)) : Retains now now x (x.onEndpoint side f) where
  party := by
    intro s p hp
    rw [party?_onEndpoint]
    refine ⟨_, Parties.map_eq_some.mpr ⟨p, hp, rfl⟩, ?_⟩
    split_ifs
    · exact .of_acts (.single (hf p.endpoint))
    · exact .refl now p.endpoint

/-- Something is done to the endpoints of some sides. -/
theorem Retains.onSides (sides : List Side) {f : Endpoint → Endpoint}
    (hf : ∀ e, Act now e (f e)) :
    ∀ x, Retains now now x (sides.foldl (fun x side => x.onEndpoint side f) x) := by
  induction sides with
  | nil =>
    intro x
    exact .refl now x
  | cons side sides ih =>
    intro x
    exact (Retains.onEndpoint x side hf).trans (ih _)

/-! ### Whether an exchange is going on -/

@[simp] theorem isRunning_onSides (sides : List Side) (f : Endpoint → Endpoint) :
    ∀ x : Exchange,
      (sides.foldl (fun x side => x.onEndpoint side f) x).isRunning = x.isRunning := by
  induction sides with
  | nil =>
    intro x
    rfl
  | cons side sides ih =>
    intro x
    exact (ih _).trans (congrArg Prod.fst (outcome_onEndpoint x side f))

@[simp] theorem isRunning_onChannels (x : Exchange) (f : Endpoint → Endpoint) :
    (x.onChannels f).isRunning = x.isRunning := by
  rw [onChannels_eq, isRunning_onSides]

/-- An exchange that has ended does not go on. -/
theorem isRunning_perform {m : Move} (h : x.perform now m = some y) (hx : x.isRunning = false) :
    y.isRunning = false := by
  rcases evolves_or_finishes h with hevolves | ⟨r, rfl, -⟩
  · exact (congrArg Prod.fst hevolves.outcome).trans hx
  · rfl

/-! ### Closing -/

/-- What is done to some sides is not done to the others. -/
theorem party?_onSides_of_notMem {f : Endpoint → Endpoint} {sides : List Side} {s : Side}
    (hs : s ∉ sides) : ∀ x : Exchange,
      (sides.foldl (fun x side => x.onEndpoint side f) x).party? s = x.party? s := by
  induction sides with
  | nil =>
    intro x
    rfl
  | cons side sides ih =>
    intro x
    rw [List.mem_cons, not_or] at hs
    rw [List.foldl_cons, ih hs.2, party?_onEndpoint, Parties.modify, Parties.map]
    simp [hs.1]

/-- What is done to the endpoints of some sides shows there, and spoils nothing elsewhere. -/
theorem forall_onSides {P Q : Endpoint → Prop} {f : Endpoint → Endpoint}
    (hf : ∀ e, P e → P (f e) ∧ Q (f e)) (sides : List Side) : ∀ {x : Exchange}, Everywhere P x →
    ∀ {s p}, (sides.foldl (fun x side => x.onEndpoint side f) x).party? s = some p →
      P p.endpoint ∧ (s ∈ sides → Q p.endpoint) := by
  induction sides with
  | nil =>
    intro x hx s p hp
    exact ⟨hx s p hp, fun hs => absurd hs List.not_mem_nil⟩
  | cons side sides ih =>
    intro x hx s p hp
    have hfirst {s : Side} {q : Party} (hq : (x.onEndpoint side f).party? s = some q) :
        P q.endpoint ∧ (s = side → Q q.endpoint) := by
      rw [party?_onEndpoint] at hq
      obtain ⟨p, hp, rfl⟩ := Parties.map_eq_some.mp hq
      by_cases hs : s = side
      · rw [if_pos hs]
        exact ⟨(hf _ (hx s p hp)).1, fun _ => (hf _ (hx s p hp)).2⟩
      · rw [if_neg hs]
        exact ⟨hx s p hp, fun h => absurd h hs⟩
    rw [List.foldl_cons] at hp
    obtain ⟨hkept, hdone⟩ := ih (fun _ _ hp => (hfirst hp).1) hp
    refine ⟨hkept, ?_⟩
    intro hs
    by_cases hmem : s ∈ sides
    · exact hdone hmem
    · rw [party?_onSides_of_notMem hmem] at hp
      exact (hfirst hp).2 ((List.mem_cons.mp hs).resolve_right hmem)

/-- What is done to an endpoint spoils nothing. -/
theorem Everywhere.onEndpoint {P : Endpoint → Prop} {f : Endpoint → Endpoint}
    (hx : Everywhere P x) (hf : ∀ e, P e → P (f e)) : Everywhere P (x.onEndpoint side f) := by
  intro s p hp
  exact (forall_onSides (Q := P) (fun e he => ⟨hf e he, hf e he⟩) [side] hx hp).1

/-- What is done to the channels shows there. -/
theorem forall_onChannels {P Q : Endpoint → Prop} {f : Endpoint → Endpoint}
    (hf : ∀ e, P e → P (f e) ∧ Q (f e)) (hx : Everywhere P x) {s : Side} {p : Party}
    (hp : (x.onChannels f).party? s = some p) : P p.endpoint ∧ (s ≠ .client → Q p.endpoint) := by
  have hlabels := mem_sides hp
  rw [sides, labels_onChannels] at hlabels
  rw [onChannels_eq] at hp
  obtain ⟨hkept, hdone⟩ := forall_onSides hf _ hx hp
  exact ⟨hkept, fun hs => hdone ((List.mem_cons.mp hlabels).resolve_left hs)⟩

/-- What is done to all endpoints shows everywhere. -/
theorem forall_onAll {P Q : Endpoint → Prop} {f : Endpoint → Endpoint}
    (hf : ∀ e, P e → P (f e) ∧ Q (f e)) (hx : Everywhere P x) : Everywhere Q (x.onAll f) := by
  intro s p hp
  have hsides := mem_sides hp
  have hall : (x.onAll f).sides = x.sides := by rw [sides, sides, labels_onAll]
  exact (forall_onSides hf x.sides hx hp).2 (hall ▸ hsides)

/-- What is done to the channels is not done to the client, whatever their labels are. -/
theorem client_onChannels_eq (x : Exchange) (f : Endpoint → Endpoint) :
    (x.onChannels f).client = x.client := by
  have hclient : (x.onChannels f).party? .client = x.party? .client := by
    rw [onChannels_eq, party?_onSides_of_notMem (by simp)]
  exact Option.some.inj hclient

/-- Under different labels every channel is found. -/
theorem party?_of_mem (hn : x.labels.Nodup) {label : String} (hmem : (label, p) ∈ x.channels) :
    x.party? (.channel label) = some p := by
  obtain ⟨c, hc⟩ : ∃ c, x.channels.find? (·.1 = label) = some c := by
    rw [← Option.isSome_iff_exists, List.find?_isSome]
    exact ⟨(label, p), hmem, by simp⟩
  have hlabel : c.1 = label := by simpa using List.find?_some hc
  obtain rfl : c = (label, p) :=
    List.inj_on_of_nodup_map hn (List.mem_of_find?_eq_some hc) hmem hlabel
  rw [party?, hc, Option.map_some]

/-- An exchange with a channel more. -/
def addChannel (x : Exchange) (label : String) (e : Endpoint) : Exchange :=
  { x with channels := x.channels ++ [(label, .idle e)] }

/-- Every party of an exchange with a channel more was there or is that of the channel. -/
theorem party?_addChannel {label : String} {s : Side} {q : Party}
    (hq : (x.addChannel label e).party? s = some q) : x.party? s = some q ∨ q = .idle e := by
  cases s with
  | client => exact Or.inl hq
  | channel l =>
    simp only [addChannel, party?, List.find?_append, Option.map_or] at hq
    rcases Option.or_eq_some_iff.mp hq with hq | ⟨-, hq⟩
    · exact Or.inl hq
    · obtain ⟨c, hc, rfl⟩ := Option.map_eq_some_iff.mp hq
      obtain rfl := List.mem_singleton.mp (List.mem_of_find?_eq_some hc)
      exact Or.inr rfl

/-- With a channel more, all endpoints stay. -/
theorem Retains.addChannel (x : Exchange) (label : String) (e : Endpoint) :
    Retains now now x (x.addChannel label e) where
  party := by
    intro s p hp
    refine ⟨p, ?_, .refl now p.endpoint⟩
    cases s with
    | client => exact hp
    | channel l =>
      rw [party?, Exchange.addChannel, List.find?_append, Option.map_or]
      rw [party?] at hp
      rw [hp, Option.some_or]

/-- A channel more breaks nothing. -/
theorem IsSound.addChannel (hx : IsSound x) (label : String) (e : Endpoint) :
    IsSound (x.addChannel label e) where
  relay hq hbroken := by
    rcases party?_addChannel hq with hp | rfl
    · exact hx.relay hp hbroken
    · cases hbroken
  result := hx.result

end

end Switchboard.Exchange
