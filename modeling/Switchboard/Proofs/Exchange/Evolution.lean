import Switchboard.Proofs.Endpoint.Act
import Switchboard.Proofs.Exchange.Run
/-!
# How an exchange goes on

An exchange changes its parties by a few steps (`Party.Step`), besides what their sockets do. A
property of parties that none of these takes away is stable (`Party.IsStable`); it may speak of what
has arrived. Every event leaves an exchange as it is, up to its parties (`Evolves`), or ends it, and
so its parties keep every stable property in all runs (`Party.IsStable.run`), and its endpoints too
(`forall_run`).

Its relays are stopped only by its end. So an exchange that goes on has no result, and one that has
ended has the result of its relays, which is a good one (`Orderly.run`).
-/

namespace Switchboard.Exchange

open Endpoint

/-! ### Definitions -/

/-- What arrives at a side. -/
def arrivalsAt (side : Side) (events : List Event) : List Wire.Arrival :=
  events.flatMap fun
    | .arrive s a => if s = side then [a] else []
    | _ => []

/-- Whether an exchange is going on, and what came of it. -/
def outcome (x : Exchange) : Bool × Option (Except Failure Unit) := (x.isRunning, x.result)

/-- A relay that has begun and has not come to an end. -/
def Relay.IsActive : Relay → Prop
  | .receiving => True
  | .sending _ _ => True
  | _ => False

/-- What happens to a party when its exchange moves. -/
inductive Party.Step (now : Nat) (p : Party) : Party → Prop
  /-- The endpoint goes on, and keeps the queue that its relay has. -/
  | act {e : Endpoint} (h : Act now p.endpoint e)
    (hc : p.endpoint.consumer = .taken → e.consumer = .taken) : Step now p { p with endpoint := e }
  | received (frame : Bytes) : Step now p { p with relayed := p.relayed ++ [frame] }
  /-- The relay receives, or waits. -/
  | relay {r : Relay} (hp : p.relay.IsActive) (hr : r.IsActive) : Step now p { p with relay := r }
  /-- The relay sees the end of what it reads. -/
  | ended (hp : p.relay = .receiving) (he : p.endpoint.receive.1 = .ended) :
    Step now p { p with endpoint := p.endpoint.dropInbound, relay := .ended }
  | stopped (hp : p.relay.IsActive) :
    Step now p { p with endpoint := p.endpoint.dropInbound, relay := .stopped }

/-- A property of a party at a time, when something has arrived there, that nothing takes away that
happens in an exchange. -/
structure Party.IsStable (P : Nat → List Wire.Arrival → Party → Prop) : Prop where
  step {now : Nat} {heard : List Wire.Arrival} {p q : Party} : Party.Step now p q →
    P now heard p → P now heard q
  arrive {now : Nat} {heard : List Wire.Arrival} {p : Party} (a : Wire.Arrival) : P now heard p →
    P now (heard ++ [a]) { p with endpoint := p.endpoint.arrive a }
  setFlow {now : Nat} {heard : List Wire.Arrival} {p : Party} (flow : Wire.Flow) :
    P now heard p → P now heard { p with endpoint := p.endpoint.setFlow flow }
  later {now now' : Nat} {heard : List Wire.Arrival} {p : Party} : now ≤ now' →
    P now heard p → P now' heard p

/-- One party comes from another in the course of time, while something arrives: it has every stable
property that the other had. -/
def Party.Outlasts (now now' : Nat) (arrivals : List Wire.Arrival) (p q : Party) : Prop :=
  ∀ P : Nat → List Wire.Arrival → Party → Prop, Party.IsStable P →
    ∀ heard, P now heard p → P now' (heard ++ arrivals) q

/-- What becomes of an exchange that does not end: each party comes from the one that was there, and
its relay is not stopped, unless it is said that relays may be. -/
structure Evolves (stops : Prop) (now now' : Nat) (arrivals : Side → List Wire.Arrival)
    (x y : Exchange) : Prop where
  present (s : Side) : (y.party? s).isSome = (x.party? s).isSome
  party {s : Side} {q : Party} : y.party? s = some q → ∃ p, x.party? s = some p ∧
    Party.Outlasts now now' (arrivals s) p q ∧
    (q.relay = .stopped → stops ∨ p.relay = .stopped)
  outcome : y.outcome = x.outcome

/-- Nothing arrives. -/
def silence : Side → List Wire.Arrival := fun _ => []

/-- Why an exchange ends with a result: its scope has ended, or a relay has come to that result. -/
def Causes (x : Exchange) (r : Except Failure Unit) : Prop :=
  x.isCancelled = true ∧ r = .ok () ∨
    ∃ side p, x.party? side = some p ∧ p.relay.result? = some r

/-- An exchange that is in order: it has a result exactly when it has ended, a good one and only
after some lifetime has ended; no relay is stopped before, and none goes on then. -/
structure Orderly (x : Exchange) : Prop where
  isRunning_iff : x.isRunning = true ↔ x.result = none
  result_eq {r : Except Failure Unit} : x.result = some r → r = .ok () ∧ SomeDone x.party?
  unstopped {s : Side} {p : Party} : x.isRunning = true → x.party? s = some p → p.relay ≠ .stopped
  inactive {s : Side} {p : Party} : x.isRunning = false → x.party? s = some p → ¬p.relay.IsActive

section

variable {stops : Prop} {now now' now'' : Nat} {x y z : Exchange} {side : Side} {p q : Party}
  {e : Endpoint} {r : Relay} {arrivals : Side → List Wire.Arrival} {heard : List Wire.Arrival}

/-! ### What becomes of a party -/

/-- A party comes from itself. -/
theorem Party.Outlasts.refl (now : Nat) (p : Party) : Party.Outlasts now now [] p p := by
  intro P _ heard hp
  rwa [List.append_nil]

/-- What comes from it later comes from it too. -/
theorem Party.Outlasts.trans {p₁ : Party} (h : Party.Outlasts now now' [] p p₁)
    (h' : Party.Outlasts now' now'' heard p₁ q) : Party.Outlasts now now'' heard p q := by
  intro P hP before hp
  have hp₁ := h P hP before hp
  rw [List.append_nil] at hp₁
  exact h' P hP before hp₁

/-- A party comes by a step from what it was. -/
theorem Party.Outlasts.of_step (h : Party.Step now p q) : Party.Outlasts now now [] p q := by
  intro P hP heard hp
  rw [List.append_nil]
  exact hP.step h hp

/-- A stable property of endpoints is one of parties. -/
theorem Party.IsStable.of_endpoint {P : Nat → Endpoint → Prop} (hP : Endpoint.IsStable P) :
    Party.IsStable fun now _ p => P now p.endpoint where
  step h hp := by
    cases h with
    | act h => exact hP.act h hp
    | received | relay => exact hp
    | ended | stopped => exact hP.act .dropInbound hp
  arrive a hp := hP.arrive a hp
  setFlow flow hp := hP.setFlow flow hp
  later hle hp := hP.later hle hp

/-- The endpoint of a party that comes from another comes from that of the other. -/
theorem Party.Outlasts.endpoint (h : Party.Outlasts now now' heard p q) :
    Endpoint.Outlasts now now' p.endpoint q.endpoint :=
  fun _ hP hp => h _ (.of_endpoint hP) [] hp

/-- A step leaves an inbound queue with the relay that has it, unless it drops it. -/
theorem consumer_of_step {e e' : Endpoint} {m : Endpoint.Move} (h : Endpoint.Step now e m e')
    (hc : e.consumer = .taken) : e'.consumer = .taken := by
  by_cases hm : ∃ ticket, m = .resume ticket
  · obtain ⟨ticket, rfl⟩ := hm
    cases h with
    | reader h => cases h
    | writer h => cases h
    | farewell _ h => cases h
    | accepted | refused => exact hc
  · have hkeeps := Endpoint.Keeps.step h fun ticket hticket => hm ⟨ticket, hticket⟩
    rw [hkeeps.consumer (by simp [hc]), hc]

/-! ### What is done to parties -/

@[simp] theorem outcome_setParty (x : Exchange) (side : Side) (p : Party) :
    (x.setParty side p).outcome = x.outcome := by
  cases side <;> rfl

@[simp] theorem outcome_setEndpoint (x : Exchange) (side : Side) (e : Endpoint) :
    (x.setEndpoint side e).outcome = x.outcome := by
  unfold setEndpoint
  cases x.party? side with
  | none => rfl
  | some p => exact outcome_setParty x side _

@[simp] theorem outcome_setRelay (x : Exchange) (side : Side) (r : Relay) :
    (x.setRelay side r).outcome = x.outcome := by
  unfold setRelay
  cases x.party? side with
  | none => rfl
  | some p => exact outcome_setParty x side _

@[simp] theorem outcome_receivedBy (x : Exchange) (side : Side) (frame : Bytes) :
    (x.receivedBy side frame).outcome = x.outcome := by
  unfold receivedBy
  cases x.party? side with
  | none => rfl
  | some p => exact outcome_setParty x side _

@[simp] theorem outcome_onEndpoint (x : Exchange) (side : Side) (f : Endpoint → Endpoint) :
    (x.onEndpoint side f).outcome = x.outcome := by
  unfold Exchange.onEndpoint
  cases x.party? side with
  | none => rfl
  | some p => exact outcome_setEndpoint x side _

/-- An exchange comes from itself. -/
theorem Evolves.refl (stops : Prop) (now : Nat) (x : Exchange) :
    Evolves stops now now silence x x where
  present _ := rfl
  party hq := ⟨_, hq, .refl now _, Or.inr⟩
  outcome := rfl

/-- What comes from it later comes from it too. -/
theorem Evolves.trans (h : Evolves stops now now' silence x y)
    (h' : Evolves stops now' now'' arrivals y z) : Evolves stops now now'' arrivals x z where
  present s := (h'.present s).trans (h.present s)
  party := by
    intro s q hq
    obtain ⟨p', hp', hlasts', hstopped'⟩ := h'.party hq
    obtain ⟨p, hp, hlasts, hstopped⟩ := h.party hp'
    refine ⟨p, hp, hlasts.trans hlasts', ?_⟩
    intro hq'
    rcases hstopped' hq' with hstops | hp''
    · exact Or.inl hstops
    · exact hstopped hp''
  outcome := h'.outcome.trans h.outcome

/-- One party is changed. -/
theorem Evolves.of_modify {f : Party → Party} (hparty : y.party? = Parties.modify x.party? side f)
    (hlasts : ∀ {p}, x.party? side = some p →
      Party.Outlasts now now (arrivals side) p (f p))
    (hother : ∀ s, s ≠ side → arrivals s = [])
    (hstopped : ∀ {p}, x.party? side = some p → (f p).relay = .stopped →
      stops ∨ p.relay = .stopped)
    (houtcome : y.outcome = x.outcome) : Evolves stops now now arrivals x y where
  present := by
    intro s
    rw [hparty]
    exact Option.isSome_map
  party := by
    intro s q hq
    rw [hparty] at hq
    obtain ⟨p, hp, rfl⟩ := Parties.map_eq_some.mp hq
    refine ⟨p, hp, ?_⟩
    by_cases hs : s = side
    · subst hs
      rw [if_pos rfl]
      exact ⟨hlasts hp, hstopped hp⟩
    · rw [if_neg hs, hother s hs]
      exact ⟨.refl now _, Or.inr⟩
  outcome := houtcome

/-- An endpoint goes on. -/
theorem Evolves.setEndpoint (hp : x.party? side = some p) (he : Act now p.endpoint e)
    (hc : p.endpoint.consumer = .taken → e.consumer = .taken) :
    Evolves stops now now silence x (x.setEndpoint side e) := by
  refine .of_modify (party?_setEndpoint x side e) ?_ (fun _ _ => rfl) ?_
    (outcome_setEndpoint x side e)
  · intro p' hp'
    obtain rfl := Parties.party_eq hp hp' rfl
    exact .of_step (.act he hc)
  · intro p' _
    exact Or.inr

/-- Something is done to an endpoint, whoever is there. -/
theorem Evolves.onEndpoint {f : Endpoint → Endpoint}
    (hf : ∀ p : Party, Party.Outlasts now now (arrivals side) p { p with endpoint := f p.endpoint })
    (hother : ∀ s, s ≠ side → arrivals s = []) :
    Evolves stops now now arrivals x (x.onEndpoint side f) := by
  refine .of_modify (party?_onEndpoint x side f) (fun _ => hf _) hother ?_ ?_
  · intro p _
    exact Or.inr
  · exact outcome_onEndpoint x side f

/-- An endpoint goes on, whoever is there. -/
theorem Evolves.onEndpoint_act {f : Endpoint → Endpoint} (hf : ∀ e, Act now e (f e))
    (hc : ∀ e : Endpoint, e.consumer = .taken → (f e).consumer = .taken) :
    Evolves stops now now silence x (x.onEndpoint side f) :=
  .onEndpoint (fun p => .of_step (.act (hf p.endpoint) (hc p.endpoint))) fun _ _ => rfl

/-- A relay goes on. -/
theorem Evolves.setRelay (hp : ∀ {p}, x.party? side = some p → p.relay.IsActive)
    (hr : r.IsActive) : Evolves stops now now silence x (x.setRelay side r) := by
  refine .of_modify (party?_setRelay x side r) ?_ (fun _ _ => rfl) ?_ (outcome_setRelay x side r)
  · intro p hp'
    exact .of_step (.relay (hp hp') hr)
  · rintro p _ rfl
    cases hr

/-- A relay has received a frame. -/
theorem Evolves.receivedBy (frame : Bytes) :
    Evolves stops now now silence x (x.receivedBy side frame) := by
  refine .of_modify (party?_receivedBy x side frame) ?_ (fun _ _ => rfl) ?_
    (outcome_receivedBy x side frame)
  · intro p _
    exact .of_step (.received frame)
  · intro p _
    exact Or.inr

/-- A line is added to the log. -/
theorem Evolves.note (line : Option LogEntry) :
    Evolves stops now now silence x (x.note line) where
  present s := by rw [party?_note]
  party := by
    intro s q hq
    rw [party?_note] at hq
    exact ⟨q, hq, .refl now _, Or.inr⟩
  outcome := rfl

/-! ### Moves -/

/-- A change of an endpoint leaves the relays as they are. -/
theorem relay_setEndpoint {target : Side} (hp : x.party? side = some p) {e : Endpoint} {p' : Party}
    (hp' : (x.setEndpoint target e).party? side = some p') : p'.relay = p.relay := by
  rw [party?_setEndpoint, Parties.modify_eq_some hp] at hp'
  obtain rfl := Option.some.inj hp'
  split_ifs <;> rfl

/-- A relay sends. -/
theorem Evolves.deliver (hp : x.party? side = some p) (hr : p.relay.IsActive) (d : Delivery) :
    Evolves False now now silence x (x.deliver side d) := by
  unfold Exchange.deliver
  cases hq : x.party? d.target with
  | none => exact .refl False now x
  | some q =>
    have hsent : Act now q.endpoint (q.endpoint.send d.frame).2 := .send d.frame
    have hconsumer : (q.endpoint.send d.frame).2.consumer = q.endpoint.consumer := by
      have hs := sent_send q.endpoint d.frame
      generalize q.endpoint.send d.frame = sent at hs
      cases hs <;> rfl
    dsimp only
    split
    · next success e heq =>
      rw [heq] at hsent hconsumer
      exact .setEndpoint hq hsent (hconsumer.trans ·)
    · next ticket e heq =>
      rw [heq] at hsent hconsumer
      refine (Evolves.setEndpoint hq hsent (hconsumer.trans ·)).trans (.setRelay ?_ trivial)
      intro p' hp'
      rwa [relay_setEndpoint hp hp']

/-- A relay goes on. -/
theorem Evolves.relayOn (h : x.relayOn side = some y) : Evolves False now now silence x y := by
  unfold Exchange.relayOn at h
  cases hp : x.party? side with
  | none => simp [hp] at h
  | some p =>
    simp only [hp] at h
    split at h
    · next hr =>
      split at h
      · next frame e heq =>
        obtain rfl := Option.some.inj h
        have hreceived : Act now p.endpoint e := by
          have hact : Act now p.endpoint p.endpoint.receive.2 := .receive
          rwa [heq] at hact
        have hconsumer : p.endpoint.consumer = .taken → e.consumer = .taken := by
          obtain ⟨rest, rfl⟩ := eq_of_receive_frame heq
          exact id
        have hparty := Parties.modify_eq_some (Parties.modify_eq_some hp side
          fun p => { p with endpoint := e }) side fun p => { p with relayed := p.relayed ++ [frame] }
        rw [if_pos rfl, if_pos rfl, ← party?_setEndpoint, ← party?_receivedBy,
          ← party?_note _ (x.forFrame side frame).2] at hparty
        have hactive : p.relay.IsActive := by
          rw [hr]
          trivial
        exact (((Evolves.setEndpoint hp hreceived hconsumer).trans (.receivedBy frame)).trans
          (.note _)).trans (.deliver hparty hactive _)
      · cases h
      · next e heq =>
        obtain rfl := Option.some.inj h
        obtain ⟨rfl, -⟩ := eq_of_receive_ended heq
        have hparty : (((x.note (some (endLine side))).setEndpoint side
            p.endpoint.dropInbound).setRelay side .ended).party? =
            Parties.modify (x.note (some (endLine side))).party? side
              fun p' => { p' with endpoint := p.endpoint.dropInbound, relay := .ended } := by
          rw [party?_setRelay, party?_setEndpoint, Parties.modify_modify]
        refine (Evolves.note (some (endLine side))).trans (.of_modify hparty ?_ (fun _ _ => rfl) ?_
          (by rw [outcome_setRelay, outcome_setEndpoint]))
        · intro p' hp'
          rw [party?_note] at hp'
          obtain rfl := Parties.party_eq hp hp' rfl
          exact .of_step (.ended hr (by rw [heq]))
        · intro p' _ hstopped
          cases hstopped
    · next target ticket hr =>
      cases hq : x.party? target with
      | none => simp [hq] at h
      | some q =>
        simp only [hq] at h
        obtain ⟨⟨success, e⟩, hresume, rfl⟩ := Option.map_eq_some_iff.mp h
        have hstep : Endpoint.Step now q.endpoint (.resume ticket) e := by
          apply step_of_perform
          rw [Endpoint.perform, hresume]
          rfl
        refine (Evolves.setEndpoint hq (.step hstep) (consumer_of_step hstep)).trans
          (.setRelay ?_ trivial)
        intro p' hp'
        rw [relay_setEndpoint hp hp', hr]
        trivial
    · cases h

/-- A relay that has begun is stopped, and drops what it reads. -/
theorem Evolves.stop {x : Exchange} (hp : x.party? side = some p) (hr : p.relay.IsActive) :
    Evolves True now now silence x
      ((x.onEndpoint side Endpoint.dropInbound).setRelay side .stopped) := by
  have hparty : ((x.onEndpoint side Endpoint.dropInbound).setRelay side .stopped).party? =
      Parties.modify x.party? side
        fun p => { p with endpoint := p.endpoint.dropInbound, relay := .stopped } := by
    rw [party?_setRelay, party?_onEndpoint, Parties.modify_modify]
  refine .of_modify hparty ?_ (fun _ _ => rfl) (fun _ _ => Or.inl trivial)
    (by rw [outcome_setRelay, outcome_onEndpoint])
  intro p' hp'
  obtain rfl := Parties.party_eq hp hp' rfl
  exact .of_step (.stopped hr)

/-- A relay is stopped. -/
theorem Evolves.stopRelay (x : Exchange) (side : Side) (now : Nat) :
    Evolves True now now silence x (x.stopRelay side) := by
  unfold Exchange.stopRelay
  cases hp : x.party? side with
  | none => exact .refl True now x
  | some p =>
    dsimp only
    split
    · next hr =>
      apply Evolves.stop hp
      rw [hr]
      trivial
    · next target ticket hr =>
      have hwithdrawn : Evolves True now now silence x (x.onEndpoint target (·.withdraw ticket)) :=
        .onEndpoint_act (fun e => .withdraw ticket) fun _ => id
      have hp' : ∃ p', (x.onEndpoint target (·.withdraw ticket)).party? side = some p' ∧
          p'.relay = p.relay := by
        rw [party?_onEndpoint]
        refine ⟨_, Parties.modify_eq_some hp _ _, ?_⟩
        split_ifs <;> rfl
      obtain ⟨p', hp', hrelay⟩ := hp'
      apply hwithdrawn.trans
      apply Evolves.stop hp'
      rw [hrelay, hr]
      trivial
    · exact .refl True now x

/-- All relays are stopped. -/
theorem Evolves.stopRelays (now : Nat) (sides : List Side) :
    ∀ x, Evolves True now now silence x (sides.foldl Exchange.stopRelay x) := by
  induction sides with
  | nil =>
    intro x
    exact .refl True now x
  | cons side sides ih =>
    intro x
    exact (Evolves.stopRelay x side now).trans (ih _)

/-- A relay that has come to an end does not go on. -/
theorem isStable_inactive : Party.IsStable fun _ _ p => ¬p.relay.IsActive where
  step h hp := by
    cases h with
    | act | received => exact hp
    | relay hr => exact absurd hr hp
    | ended | stopped => exact id
  arrive _ := id
  setFlow _ := id
  later _ := id

/-- A relay that is stopped does not go on. -/
theorem not_isActive_stopRelay (x : Exchange) (side : Side) {q : Party}
    (hq : (x.stopRelay side).party? side = some q) : ¬q.relay.IsActive := by
  have hstopped {y : Exchange} (hq : (y.setRelay side .stopped).party? side = some q) :
      ¬q.relay.IsActive := by
    rw [party?_setRelay] at hq
    obtain ⟨p, -, rfl⟩ := Parties.map_eq_some.mp hq
    rw [if_pos rfl]
    exact id
  unfold Exchange.stopRelay at hq
  cases hp : x.party? side with
  | none => simp [hp] at hq
  | some p =>
    simp only [hp] at hq
    split at hq
    · exact hstopped hq
    · exact hstopped hq
    · next hreceiving hsending =>
      obtain rfl := Parties.party_eq hp hq rfl
      cases hr : q.relay with
      | receiving => exact absurd hr hreceiving
      | sending target ticket => exact absurd hr (hsending target ticket)
      | idle | ended | broken | stopped => exact id

/-- When all are stopped none goes on. -/
theorem not_isActive_stopRelays (sides : List Side) : ∀ {x : Exchange} {side : Side} {q : Party},
    side ∈ sides → (sides.foldl Exchange.stopRelay x).party? side = some q →
    ¬q.relay.IsActive := by
  induction sides with
  | nil =>
    intro x side q hside
    cases hside
  | cons first sides ih =>
    intro x side q hside hq
    by_cases hmem : side ∈ sides
    · exact ih hmem hq
    · obtain rfl := (List.mem_cons.mp hside).resolve_right hmem
      obtain ⟨p, hp, hlasts, -⟩ := (Evolves.stopRelays 0 sides (x.stopRelay side)).party hq
      exact hlasts _ isStable_inactive [] (not_isActive_stopRelay x side hp)

/-- When an exchange has ended no relay goes on. -/
theorem not_isActive_finishWith {r : Except Failure Unit}
    (hq : (x.finishWith r).party? side = some q) : ¬q.relay.IsActive := by
  rw [party?_finishWith] at hq
  obtain ⟨p, hp, -⟩ := (Evolves.stopRelays 0 x.sides x).party hq
  exact not_isActive_stopRelays x.sides (mem_sides hp) hq

/-- A move leaves an exchange going on, or it ends it for a cause. -/
theorem evolves_or_finishes {m : Move} (h : x.perform now m = some y) :
    Evolves False now now silence x y ∨ ∃ r, y = x.finishWith r ∧ Causes x r := by
  cases m with
  | endpoint side move =>
    simp only [perform] at h
    split_ifs at h
    obtain ⟨p, hp, hmove⟩ := Option.bind_eq_some_iff.mp h
    obtain ⟨e, he, rfl⟩ := Option.map_eq_some_iff.mp hmove
    have hstep := step_of_perform he
    exact Or.inl (.setEndpoint hp (.step hstep) (consumer_of_step hstep))
  | relay side => exact Or.inl (.relayOn h)
  | finish =>
    simp only [perform, Bool.and_eq_true] at h
    split_ifs at h with hend
    obtain rfl := Option.some.inj h
    exact Or.inr ⟨.ok (), rfl, Or.inl ⟨hend.2, rfl⟩⟩
  | join side =>
    simp only [perform] at h
    split_ifs at h
    obtain ⟨r, hresult, rfl⟩ := Option.map_eq_some_iff.mp h
    obtain ⟨p, hp, hresult⟩ := Option.bind_eq_some_iff.mp hresult
    exact Or.inr ⟨r, rfl, Or.inr ⟨side, p, hp, hresult⟩⟩

/-! ### Events -/

/-- The members of a scope go on when it ends. -/
theorem Evolves.cancelMembers (x : Exchange) (now : Nat) (members : List Side) :
    Evolves False now now silence x (x.cancelMembers now members) := by
  have hcancelled (side : Side) (x : Exchange) :
      Evolves False now now silence x (x.onEndpoint side (·.cancel now)) := by
    apply Evolves.onEndpoint_act
    · intro e
      exact .cancel
    · intro e hc
      rw [Endpoint.cancel, finish_eq]
      exact hc
  have hmembers : ∀ x, Evolves False now now silence x
      (members.foldl (fun x side => x.onEndpoint side (·.cancel now)) x) := by
    induction members with
    | nil =>
      intro x
      exact .refl False now x
    | cons side members ih =>
      intro x
      exact (hcancelled side x).trans (ih _)
  have hclosed : Evolves False now now silence x { x with isCancelled := true } := by
    refine ⟨?_, ?_, rfl⟩
    · intro s
      cases s <;> rfl
    · intro s q hq
      cases s <;> exact ⟨q, hq, .refl now _, Or.inr⟩
  exact hclosed.trans (hmembers _)

/-- An event leaves an exchange going on, or it ends it for a cause. -/
theorem Station.evolves_or_finishes {s s' : Station} {event : Event}
    (h : s.after event = some s') :
    Evolves False s.now s'.now (arrivalsAt · [event]) s.exchange s'.exchange ∨
      (∀ side, arrivalsAt side [event] = []) ∧
        ∃ r, s' = ⟨s.now, s.exchange.finishWith r⟩ ∧ Causes s.exchange r := by
  have hside (side : Side) (f : Endpoint → Endpoint)
      (hf : ∀ p : Party, Party.Outlasts s.now s.now (arrivalsAt side [event]) p
        { p with endpoint := f p.endpoint })
      (hother : ∀ s, s ≠ side → arrivalsAt s [event] = []) :
      Evolves False s.now s.now (arrivalsAt · [event]) s.exchange (s.exchange.onEndpoint side f) :=
    .onEndpoint hf hother
  cases event with
  | move m =>
    obtain ⟨y, hy, rfl⟩ := Option.map_eq_some_iff.mp h
    rcases Exchange.evolves_or_finishes hy with hevolves | ⟨r, rfl, hcause⟩
    · exact Or.inl hevolves
    · exact Or.inr ⟨fun _ => rfl, r, rfl, hcause⟩
  | arrive side a =>
    obtain rfl := Option.some.inj h
    refine Or.inl (hside side (·.arrive a) ?_ ?_)
    · intro p P hP heard hp
      have harrivals : arrivalsAt side [.arrive side a] = [a] := by simp [arrivalsAt]
      rw [harrivals]
      exact hP.arrive a hp
    · intro s hs
      simp [arrivalsAt, Ne.symm hs]
  | setFlow side flow =>
    obtain rfl := Option.some.inj h
    refine Or.inl (hside side (·.setFlow flow) ?_ ?_)
    · intro p P hP heard hp
      have hheard : heard ++ arrivalsAt side [.setFlow side flow] = heard := List.append_nil _
      rw [hheard]
      exact hP.setFlow flow hp
    · intro _ _
      rfl
  | close side code =>
    obtain rfl := Option.some.inj h
    exact Or.inl (.onEndpoint_act (fun e => .close code) fun e hc => by rwa [close_eq])
  | shutDown side =>
    obtain rfl := Option.some.inj h
    refine Or.inl (.onEndpoint_act (fun e => .shutDown) fun e hc => ?_)
    exact (Keeps.shutDown e s.now).consumer (by simp [hc]) |>.trans hc
  | cancel members =>
    simp only [Station.after] at h
    split_ifs at h
    obtain rfl := Option.some.inj h
    exact Or.inl (.cancelMembers s.exchange s.now members)
  | tick nanos =>
    obtain rfl := Option.some.inj h
    refine Or.inl ⟨fun _ => rfl, ?_, rfl⟩
    intro side q hq
    refine ⟨q, hq, ?_, Or.inr⟩
    intro P hP heard hp
    have hheard : heard ++ arrivalsAt side [.tick nanos] = heard := List.append_nil _
    rw [hheard]
    exact hP.later (Nat.le_add_right _ _) hp

/-- Every party comes from the one that was there. -/
theorem Station.outlasts {s s' : Station} {event : Event} (h : s.after event = some s')
    {side : Side} {q : Party} (hq : s'.exchange.party? side = some q) :
    ∃ p, s.exchange.party? side = some p ∧
      Party.Outlasts s.now s'.now (arrivalsAt side [event]) p q := by
  rcases Station.evolves_or_finishes h with hevolves | ⟨hnone, r, rfl, -⟩
  · obtain ⟨p, hp, hlasts, -⟩ := hevolves.party hq
    exact ⟨p, hp, hlasts⟩
  · rw [party?_finishWith] at hq
    obtain ⟨p, hp, hlasts, -⟩ := (Evolves.stopRelays s.now _ s.exchange).party hq
    rw [hnone]
    exact ⟨p, hp, hlasts⟩

end

/-! ### Runs -/

/-- What arrives first comes first. -/
theorem arrivalsAt_cons (side : Side) (event : Event) (events : List Event) :
    arrivalsAt side (event :: events) = arrivalsAt side [event] ++ arrivalsAt side events := by
  simp [arrivalsAt]

/-- The frames that arrive are those of the data messages. -/
theorem arrivedAt_eq (side : Side) (events : List Event) :
    arrivedAt side events = (arrivalsAt side events).filterMap Wire.Arrival.frame? := by
  rw [arrivedAt, arrivalsAt, List.filterMap_flatMap]
  congr 1
  funext event
  cases event with
  | arrive s a =>
    by_cases hs : s = side
    · cases ha : a.frame? <;> simp [hs, ha]
    · simp [hs]
  | _ => rfl

/-- A stable property that all parties have at the beginning they have in every run. -/
theorem Party.IsStable.run {P : Nat → List Wire.Arrival → Party → Prop} (hP : Party.IsStable P)
    {events : List Event} : ∀ (heard : Side → List Wire.Arrival) {s s' : Station},
    s.run events = some s' →
    (∀ {side p}, s.exchange.party? side = some p → P s.now (heard side) p) →
    ∀ {side q}, s'.exchange.party? side = some q →
      P s'.now (heard side ++ arrivalsAt side events) q := by
  induction events with
  | nil =>
    intro heard s s' hrun h side q hq
    obtain rfl := Option.some.inj hrun
    have hheard : heard side ++ arrivalsAt side [] = heard side := List.append_nil _
    rw [hheard]
    exact h hq
  | cons event events ih =>
    intro heard s s' hrun h side q hq
    obtain ⟨t, ht, hrest⟩ := Option.bind_eq_some_iff.mp hrun
    rw [arrivalsAt_cons, ← List.append_assoc]
    refine ih (fun side => heard side ++ arrivalsAt side [event]) hrest ?_ hq
    intro side q hq
    obtain ⟨p, hp, hlasts⟩ := Station.outlasts ht hq
    exact hlasts P hP _ (h hp)

/-- A stable property that all endpoints have at the beginning they have in every run. -/
theorem forall_run {P : Nat → Endpoint → Prop} (hP : Endpoint.IsStable P) {events : List Event}
    {s s' : Station} (hrun : s.run events = some s')
    (h : ∀ {side p}, s.exchange.party? side = some p → P s.now p.endpoint) {side : Side} {q : Party}
    (hq : s'.exchange.party? side = some q) : P s'.now q.endpoint :=
  (Party.IsStable.of_endpoint hP).run silence hrun h hq

/-- A stable property of new endpoints is one of all endpoints in every run of a new exchange. -/
theorem IsNew.forall_run {x : Exchange} (hx : IsNew x) {P : Nat → Endpoint → Prop}
    (hP : Endpoint.IsStable P) (hstart : ∀ settings born now, P now (.start settings born)) {now : Nat}
    {events : List Event} {s : Station} (hrun : Station.run ⟨now, x⟩ events = some s) {side : Side}
    {q : Party} (hq : s.exchange.party? side = some q) : P s.now q.endpoint := by
  refine Exchange.forall_run hP hrun ?_ hq
  intro side p hp
  obtain ⟨settings, born, -, rfl⟩ := hx.party hp
  exact hP.act .takeInbound (hstart settings born now)

/-- Once a lifetime has ended some lifetime has. -/
theorem SomeDone.evolves {stops : Prop} {now now' : Nat} {arrivals : Side → List Wire.Arrival}
    {x y : Exchange} (h : SomeDone x.party?) (hxy : Evolves stops now now' arrivals x y) :
    SomeDone y.party? := by
  obtain ⟨s, p, hp, hdone⟩ := h
  have hsome : (y.party? s).isSome = true := by
    rw [hxy.present, hp]
    rfl
  obtain ⟨q, hq⟩ := Option.isSome_iff_exists.mp hsome
  obtain ⟨p', hp', hlasts, -⟩ := hxy.party hq
  obtain rfl := Parties.party_eq hp hp' rfl
  exact ⟨s, q, hq, hlasts.endpoint _ isStable_isDone hdone⟩

section

variable {arrived : Side → List Bytes} {x : Exchange} {s s' : Station}

/-- A new exchange is in order. -/
theorem IsNew.orderly (h : IsNew x) (hresult : x.result = none) : Orderly x where
  isRunning_iff := by simp [h.isRunning, hresult]
  result_eq hr := by simp [hresult] at hr
  unstopped _ hp := by
    obtain ⟨settings, born, -, rfl⟩ := h.party hp
    simp [Party.start_eq]
  inactive hr := by simp [h.isRunning] at hr

/-- What ends an exchange is a good end, and comes after that of some lifetime. -/
theorem Balanced.of_causes (h : Balanced arrived x) {r : Except Failure Unit} (hr : Causes x r) :
    r = .ok () ∧ SomeDone x.party? := by
  obtain ⟨owner, haccounts⟩ := h.accounts
  rcases hr with ⟨hcancelled, rfl⟩ | ⟨side, p, hp, hresult⟩
  · exact ⟨rfl, haccounts.done_of_closed hcancelled⟩
  · obtain ⟨hok, hdone⟩ := (haccounts.sound hp).result_eq hresult
    exact ⟨hok, side, p, hp, hdone⟩

/-- Every event leaves an exchange in order. -/
theorem Orderly.after (h : Orderly s.exchange) (hb : Balanced arrived s.exchange) {event : Event}
    (hs : s.after event = some s') : Orderly s'.exchange := by
  rcases Station.evolves_or_finishes hs with hevolves | ⟨-, r, rfl, hcauses⟩
  · obtain ⟨hrunning, hresult⟩ := Prod.mk.inj hevolves.outcome
    refine ⟨?_, ?_, ?_, ?_⟩
    · rw [hrunning, hresult]
      exact h.isRunning_iff
    · intro r hr
      rw [hresult] at hr
      obtain ⟨hok, hdone⟩ := h.result_eq hr
      exact ⟨hok, hdone.evolves hevolves⟩
    · intro side q hrun hq hstopped
      rw [hrunning] at hrun
      obtain ⟨p, hp, -, hbefore⟩ := hevolves.party hq
      rcases hbefore hstopped with hfalse | hp'
      · exact hfalse
      · exact h.unstopped hrun hp hp'
    · intro side q hrun hq
      rw [hrunning] at hrun
      obtain ⟨p, hp, hlasts, -⟩ := hevolves.party hq
      exact hlasts _ isStable_inactive [] (h.inactive hrun hp)
  · obtain ⟨hok, hdone⟩ := hb.of_causes hcauses
    refine ⟨?_, ?_, ?_, ?_⟩
    · simp [finishWith]
    · intro r' hr'
      obtain rfl : r = r' := Option.some.inj hr'
      rw [party?_finishWith]
      exact ⟨hok, hdone.evolves (.stopRelays s.now s.exchange.sides s.exchange)⟩
    · intro side q hrun
      simp [finishWith] at hrun
    · intro side q _ hq
      exact not_isActive_finishWith hq

/-- Every run leaves an exchange in order. -/
theorem Orderly.run {events : List Event} : ∀ {arrived : Side → List Bytes} {s s' : Station},
    Orderly s.exchange → Balanced arrived s.exchange → s.run events = some s' →
    Orderly s'.exchange := by
  induction events with
  | nil =>
    intro arrived s s' h _ hrun
    obtain rfl := Option.some.inj hrun
    exact h
  | cons event events ih =>
    intro arrived s s' h hb hrun
    obtain ⟨t, ht, hrest⟩ := Option.bind_eq_some_iff.mp hrun
    exact ih (h.after hb ht) (hb.after ht) hrest

end

end Switchboard.Exchange
