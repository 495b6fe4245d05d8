import Switchboard.Exchange.Station
import Switchboard.Proofs.Exchange.Balance
/-!
# Runs of an exchange

A run is any sequence of events: moves of the parts of an exchange in any order in which they are
possible, with anything between them that comes from outside. Messages arrive at any side, a socket
suspends or fails or goes on, endpoints are closed and shut down, the scope ends, and the clock
moves. Every run leaves an exchange balanced (`Balanced.run`), with what has arrived at each side in
its accounts.
-/

namespace Switchboard

namespace Endpoint

/-- A live endpoint: its lifetime goes on, and so does its writer. -/
structure IsAlive (e : Endpoint) : Prop where
  notDone : e.isDone = false
  writer_ne : e.writer ≠ .stopped

/-- A live endpoint takes frames. -/
theorem IsAlive.isClosed_eq {e : Endpoint} (h : IsAlive e) (hl : Outgoing e) :
    e.isClosed = false := by
  unfold isClosed
  cases hw : e.writer with
  | idle => rfl
  | writing deadline => rfl
  | leaving code stage deadline =>
    have hdone := hl.done_of_leaving code stage deadline hw
    simp [h.notDone] at hdone
  | stopped => exact absurd hw h.writer_ne

/-- To finish keeps the rest. -/
theorem Keeps.finish (e : Endpoint) (now : Nat) (cause : Cause) : Keeps e (e.finish now cause) := by
  rw [finish_eq]
  exact ⟨rfl, rfl, rfl, rfl, Nat.le_refl _, fun _ => rfl, fun _ => rfl, id⟩

/-- To finish takes nothing from the socket. -/
theorem framesArrived_finish (e : Endpoint) (now : Nat) (cause : Cause) :
    (e.finish now cause).framesArrived = e.framesArrived := by
  rw [finish_eq]
  rfl

/-- What arrives comes last. -/
theorem framesArrived_arrive (e : Endpoint) (a : Wire.Arrival) :
    (e.arrive a).framesArrived = e.framesArrived ++ a.frame?.toList := by
  cases ha : a.frame? <;> simp [framesArrived, arrive, ha]

/-- To close takes nothing from the socket. -/
theorem framesArrived_close (e : Endpoint) (now : Nat) (code : Wire.CloseCode) :
    (e.close now code).framesArrived = e.framesArrived := by
  rw [close_eq]
  rfl

/-- To close keeps the rest. -/
theorem Keeps.close (e : Endpoint) (now : Nat) (code : Wire.CloseCode) :
    Keeps e (e.close now code) := by
  rw [close_eq]
  exact ⟨rfl, rfl, rfl, rfl, Nat.le_refl _, fun _ => rfl, fun _ => rfl, id⟩

/-- A shutdown keeps the rest. -/
theorem Keeps.shutDown (e : Endpoint) (now : Nat) : Keeps e (e.shutDown now) := by
  have hclose := Keeps.close e now Wire.CloseCode.normal
  exact ⟨hclose.1, hclose.2, hclose.3, hclose.4, hclose.5, hclose.6, hclose.7, hclose.8⟩

end Endpoint

namespace Exchange

open Endpoint

/-! ### Events -/

/-- What happens to an exchange. -/
inductive Event
  /-- A part of the exchange moves. -/
  | move (m : Move)
  /-- Something arrives at a socket. -/
  | arrive (side : Side) (a : Wire.Arrival)
  /-- A socket changes how it takes what is written. -/
  | setFlow (side : Side) (flow : Wire.Flow)
  | close (side : Side) (code : Wire.CloseCode)
  | shutDown (side : Side)
  /-- The scope ends, and with it the endpoints that live in it. -/
  | cancel (members : List Side)
  /-- Time passes. -/
  | tick (nanos : Nat)
  deriving DecidableEq, Repr

/-- The scope ends, and with it some of the endpoints. -/
def cancelMembers (x : Exchange) (now : Nat) (members : List Side) : Exchange :=
  members.foldl (fun x side => x.onEndpoint side (·.cancel now)) { x with isCancelled := true }

/-- What an event makes of an exchange and its clock, where it is possible. A scope can end only if
at least one of the endpoints lives in it, as those of a session's channels live in the session's.
Without that an exchange could end while all of its endpoints go on, and what arrives then would not
be relayed; every result on the runs of an exchange is about scopes of this kind. -/
def Station.after (s : Station) : Event → Option Station
  | .move m => (s.exchange.perform s.now m).map fun x => { s with exchange := x }
  | .arrive side a => some { s with exchange := s.exchange.onEndpoint side (·.arrive a) }
  | .setFlow side flow => some { s with exchange := s.exchange.onEndpoint side (·.setFlow flow) }
  | .close side code => some { s with exchange := s.exchange.onEndpoint side (·.close s.now code) }
  | .shutDown side => some { s with exchange := s.exchange.onEndpoint side (·.shutDown s.now) }
  | .cancel members =>
    if members.any s.exchange.sides.contains then
      some { s with exchange := s.exchange.cancelMembers s.now members }
    else none
  | .tick nanos => some { s with now := s.now + nanos }

/-- What a sequence of events makes of an exchange and its clock. -/
def Station.run (s : Station) : List Event → Option Station
  | [] => some s
  | event :: events => (s.after event).bind (·.run events)

/-- The frames of the data messages that arrive at a side. -/
def arrivedAt (side : Side) (events : List Event) : List Bytes :=
  events.flatMap fun
    | .arrive s a => if s = side then a.frame?.toList else []
    | _ => []

/-- An exchange that has just begun, between new endpoints whose queues have room. -/
structure IsNew (x : Exchange) : Prop where
  party {side : Side} {p : Party} : x.party? side = some p →
    ∃ settings born, Endpoint.hasRoom settings = true ∧ p = .start settings born
  distinct : x.labels.Nodup
  isRunning : x.isRunning = true
  isCancelled : x.isCancelled = false

/-- A calm state: nothing moves by itself, all endpoints are alive, and no socket suspends a
write. -/
structure IsCalm (s : Station) : Prop where
  settled : Settled s.now s.exchange
  alive {side : Side} {p : Party} : s.exchange.party? side = some p → IsAlive p.endpoint
  unsuspended {side : Side} {p : Party} : s.exchange.party? side = some p →
    p.endpoint.flow = .blocked → p.endpoint.slot = none

/-! ### Calm states can be recognized -/

/-- Every move of an endpoint by itself is among those that are tried. -/
theorem mem_endpoint_order (e : Endpoint) {m : Endpoint.Move} (h : isRelayed m = false) :
    m ∈ e.order false := by
  cases m with
  | resume ticket => cases h
  | _ => simp [Endpoint.order]

/-- Every move that is possible is among those that are tried. -/
theorem mem_order {x : Exchange} {now : Nat} {m : Move} (h : x.perform now m ≠ none) :
    m ∈ x.order := by
  rw [Exchange.order, List.mem_append, List.mem_append]
  cases m with
  | endpoint side move =>
    refine Or.inl (Or.inl ?_)
    rw [Exchange.perform] at h
    split_ifs at h with hrelayed
    · exact absurd rfl h
    cases hp : x.party? side with
    | none => simp [hp] at h
    | some p =>
      refine List.mem_flatMap.mpr ⟨side, mem_sides hp, ?_⟩
      rw [hp]
      exact List.mem_map_of_mem (mem_endpoint_order p.endpoint (Bool.of_not_eq_true hrelayed))
  | relay side =>
    refine Or.inl (Or.inr ?_)
    rw [Exchange.perform, relayOn] at h
    cases hp : x.party? side with
    | none => simp [hp] at h
    | some p => exact List.mem_map_of_mem (mem_sides hp)
  | finish => exact Or.inr List.mem_cons_self
  | join side =>
    refine Or.inr (List.mem_cons_of_mem _ ?_)
    rw [Exchange.perform] at h
    cases hp : x.party? side with
    | none => simp [hp] at h
    | some p => exact List.mem_map_of_mem (mem_sides hp)

/-- An exchange is settled when none of the moves that are tried is possible. -/
theorem settled_iff {x : Exchange} {now : Nat} :
    Settled now x ↔ ∀ m ∈ x.order, (x.perform now m).isNone = true := by
  constructor
  · intro h m _
    rw [h m]
    rfl
  · intro h m
    by_contra hm
    exact hm (Option.isNone_iff_eq_none.mp (h m (mem_order hm)))

instance {now : Nat} {x : Exchange} : Decidable (Settled now x) := decidable_of_iff' _ settled_iff

instance (e : Endpoint) : Decidable (IsAlive e) :=
  decidable_of_iff (e.isDone = false ∧ e.writer ≠ .stopped)
    ⟨fun h => ⟨h.1, h.2⟩, fun h => ⟨h.notDone, h.writer_ne⟩⟩

/-- A state is calm when it is settled and each side is. -/
theorem isCalm_iff {s : Station} : IsCalm s ↔ Settled s.now s.exchange ∧
    ∀ side ∈ s.exchange.sides, ∀ p ∈ s.exchange.party? side,
      IsAlive p.endpoint ∧ (p.endpoint.flow = .blocked → p.endpoint.slot = none) := by
  constructor
  · intro h
    exact ⟨h.settled, fun _ _ p hp => ⟨h.alive hp, h.unsuspended hp⟩⟩
  · rintro ⟨hsettled, hsides⟩
    exact ⟨hsettled, fun hp => (hsides _ (mem_sides hp) _ hp).1,
      fun hp => (hsides _ (mem_sides hp) _ hp).2⟩

instance (s : Station) : Decidable (IsCalm s) := decidable_of_iff' _ isCalm_iff

/-! ### Arrivals -/

@[simp] theorem arrivedAt_nil (side : Side) : arrivedAt side [] = [] := rfl

/-- What arrives first comes first. -/
theorem arrivedAt_cons (side : Side) (event : Event) (events : List Event) :
    arrivedAt side (event :: events) = arrivedAt side [event] ++ arrivedAt side events := by
  simp [arrivedAt]

/-! ### The beginning -/

/-- At the beginning all parties are the same. -/
theorem eq_start_of_party? {settings : Settings} {now : Nat} {labels : List String} {side : Side}
    {p : Party} (hp : (Exchange.start settings now labels).party? side = some p) :
    p = .start settings now := by
  cases side with
  | client => exact (Option.some.inj hp).symm
  | channel label =>
    obtain ⟨c, hc, rfl⟩ := Option.map_eq_some_iff.mp hp
    obtain ⟨l, -, rfl⟩ := List.mem_map.mp (List.mem_of_find?_eq_some hc)
    rfl

/-- The exchange of a number of labels is new. -/
theorem isNew_start {settings : Settings} (h : Endpoint.hasRoom settings = true) (now : Nat)
    {labels : List String} (hd : labels.Nodup) : IsNew (Exchange.start settings now labels) where
  party hp := ⟨settings, now, h, eq_start_of_party? hp⟩
  distinct := by
    have hlabels : (Exchange.start settings now labels).labels = labels := by
      simp [Exchange.labels, Exchange.start, Function.comp_def]
    rwa [hlabels]
  isRunning := rfl
  isCancelled := rfl

/-- A party at the beginning. -/
theorem Party.start_eq (settings : Settings) (now : Nat) : Party.start settings now =
    ⟨{ Endpoint.start settings now with consumer := .taken }, .receiving, []⟩ := rfl

/-- A party is sound at the beginning. -/
theorem Party.Sound.start {settings : Settings} (h : Endpoint.hasRoom settings = true)
    (now : Nat) : Party.Sound [] (Party.start settings now) where
  ledger := (Ledger.start settings now).takeInbound
  hears := ⟨[], rfl, rfl⟩
  hasRoom := h
  intact := rfl
  taken := fun _ _ => rfl
  done_of_ended := by simp [Party.start_eq]

/-- An exchange is balanced at the beginning. -/
theorem IsNew.balanced {x : Exchange} (h : IsNew x) : Balanced (fun _ => []) x := by
  refine ⟨⟨fun _ _ => .client, ?_⟩, h.distinct⟩
  refine ⟨?_, ?_, ?_, ?_, ?_, ?_, ?_⟩
  · intro s p hp
    obtain ⟨settings, born, hroom, rfl⟩ := h.party hp
    exact .start hroom born
  · intro hcancelled
    exact absurd (h.isCancelled.symm.trans hcancelled) (by simp)
  · intro s p hp hstopped
    obtain ⟨settings, born, -, rfl⟩ := h.party hp
    cases hstopped
  · intro t q hq w hw
    obtain ⟨settings, born, -, rfl⟩ := h.party hq
    cases hw
  · intro s t p ticket hp hsending
    obtain ⟨settings, born, -, rfl⟩ := h.party hp
    cases hsending
  · intro t q hq w hw
    obtain ⟨settings, born, -, rfl⟩ := h.party hq
    cases hw
  · intro s t p q hp hq
    obtain ⟨settings, born, -, rfl⟩ := h.party hp
    obtain ⟨settings', born', -, rfl⟩ := h.party hq
    exact ⟨[], rfl, fun _ _ => rfl⟩

/-! ### Events keep the balance -/

section

variable {arrived arrived' : Side → List Bytes} {x : Exchange}

/-- Something is done to an endpoint from outside, whoever is there. -/
theorem Accounts.onEndpoint {give : Side → Bytes → Delivery} {closed : Prop} {P : Parties}
    {owner : Side → Nat → Side} {pending : Side → Side → List Bytes}
    (h : Accounts give arrived closed P owner pending) (side : Side) {f : Endpoint → Endpoint}
    (hl : ∀ {e}, Ledger e → Ledger (f e)) (hk : ∀ e, Endpoint.Keeps e (f e))
    (ha : ∀ {p}, P side = some p → ∀ before, p.endpoint.framesArrived = before ++ arrived side →
      (f p.endpoint).framesArrived = before ++ arrived' side)
    (hother : ∀ s, s ≠ side → arrived' s = arrived s) :
    Accounts give arrived' closed (P.modify side fun p => { p with endpoint := f p.endpoint })
      owner pending := by
  cases hp : P side with
  | none =>
    rw [Parties.modify_of_none hp]
    refine ⟨?_, h.done_of_closed, h.done_of_stopped, h.owned, h.sending, h.known, h.share⟩
    intro s p hs
    rw [hother s (by rintro rfl; cases hp.symm.trans hs)]
    exact h.sound hs
  | some p =>
    have hsame : (P.modify side fun p => { p with endpoint := f p.endpoint })
        = P.modify side fun p₁ => { p₁ with endpoint := f p.endpoint } :=
      Parties.modify_congr hp rfl
    rw [hsame]
    exact h.endpoint hp (hl (h.sound hp).ledger) (hk p.endpoint) (ha hp) hother

/-- Something is done to an endpoint without anything arriving. -/
theorem Balanced.onEndpoint (h : Balanced arrived x) (side : Side) {f : Endpoint → Endpoint}
    (hl : ∀ {e}, Ledger e → Ledger (f e)) (hk : ∀ e, Endpoint.Keeps e (f e))
    (ha : ∀ e, (f e).framesArrived = e.framesArrived) : Balanced arrived (x.onEndpoint side f) := by
  obtain ⟨owner, haccounts⟩ := h.accounts
  refine h.of_accounts (shape_onEndpoint x side f) ⟨owner, ?_⟩
  rw [party?_onEndpoint]
  exact haccounts.onEndpoint side hl hk (fun _ _ => (ha _).trans) fun _ _ => rfl

/-- Something arrives. -/
theorem Balanced.arrive (h : Balanced arrived x) (side : Side) (a : Wire.Arrival) :
    Balanced (fun s => arrived s ++ arrivedAt s [.arrive side a])
      (x.onEndpoint side (·.arrive a)) := by
  obtain ⟨owner, haccounts⟩ := h.accounts
  refine h.of_accounts (shape_onEndpoint x side _) ⟨owner, ?_⟩
  rw [party?_onEndpoint]
  refine haccounts.onEndpoint side (fun hl => hl.arrive a)
    (fun _ => ⟨rfl, rfl, rfl, rfl, Nat.le_refl _, fun _ => rfl, id, id⟩) ?_ ?_
  · intro p _ before hbefore
    rw [framesArrived_arrive, hbefore]
    simp [arrivedAt]
  · intro s hs
    simp [arrivedAt, Ne.symm hs]

/-- The endpoints of a scope that ends. -/
theorem Accounts.cancelMembers {give : Side → Bytes → Delivery} {closed : Prop}
    {owner : Side → Nat → Side} {pending : Side → Side → List Bytes} (now : Nat)
    (members : List Side) : ∀ {x : Exchange}, Accounts give arrived closed x.party? owner pending →
    Accounts give arrived closed
      (members.foldl (fun x side => x.onEndpoint side (·.cancel now)) x).party? owner pending := by
  induction members with
  | nil => exact fun h => h
  | cons side members ih =>
    intro x h
    apply ih
    rw [party?_onEndpoint]
    exact h.onEndpoint side (fun hl => hl.finish now .scopeEnded)
      (fun e => .finish e now .scopeEnded)
      (fun _ _ => (framesArrived_finish _ now .scopeEnded).trans)
      fun _ _ => rfl

/-- The shape while a scope ends. -/
theorem shape_cancelMembers (now : Nat) (members : List Side) (x : Exchange) :
    (members.foldl (fun x side => x.onEndpoint side (·.cancel now)) x).shape = x.shape := by
  induction members generalizing x with
  | nil => rfl
  | cons side members ih => exact (ih _).trans (shape_onEndpoint x side _)

/-- An endpoint that ends with its scope is done. -/
theorem someDone_cancelMembers (now : Nat) {members : List Side} :
    ∀ {x : Exchange}, (∃ s ∈ members, ∃ p, x.party? s = some p) ∨ SomeDone x.party? →
    SomeDone (members.foldl (fun x side => x.onEndpoint side (·.cancel now)) x).party? := by
  induction members with
  | nil =>
    rintro x (⟨s, hs, -⟩ | hdone)
    · cases hs
    · exact hdone
  | cons side members ih =>
    intro x h
    have hparty {s : Side} {p : Party} (hp : x.party? s = some p) :
        (x.onEndpoint side (·.cancel now)).party? s = some
          (if s = side then { p with endpoint := p.endpoint.cancel now } else p) := by
      rw [party?_onEndpoint]
      exact Parties.modify_eq_some hp side _
    apply ih
    rcases h with ⟨s, hs, p, hp⟩ | ⟨s, p, hp, hdone⟩
    · rcases List.mem_cons.mp hs with rfl | hs
      · have hcancelled : (p.endpoint.cancel now).isDone = true := by
          rw [Endpoint.cancel, finish_eq]
          rfl
        have hp' := hparty hp
        rw [if_pos rfl] at hp'
        exact Or.inr ⟨s, _, hp', hcancelled⟩
      · exact Or.inl ⟨s, hs, _, hparty hp⟩
    · refine Or.inr ⟨s, _, hparty hp, ?_⟩
      split_ifs
      · exact (Keeps.finish p.endpoint now .scopeEnded).done hdone
      · exact hdone

/-- A side of an exchange has a party. -/
theorem exists_party {side : Side} (h : side ∈ x.sides) : ∃ p, x.party? side = some p := by
  cases side with
  | client => exact ⟨x.client, rfl⟩
  | channel label =>
    simp only [sides, labels, List.map_map, List.mem_cons, List.mem_map] at h
    rcases h with h | ⟨c, hc, hlabel⟩
    · cases h
    · have hsome : (x.channels.find? (·.1 = label)).isSome = true := by
        rw [List.find?_isSome]
        exact ⟨c, hc, decide_eq_true (Side.channel.inj hlabel)⟩
      obtain ⟨d, hd⟩ := Option.isSome_iff_exists.mp hsome
      exact ⟨d.2, by rw [party?, hd, Option.map_some]⟩

/-- The end of the scope. -/
theorem Balanced.cancelMembers (h : Balanced arrived x) (now : Nat) {members : List Side}
    (hm : ∃ s ∈ members, s ∈ x.sides) : Balanced arrived (x.cancelMembers now members) := by
  obtain ⟨owner, haccounts⟩ := h.accounts
  obtain ⟨s, hs, hside⟩ := hm
  have hparties : { x with isCancelled := true }.party? = x.party? := by
    funext s
    cases s <;> rfl
  have hshape := shape_cancelMembers now members { x with isCancelled := true }
  obtain ⟨p, hp⟩ := exists_party hside
  have hdone := someDone_cancelMembers now (x := { x with isCancelled := true })
    (Or.inl ⟨s, hs, p, hparties ▸ hp⟩)
  have hmembers : Accounts x.delivery arrived (x.isCancelled = true)
      { x with isCancelled := true }.party? owner settledUp := by
    rwa [hparties]
  refine ⟨⟨owner, ?_⟩, ?_⟩
  · rw [Exchange.cancelMembers, delivery_congr hshape]
    exact (hmembers.cancelMembers now members).withClosed fun _ => hdone
  · rw [Exchange.cancelMembers, (Prod.mk.inj hshape).1]
    exact h.distinct

/-- Every event leaves an exchange balanced. -/
theorem Balanced.after {s s' : Station} (h : Balanced arrived s.exchange) {event : Event}
    (hs : s.after event = some s') :
    Balanced (fun side => arrived side ++ arrivedAt side [event]) s'.exchange := by
  have hnone (hevent : ∀ side, arrivedAt side [event] = []) :
      (fun side => arrived side ++ arrivedAt side [event]) = arrived := by
    funext side
    rw [hevent, List.append_nil]
  cases event with
  | move m =>
    obtain ⟨x, hx, rfl⟩ := Option.map_eq_some_iff.mp hs
    rw [hnone fun _ => rfl]
    exact (h.perform hx).1
  | arrive side a =>
    obtain rfl := Option.some.inj hs
    exact h.arrive side a
  | setFlow side flow =>
    obtain rfl := Option.some.inj hs
    rw [hnone fun _ => rfl]
    exact h.onEndpoint side (fun hl => hl.setFlow flow)
      (fun _ => ⟨rfl, rfl, rfl, rfl, Nat.le_refl _, fun _ => rfl, id, id⟩) fun _ => rfl
  | close side code =>
    obtain rfl := Option.some.inj hs
    rw [hnone fun _ => rfl]
    exact h.onEndpoint side (fun hl => hl.close s.now code) (fun e => .close e s.now code)
      fun e => framesArrived_close e s.now code
  | shutDown side =>
    obtain rfl := Option.some.inj hs
    rw [hnone fun _ => rfl]
    exact h.onEndpoint side (fun hl => hl.shutDown s.now) (fun e => .shutDown e s.now)
      fun e => framesArrived_close e s.now Wire.CloseCode.normal
  | cancel members =>
    rw [Station.after] at hs
    split_ifs at hs with hm
    obtain rfl := Option.some.inj hs
    rw [hnone fun _ => rfl]
    apply h.cancelMembers s.now
    simpa using hm
  | tick nanos =>
    obtain rfl := Option.some.inj hs
    rw [hnone fun _ => rfl]
    exact h

/-- The labels and the greatest frame that goes to the client stay what they are. -/
theorem Station.after_eq {s s' : Station} (h : Balanced arrived s.exchange) {event : Event}
    (hs : s.after event = some s') :
    s'.exchange.labels = s.exchange.labels ∧ s'.exchange.limit = s.exchange.limit := by
  have hshape {x y : Exchange} (hxy : y.shape = x.shape) :
      y.labels = x.labels ∧ y.limit = x.limit :=
    ⟨(Prod.mk.inj hxy).1, (Prod.mk.inj (Prod.mk.inj hxy).2).1⟩
  cases event with
  | move m =>
    obtain ⟨x, hx, rfl⟩ := Option.map_eq_some_iff.mp hs
    exact hshape (h.perform hx).2
  | cancel members =>
    rw [Station.after] at hs
    split_ifs at hs with hm
    obtain rfl := Option.some.inj hs
    have hcancelled := shape_cancelMembers s.now members { s.exchange with isCancelled := true }
    exact ⟨(Prod.mk.inj hcancelled).1, (Prod.mk.inj (Prod.mk.inj hcancelled).2).1⟩
  | tick nanos =>
    obtain rfl := Option.some.inj hs
    exact ⟨rfl, rfl⟩
  | arrive side | setFlow side | close side | shutDown side =>
    obtain rfl := Option.some.inj hs
    exact hshape (shape_onEndpoint s.exchange side _)

/-! ### Runs -/

/-- Events after events. -/
theorem Station.run_append (s : Station) (events later : List Event) :
    s.run (events ++ later) = (s.run events).bind (·.run later) := by
  induction events generalizing s with
  | nil => rfl
  | cons first events ih =>
    rw [List.cons_append, Station.run, Station.run, Option.bind_assoc]
    congr 1
    funext t
    exact ih t

/-- Every run leaves an exchange balanced. -/
theorem Balanced.run {events : List Event} : ∀ {arrived : Side → List Bytes} {s s' : Station},
    Balanced arrived s.exchange → s.run events = some s' →
    Balanced (fun side => arrived side ++ arrivedAt side events) s'.exchange ∧
      s'.exchange.labels = s.exchange.labels ∧ s'.exchange.limit = s.exchange.limit := by
  induction events with
  | nil =>
    intro arrived s s' h hs
    obtain rfl := Option.some.inj hs
    refine ⟨?_, rfl, rfl⟩
    simp only [arrivedAt_nil, List.append_nil]
    exact h
  | cons event events ih =>
    intro arrived s s' h hs
    obtain ⟨t, ht, hrest⟩ := Option.bind_eq_some_iff.mp hs
    obtain ⟨hbalanced, hlabels, hlimit⟩ := ih (h.after ht) hrest
    obtain ⟨hlabels', hlimit'⟩ := Station.after_eq h ht
    refine ⟨?_, hlabels.trans hlabels', hlimit.trans hlimit'⟩
    have harrived : (fun side => arrived side ++ arrivedAt side (event :: events))
        = fun side => arrived side ++ arrivedAt side [event] ++ arrivedAt side events := by
      funext side
      rw [arrivedAt_cons, List.append_assoc]
    rw [harrived]
    exact hbalanced

end

end Exchange

end Switchboard
