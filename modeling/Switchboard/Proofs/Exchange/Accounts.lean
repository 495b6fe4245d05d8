import Switchboard.Proofs.Endpoint.Ledger
import Switchboard.Proofs.Exchange.Parties
/-!
# The accounts of an exchange

Each relay sends one frame at a time, so what a side sends to another stands among the sends of that
other side in the order in which it was relayed. The accounts of an exchange say which side each
ticket belongs to. For every two sides, what the one has relayed to the other is its share of what
was accepted and what waits there, in order; a rest is missing only where the target has ended or
takes no more frames, or the relay was stopped (`Accounts.share`).

The accounts are kept for the parties as a function of their sides. All that is done to an exchange
changes each party by a function of its own (`Parties.map`), so that a step that touches two sides,
which may be one and the same, needs no case of its own.
-/

namespace Switchboard.Exchange

open Endpoint

/-! ### Definitions -/

/-- What is sent from one side to another for the frames that were relayed. -/
def outbox (give : Side → Bytes → Delivery) (source target : Side) (frames : List Bytes) :
    List Bytes :=
  frames.filterMap fun f =>
    if (give source f).target = target then some (give source f).frame else none

/-- The frames of the sends that belong to a side. -/
def shareOf (owner : Nat → Side) (source : Side) (ws : List Waiting) : List Bytes :=
  (ws.filter (owner ·.ticket = source)).map (·.frame)

/-- An endpoint that takes frames to send. -/
structure IsOpen (e : Endpoint) : Prop where
  notDone : e.isDone = false
  notClosed : e.isClosed = false

/-- Whether a relay has begun and has not broken off. -/
def Relay.isIntact : Relay → Bool
  | .idle => false
  | .broken _ => false
  | _ => true

/-- What has left the inbound queue of a party was received by its relay, apart from what was taken
out before the relay began. Since then these frames have arrived. -/
def Party.Hears (arrived : List Bytes) (p : Party) : Prop :=
  ∃ before, p.endpoint.received = before ++ p.relayed ∧
    p.endpoint.framesArrived = before ++ arrived

/-- A party by itself: its endpoint keeps its ledger, and its relay hears what arrives there. -/
structure Party.Sound (arrived : List Bytes) (p : Party) : Prop where
  ledger : Ledger p.endpoint
  hears : p.Hears arrived
  hasRoom : Endpoint.hasRoom p.endpoint.settings = true
  intact : p.relay.isIntact = true
  taken : p.relay ≠ .ended → p.relay ≠ .stopped → p.endpoint.consumer = .taken
  done_of_ended : p.relay = .ended → p.endpoint.isDone = true

/-- What no step takes back. -/
structure Party.Keeps (p p' : Party) : Prop where
  done : p.endpoint.isDone = true → p'.endpoint.isDone = true
  opened : IsOpen p'.endpoint → IsOpen p.endpoint

/-- The lifetime of some endpoint has ended. -/
def SomeDone (P : Parties) : Prop := ∃ s p, P s = some p ∧ p.endpoint.isDone = true

/-- The parties of an exchange to each other, when `arrived` has arrived at each side and the scope
is `closed` or not. What is `pending` was relayed and is about to be sent. -/
structure Accounts (give : Side → Bytes → Delivery) (arrived : Side → List Bytes) (closed : Prop)
    (P : Parties) (owner : Side → Nat → Side) (pending : Side → Side → List Bytes) : Prop where
  sound {s : Side} {p : Party} : P s = some p → p.Sound (arrived s)
  done_of_closed : closed → SomeDone P
  done_of_stopped {s : Side} {p : Party} : P s = some p → p.relay = .stopped → SomeDone P
  /-- The owner of a send that waits is the side whose relay waits for it. -/
  owned {t : Side} {q : Party} : P t = some q → ∀ w ∈ q.endpoint.waiting,
    ∃ p, P (owner t w.ticket) = some p ∧ p.relay = .sending t w.ticket
  sending {s t : Side} {p : Party} {ticket : Nat} : P s = some p → p.relay = .sending t ticket →
    ∃ q, P t = some q ∧ ∃ w ∈ q.endpoint.waiting, w.ticket = ticket ∧ owner t ticket = s
  /-- Every frame that was accepted came from a side. -/
  known {t : Side} {q : Party} : P t = some q → ∀ w ∈ q.endpoint.accepted,
    ∃ p, P (owner t w.ticket) = some p
  share {s t : Side} {p q : Party} : P s = some p → P t = some q → ∃ rest,
    outbox give s t p.relayed =
      shareOf (owner t) s (q.endpoint.accepted ++ q.endpoint.waiting) ++ rest ∧
    (IsOpen q.endpoint → p.relay ≠ .stopped → rest = pending s t)

/-- Nothing is pending. -/
def settledUp : Side → Side → List Bytes := fun _ _ => []

/-- One frame is pending. -/
def pend (source : Side) (d : Delivery) : Side → Side → List Bytes := fun s t =>
  if s = source ∧ t = d.target then [d.frame] else []

/-- The ticket of a send is put down to a side. -/
def assign (owner : Side → Nat → Side) (target : Side) (ticket : Nat) (source : Side) :
    Side → Nat → Side :=
  Function.update owner target (Function.update (owner target) ticket source)

/-! ### Shares -/

@[simp] theorem outbox_nil (give : Side → Bytes → Delivery) (s t : Side) :
    outbox give s t [] = [] := rfl

@[simp] theorem outbox_append (give : Side → Bytes → Delivery) (s t : Side) (xs ys : List Bytes) :
    outbox give s t (xs ++ ys) = outbox give s t xs ++ outbox give s t ys :=
  List.filterMap_append

/-- One frame more is one delivery more. -/
theorem outbox_singleton (give : Side → Bytes → Delivery) (s t : Side) (f : Bytes) :
    outbox give s t [f] = pend s (give s f) s t := by
  by_cases h : (give s f).target = t
  · simp [outbox, pend, h]
  · simp [outbox, pend, h, Ne.symm h]

@[simp] theorem shareOf_nil (owner : Nat → Side) (s : Side) : shareOf owner s [] = [] := rfl

@[simp] theorem shareOf_append (owner : Nat → Side) (s : Side) (xs ys : List Waiting) :
    shareOf owner s (xs ++ ys) = shareOf owner s xs ++ shareOf owner s ys := by
  simp [shareOf]

/-- A send is in the share of its owner. -/
theorem shareOf_singleton_self {owner : Nat → Side} {s : Side} {w : Waiting}
    (h : owner w.ticket = s) : shareOf owner s [w] = [w.frame] := by
  simp [shareOf, h]

/-- And in no other. -/
theorem shareOf_singleton_of_ne {owner : Nat → Side} {s : Side} {w : Waiting}
    (h : owner w.ticket ≠ s) : shareOf owner s [w] = [] := by
  simp [shareOf, h]

/-- Tickets that are not there do not count. -/
theorem shareOf_congr {owner owner' : Nat → Side} {ws : List Waiting}
    (h : ∀ w ∈ ws, owner' w.ticket = owner w.ticket) (s : Side) :
    shareOf owner' s ws = shareOf owner s ws := by
  rw [shareOf, shareOf, List.filter_congr]
  intro w hw
  rw [h w hw]

/-- The beginning of what was sent holds the beginning of every share. -/
theorem shareOf_mono {xs ys : List Waiting} (h : xs <+: ys) (owner : Nat → Side) (s : Side) :
    shareOf owner s xs <+: shareOf owner s ys :=
  (h.filter _).map _

/-- The tickets of the sends that wait are distinct. -/
theorem Party.Sound.waiting_nodup {arrived : List Bytes} {p : Party} (h : p.Sound arrived) :
    (p.endpoint.waiting.map (·.ticket)).Nodup := by
  have hdistinct := h.ledger.ticketed.distinct
  rw [List.map_append, List.nodup_append] at hdistinct
  exact hdistinct.2.1

section

variable {give : Side → Bytes → Delivery} {arrived arrived' : Side → List Bytes} {closed : Prop}
  {P : Parties} {g : Side → Party → Party} {owner : Side → Nat → Side}
  {pending pending' : Side → Side → List Bytes}
  {s t : Side} {p q : Party} {w : Waiting}

/-- A side waits for its sends that wait. -/
theorem Accounts.relay_eq (h : Accounts give arrived closed P owner pending) (hq : P t = some q)
    (hw : w ∈ q.endpoint.waiting) (hp : P (owner t w.ticket) = some p) :
    p.relay = .sending t w.ticket := by
  obtain ⟨p', hp', hsending⟩ := h.owned hq w hw
  obtain rfl : p = p' := Option.some.inj (hp.symm.trans hp')
  exact hsending

/-- A side whose relay does not wait has no send that waits. -/
theorem Accounts.shareOf_waiting_nil (h : Accounts give arrived closed P owner pending)
    (hp : P s = some p) (hq : P t = some q) (hr : ∀ ticket, p.relay ≠ .sending t ticket) :
    shareOf (owner t) s q.endpoint.waiting = [] := by
  have hnone : q.endpoint.waiting.filter (owner t ·.ticket = s) = [] := by
    rw [List.filter_eq_nil_iff]
    intro w hw hs
    obtain rfl := of_decide_eq_true hs
    exact hr _ (h.relay_eq hq hw hp)
  rw [shareOf, hnone, List.map_nil]

/-- A side whose relay waits has one send that waits. -/
theorem Accounts.filter_waiting (h : Accounts give arrived closed P owner pending)
    (hp : P s = some p) (hq : P t = some q) (hr : p.relay = .sending t w.ticket)
    (hw : w ∈ q.endpoint.waiting) : q.endpoint.waiting.filter (owner t ·.ticket = s) = [w] := by
  obtain ⟨-, -, -, -, -, howner⟩ := h.sending hp hr
  rw [← filter_ticket (h.sound hq).waiting_nodup hw]
  apply List.filter_congr
  intro x hx
  rw [decide_eq_decide]
  constructor
  · rintro rfl
    have hsending := h.relay_eq hq hx hp
    rw [hr] at hsending
    exact (Relay.sending.inj hsending).2.symm
  · intro hticket
    rw [hticket, howner]

/-- A send that leaves the queue comes before what waits there from the same side. -/
theorem Accounts.shareOf_waiting_release (h : Accounts give arrived closed P owner pending)
    (hp : P s = some p) (hq : P t = some q) (hr : p.relay = .sending t w.ticket)
    (hw : w ∈ q.endpoint.waiting) (s₁ : Side) :
    shareOf (owner t) s₁ q.endpoint.waiting = shareOf (owner t) s₁
      (q.endpoint.waiting.filter (·.ticket ≠ w.ticket)) ++ pend s ⟨t, w.frame⟩ s₁ t := by
  obtain ⟨-, -, -, -, -, howner⟩ := h.sending hp hr
  by_cases hs : s₁ = s
  · subst hs
    have hnone : shareOf (owner t) s₁
        (q.endpoint.waiting.filter (·.ticket ≠ w.ticket)) = [] := by
      rw [shareOf, List.filter_comm, h.filter_waiting hp hq hr hw]
      simp
    rw [hnone, shareOf, h.filter_waiting hp hq hr hw]
    simp [pend]
  · have hsame : (q.endpoint.waiting.filter (·.ticket ≠ w.ticket)).filter (owner t ·.ticket = s₁)
        = q.endpoint.waiting.filter (owner t ·.ticket = s₁) := by
      rw [List.filter_filter]
      apply List.filter_congr
      intro x hx
      by_cases hticket : x.ticket = w.ticket
      · simp [hticket, howner, Ne.symm hs]
      · simp [hticket]
    rw [shareOf, shareOf, hsame]
    simp [pend, hs]

/-- What has ended does not begin again. -/
theorem SomeDone.map (h : SomeDone P) (hkeeps : ∀ {s p}, P s = some p → p.Keeps (g s p)) :
    SomeDone (P.map g) := by
  obtain ⟨s, p, hp, hdone⟩ := h
  exact ⟨s, _, Parties.map_eq_some.mpr ⟨p, hp, rfl⟩, (hkeeps hp).done hdone⟩

/-- A relay that has stopped had stopped before, or some lifetime has ended since. -/
theorem Accounts.done_of_stopped_map (h : Accounts give arrived closed P owner pending)
    (hkeeps : ∀ {s p}, P s = some p → p.Keeps (g s p))
    (hstop : ∀ {s p}, P s = some p → (g s p).relay = .stopped → p.relay = .stopped ∨ SomeDone P)
    {s : Side} {p' : Party} (hp' : P.map g s = some p') (hstopped : p'.relay = .stopped) :
    SomeDone (P.map g) := by
  obtain ⟨p, hp, rfl⟩ := Parties.map_eq_some.mp hp'
  rcases hstop hp hstopped with hbefore | hdone
  · exact (h.done_of_stopped hp hbefore).map hkeeps
  · exact hdone.map hkeeps

/-- Where nothing is accepted, the owners of what was accepted stay where they are. -/
theorem Accounts.known_map (h : Accounts give arrived closed P owner pending)
    (haccepted : ∀ {s p}, P s = some p → (g s p).endpoint.accepted = p.endpoint.accepted)
    {t : Side} {q' : Party} (hq' : P.map g t = some q') :
    ∀ w ∈ q'.endpoint.accepted, ∃ p, P.map g (owner t w.ticket) = some p := by
  intro w hw
  obtain ⟨q, hq, rfl⟩ := Parties.map_eq_some.mp hq'
  obtain ⟨p, hp⟩ := h.known hq w (haccepted hq ▸ hw)
  exact ⟨_, Parties.map_eq_some.mpr ⟨p, hp, rfl⟩⟩

/-- Steps of endpoints and what is received. -/
theorem Accounts.adjust (h : Accounts give arrived closed P owner pending)
    (extra : Side → List Bytes)
    (hsound : ∀ {s p}, P s = some p → (g s p).Sound (arrived' s))
    (hkeeps : ∀ {s p}, P s = some p → p.Keeps (g s p))
    (hrelay : ∀ {s p}, P s = some p → (g s p).relay = p.relay)
    (hrelayed : ∀ {s p}, P s = some p → (g s p).relayed = p.relayed ++ extra s)
    (haccepted : ∀ {s p}, P s = some p → (g s p).endpoint.accepted = p.endpoint.accepted)
    (hwaiting : ∀ {s p}, P s = some p → (g s p).endpoint.waiting = p.endpoint.waiting)
    (hpending : ∀ s t, pending s t ++ outbox give s t (extra s) = pending' s t) :
    Accounts give arrived' closed (P.map g) owner pending' where
  sound := Parties.forall_map hsound
  done_of_closed hclosed := (h.done_of_closed hclosed).map hkeeps
  done_of_stopped :=
    h.done_of_stopped_map hkeeps fun hp hstopped => Or.inl ((hrelay hp).symm.trans hstopped)
  owned := by
    intro t q' hq' w hw
    obtain ⟨q, hq, rfl⟩ := Parties.map_eq_some.mp hq'
    obtain ⟨p, hp, hsending⟩ := h.owned hq w (hwaiting hq ▸ hw)
    exact ⟨_, Parties.map_eq_some.mpr ⟨p, hp, rfl⟩, (hrelay hp).trans hsending⟩
  sending := by
    intro s t p' ticket hp' hsending
    obtain ⟨p, hp, rfl⟩ := Parties.map_eq_some.mp hp'
    obtain ⟨q, hq, w, hw, hticket⟩ := h.sending hp ((hrelay hp).symm.trans hsending)
    exact ⟨_, Parties.map_eq_some.mpr ⟨q, hq, rfl⟩, w, hwaiting hq ▸ hw, hticket⟩
  known := h.known_map haccepted
  share := by
    intro s t p' q' hp' hq'
    obtain ⟨p, hp, rfl⟩ := Parties.map_eq_some.mp hp'
    obtain ⟨q, hq, rfl⟩ := Parties.map_eq_some.mp hq'
    obtain ⟨rest, hshare, hrest⟩ := h.share hp hq
    refine ⟨rest ++ outbox give s t (extra s), ?_, ?_⟩
    · rw [hrelayed hp, haccepted hq, hwaiting hq, outbox_append, hshare, List.append_assoc]
    · intro hopen hstopped
      rw [hrest ((hkeeps hq).opened hopen) (hrelay hp ▸ hstopped), hpending]

/-- A send that waited is taken up again by its relay. -/
theorem Accounts.release (h : Accounts give arrived closed P owner settledUp) (hp : P s = some p)
    (hq : P t = some q) (hr : p.relay = .sending t w.ticket) (hw : w ∈ q.endpoint.waiting)
    (hsound : ∀ {s p}, P s = some p → (g s p).Sound (arrived s))
    (hkeeps : ∀ {s p}, P s = some p → p.Keeps (g s p))
    (hrelay : ∀ {s₁ p₁}, P s₁ = some p₁ →
      (g s₁ p₁).relay = if s₁ = s then .receiving else p₁.relay)
    (hrelayed : ∀ {s p}, P s = some p → (g s p).relayed = p.relayed)
    (haccepted : ∀ {s p}, P s = some p → (g s p).endpoint.accepted = p.endpoint.accepted)
    (hwaiting : ∀ {t₁ q₁}, P t₁ = some q₁ → (g t₁ q₁).endpoint.waiting =
      if t₁ = t then q₁.endpoint.waiting.filter (·.ticket ≠ w.ticket) else q₁.endpoint.waiting) :
    Accounts give arrived closed (P.map g) owner (pend s ⟨t, w.frame⟩) where
  sound := Parties.forall_map hsound
  done_of_closed hclosed := (h.done_of_closed hclosed).map hkeeps
  done_of_stopped := by
    refine h.done_of_stopped_map hkeeps fun {s₁ p₁} hp₁ hstopped => ?_
    rw [hrelay hp₁] at hstopped
    split_ifs at hstopped
    exact Or.inl hstopped
  owned := by
    intro t₁ q' hq' x hx
    obtain ⟨q₁, hq₁, rfl⟩ := Parties.map_eq_some.mp hq'
    rw [hwaiting hq₁] at hx
    have hmem : x ∈ q₁.endpoint.waiting := by
      split_ifs at hx
      · exact List.mem_of_mem_filter hx
      · exact hx
    obtain ⟨p₁, hp₁, hsending⟩ := h.owned hq₁ x hmem
    refine ⟨_, Parties.map_eq_some.mpr ⟨p₁, hp₁, rfl⟩, ?_⟩
    rw [hrelay hp₁, if_neg, hsending]
    -- The relay that is released waited for this send alone.
    rintro rfl
    obtain rfl : p = p₁ := Option.some.inj (hp.symm.trans hp₁)
    rw [hr] at hsending
    obtain ⟨rfl, hticket⟩ := Relay.sending.inj hsending
    rw [if_pos rfl, List.mem_filter] at hx
    exact of_decide_eq_true hx.2 hticket.symm
  sending := by
    intro s₁ t₁ p' ticket hp' hsending
    obtain ⟨p₁, hp₁, rfl⟩ := Parties.map_eq_some.mp hp'
    rw [hrelay hp₁] at hsending
    split_ifs at hsending with hs
    obtain ⟨q₁, hq₁, x, hx, hticket, howner⟩ := h.sending hp₁ hsending
    refine ⟨_, Parties.map_eq_some.mpr ⟨q₁, hq₁, rfl⟩, x, ?_, hticket, howner⟩
    rw [hwaiting hq₁]
    split_ifs with ht
    · refine List.mem_filter.mpr ⟨hx, decide_eq_true fun hxw => hs ?_⟩
      obtain ⟨-, -, -, -, -, howner'⟩ := h.sending hp hr
      rw [← howner, ← howner', ht, ← hticket, hxw]
    · exact hx
  known := h.known_map haccepted
  share := by
    intro s₁ t₁ p' q' hp' hq'
    obtain ⟨p₁, hp₁, rfl⟩ := Parties.map_eq_some.mp hp'
    obtain ⟨q₁, hq₁, rfl⟩ := Parties.map_eq_some.mp hq'
    obtain ⟨rest, hshare, hrest⟩ := h.share hp₁ hq₁
    have hstopped : p₁.relay = .stopped → (g s₁ p₁).relay = .stopped := by
      intro hstop
      rw [hrelay hp₁, if_neg, hstop]
      rintro rfl
      obtain rfl : p = p₁ := Option.some.inj (hp.symm.trans hp₁)
      simp [hr] at hstop
    refine ⟨pend s ⟨t, w.frame⟩ s₁ t₁ ++ rest, ?_, fun hopen hrunning => ?_⟩
    · rw [hrelayed hp₁, haccepted hq₁, hwaiting hq₁, hshare, shareOf_append, shareOf_append]
      split_ifs with ht
      · subst ht
        obtain rfl : q = q₁ := Option.some.inj (hq.symm.trans hq₁)
        rw [h.shareOf_waiting_release hp hq hr hw]
        simp
      · simp [pend, ht]
    · rw [hrest ((hkeeps hq₁).opened hopen) fun hstop => hrunning (hstopped hstop), settledUp,
        List.append_nil]

/-- The tickets of other sends stay where they are. -/
theorem assign_of_ne (hq : P t = some q)
    (hnew : ∀ x ∈ q.endpoint.accepted ++ q.endpoint.waiting, x.ticket ≠ w.ticket) {t₁ : Side}
    {q₁ : Party} (hq₁ : P t₁ = some q₁) {x : Waiting}
    (hx : x ∈ q₁.endpoint.accepted ++ q₁.endpoint.waiting) :
    assign owner t w.ticket s t₁ x.ticket = owner t₁ x.ticket := by
  by_cases ht : t₁ = t
  · subst ht
    obtain rfl : q = q₁ := Option.some.inj (hq.symm.trans hq₁)
    rw [assign, Function.update_self, Function.update_of_ne (hnew x hx)]
  · rw [assign, Function.update_of_ne ht]

/-- The shares of other sends stay what they are. -/
theorem shareOf_assign_of_ne (hq : P t = some q)
    (hnew : ∀ x ∈ q.endpoint.accepted ++ q.endpoint.waiting, x.ticket ≠ w.ticket) {t₁ : Side}
    {q₁ : Party} (hq₁ : P t₁ = some q₁) {ws : List Waiting}
    (hws : ws ⊆ q₁.endpoint.accepted ++ q₁.endpoint.waiting) (s₁ : Side) :
    shareOf (assign owner t w.ticket s t₁) s₁ ws = shareOf (owner t₁) s₁ ws :=
  shareOf_congr (fun _ hx => assign_of_ne hq hnew hq₁ (hws hx)) s₁

/-- A new ticket is put down to the side that sends. -/
theorem assign_self (owner : Side → Nat → Side) (t : Side) (ticket : Nat) (s : Side) :
    assign owner t ticket s t ticket = s := by
  rw [assign, Function.update_self, Function.update_self]

/-- A new send is in the share of the side that sends. -/
theorem shareOf_assign (owner : Side → Nat → Side) (t : Side) (w : Waiting) (s s₁ : Side) :
    shareOf (assign owner t w.ticket s t) s₁ [w] = pend s ⟨t, w.frame⟩ s₁ t := by
  by_cases hs : s₁ = s
  · subst hs
    rw [shareOf_singleton_self (assign_self owner t w.ticket s₁), pend, if_pos ⟨rfl, rfl⟩]
  · rw [shareOf_singleton_of_ne (by rw [assign_self]; exact Ne.symm hs), pend,
      if_neg fun h => hs h.1]

/-- The frame that is pending is accepted. -/
theorem Accounts.accept (h : Accounts give arrived closed P owner (pend s ⟨t, w.frame⟩))
    (hp : P s = some p) (hq : P t = some q) (hr : p.relay = .receiving)
    (hopen : IsOpen q.endpoint)
    (hnew : ∀ x ∈ q.endpoint.accepted ++ q.endpoint.waiting, x.ticket ≠ w.ticket)
    (hsound : ∀ {s p}, P s = some p → (g s p).Sound (arrived s))
    (hkeeps : ∀ {s p}, P s = some p → p.Keeps (g s p))
    (hrelay : ∀ {s p}, P s = some p → (g s p).relay = p.relay)
    (hrelayed : ∀ {s p}, P s = some p → (g s p).relayed = p.relayed)
    (haccepted : ∀ {t₁ q₁}, P t₁ = some q₁ → (g t₁ q₁).endpoint.accepted =
      q₁.endpoint.accepted ++ if t₁ = t then [w] else [])
    (hwaiting : ∀ {s p}, P s = some p → (g s p).endpoint.waiting = p.endpoint.waiting) :
    Accounts give arrived closed (P.map g) (assign owner t w.ticket s) settledUp where
  sound := Parties.forall_map hsound
  done_of_closed hclosed := (h.done_of_closed hclosed).map hkeeps
  done_of_stopped :=
    h.done_of_stopped_map hkeeps fun hp hstopped => Or.inl ((hrelay hp).symm.trans hstopped)
  owned := by
    intro t₁ q' hq' x hx
    obtain ⟨q₁, hq₁, rfl⟩ := Parties.map_eq_some.mp hq'
    rw [hwaiting hq₁] at hx
    rw [assign_of_ne hq hnew hq₁ (List.mem_append_right _ hx)]
    obtain ⟨p₁, hp₁, hsending⟩ := h.owned hq₁ x hx
    exact ⟨_, Parties.map_eq_some.mpr ⟨p₁, hp₁, rfl⟩, (hrelay hp₁).trans hsending⟩
  sending := by
    intro s₁ t₁ p' ticket hp' hsending
    obtain ⟨p₁, hp₁, rfl⟩ := Parties.map_eq_some.mp hp'
    obtain ⟨q₁, hq₁, x, hx, rfl, howner⟩ := h.sending hp₁ ((hrelay hp₁).symm.trans hsending)
    refine ⟨_, Parties.map_eq_some.mpr ⟨q₁, hq₁, rfl⟩, x, hwaiting hq₁ ▸ hx, rfl, ?_⟩
    rw [assign_of_ne hq hnew hq₁ (List.mem_append_right _ hx), howner]
  known := by
    intro t₁ q' hq' x hx
    obtain ⟨q₁, hq₁, rfl⟩ := Parties.map_eq_some.mp hq'
    rw [haccepted hq₁, List.mem_append] at hx
    rcases hx with hx | hx
    · obtain ⟨p₁, hp₁⟩ := h.known hq₁ x hx
      rw [assign_of_ne hq hnew hq₁ (List.mem_append_left _ hx)]
      exact ⟨_, Parties.map_eq_some.mpr ⟨p₁, hp₁, rfl⟩⟩
    · split_ifs at hx with ht
      · obtain rfl := List.mem_singleton.mp hx
        rw [ht, assign_self]
        exact ⟨_, Parties.map_eq_some.mpr ⟨p, hp, rfl⟩⟩
      · cases hx
  share := by
    intro s₁ t₁ p' q' hp' hq'
    obtain ⟨p₁, hp₁, rfl⟩ := Parties.map_eq_some.mp hp'
    obtain ⟨q₁, hq₁, rfl⟩ := Parties.map_eq_some.mp hq'
    obtain ⟨rest, hshare, hrest⟩ := h.share hp₁ hq₁
    rw [hrelayed hp₁, haccepted hq₁, hwaiting hq₁, hrelay hp₁]
    rw [shareOf_append] at hshare
    rw [shareOf_append, shareOf_append,
      shareOf_assign_of_ne hq hnew hq₁ (List.subset_append_left _ _),
      shareOf_assign_of_ne hq hnew hq₁ (List.subset_append_right _ _), hshare]
    split_ifs with ht
    · subst ht
      obtain rfl : q = q₁ := Option.some.inj (hq.symm.trans hq₁)
      rw [shareOf_assign]
      by_cases hs : s₁ = s
      · subst hs
        obtain rfl : p = p₁ := Option.some.inj (hp.symm.trans hp₁)
        -- All that the side has sent before is in the queue already.
        rw [hrest hopen (by simp [hr]), h.shareOf_waiting_nil hp hq (by simp [hr])]
        exact ⟨[], by simp, fun _ _ => rfl⟩
      · refine ⟨rest, by simp [pend, hs], fun _ hrunning => ?_⟩
        rw [hrest hopen hrunning]
        simp [pend, settledUp, hs]
    · refine ⟨rest, by simp, fun hopen hrunning => ?_⟩
      rw [hrest ((hkeeps hq₁).opened hopen) hrunning]
      simp [settledUp, pend, ht]

/-- The frame that is pending waits. -/
theorem Accounts.hold (h : Accounts give arrived closed P owner (pend s ⟨t, w.frame⟩))
    (hp : P s = some p) (hq : P t = some q) (hr : p.relay = .receiving)
    (hopen : IsOpen q.endpoint)
    (hnew : ∀ x ∈ q.endpoint.accepted ++ q.endpoint.waiting, x.ticket ≠ w.ticket)
    (hsound : ∀ {s p}, P s = some p → (g s p).Sound (arrived s))
    (hkeeps : ∀ {s p}, P s = some p → p.Keeps (g s p))
    (hrelay : ∀ {s₁ p₁}, P s₁ = some p₁ →
      (g s₁ p₁).relay = if s₁ = s then .sending t w.ticket else p₁.relay)
    (hrelayed : ∀ {s p}, P s = some p → (g s p).relayed = p.relayed)
    (haccepted : ∀ {s p}, P s = some p → (g s p).endpoint.accepted = p.endpoint.accepted)
    (hwaiting : ∀ {t₁ q₁}, P t₁ = some q₁ → (g t₁ q₁).endpoint.waiting =
      q₁.endpoint.waiting ++ if t₁ = t then [w] else []) :
    Accounts give arrived closed (P.map g) (assign owner t w.ticket s) settledUp where
  sound := Parties.forall_map hsound
  done_of_closed hclosed := (h.done_of_closed hclosed).map hkeeps
  done_of_stopped := by
    refine h.done_of_stopped_map hkeeps fun {s₁ p₁} hp₁ hstopped => ?_
    rw [hrelay hp₁] at hstopped
    split_ifs at hstopped
    exact Or.inl hstopped
  owned := by
    intro t₁ q' hq' x hx
    obtain ⟨q₁, hq₁, rfl⟩ := Parties.map_eq_some.mp hq'
    rw [hwaiting hq₁, List.mem_append] at hx
    rcases hx with hx | hx
    · rw [assign_of_ne hq hnew hq₁ (List.mem_append_right _ hx)]
      obtain ⟨p₁, hp₁, hsending⟩ := h.owned hq₁ x hx
      refine ⟨_, Parties.map_eq_some.mpr ⟨p₁, hp₁, rfl⟩, ?_⟩
      rw [hrelay hp₁, if_neg, hsending]
      intro hs
      rw [hs, hp] at hp₁
      obtain rfl := Option.some.inj hp₁
      simp [hr] at hsending
    · split_ifs at hx with ht
      · obtain rfl := List.mem_singleton.mp hx
        rw [ht, assign_self]
        refine ⟨_, Parties.map_eq_some.mpr ⟨p, hp, rfl⟩, ?_⟩
        rw [hrelay hp, if_pos rfl]
      · cases hx
  sending := by
    intro s₁ t₁ p' ticket hp' hsending
    obtain ⟨p₁, hp₁, rfl⟩ := Parties.map_eq_some.mp hp'
    rw [hrelay hp₁] at hsending
    split_ifs at hsending with hs
    · obtain ⟨rfl, rfl⟩ := Relay.sending.inj hsending
      refine ⟨_, Parties.map_eq_some.mpr ⟨q, hq, rfl⟩, w, ?_, rfl, hs ▸ assign_self _ _ _ _⟩
      rw [hwaiting hq, if_pos rfl]
      exact List.mem_append_right _ (List.mem_singleton_self w)
    · obtain ⟨q₁, hq₁, x, hx, rfl, howner⟩ := h.sending hp₁ hsending
      refine ⟨_, Parties.map_eq_some.mpr ⟨q₁, hq₁, rfl⟩, x, ?_, rfl, ?_⟩
      · rw [hwaiting hq₁]
        exact List.mem_append_left _ hx
      · rw [assign_of_ne hq hnew hq₁ (List.mem_append_right _ hx), howner]
  known := by
    intro t₁ q' hq' x hx
    obtain ⟨q₁, hq₁, rfl⟩ := Parties.map_eq_some.mp hq'
    rw [haccepted hq₁] at hx
    obtain ⟨p₁, hp₁⟩ := h.known hq₁ x hx
    rw [assign_of_ne hq hnew hq₁ (List.mem_append_left _ hx)]
    exact ⟨_, Parties.map_eq_some.mpr ⟨p₁, hp₁, rfl⟩⟩
  share := by
    intro s₁ t₁ p' q' hp' hq'
    obtain ⟨p₁, hp₁, rfl⟩ := Parties.map_eq_some.mp hp'
    obtain ⟨q₁, hq₁, rfl⟩ := Parties.map_eq_some.mp hq'
    obtain ⟨rest, hshare, hrest⟩ := h.share hp₁ hq₁
    have hrunning : (g s₁ p₁).relay ≠ .stopped → p₁.relay ≠ .stopped := by
      rw [hrelay hp₁]
      split_ifs with hs
      · subst hs
        obtain rfl : p = p₁ := Option.some.inj (hp.symm.trans hp₁)
        simp [hr]
      · exact id
    rw [hrelayed hp₁, haccepted hq₁, hwaiting hq₁, ← List.append_assoc, shareOf_append,
      shareOf_assign_of_ne hq hnew hq₁ (List.Subset.refl _), hshare]
    split_ifs with ht
    · subst ht
      obtain rfl : q = q₁ := Option.some.inj (hq.symm.trans hq₁)
      rw [shareOf_assign]
      by_cases hs : s₁ = s
      · subst hs
        obtain rfl : p = p₁ := Option.some.inj (hp.symm.trans hp₁)
        rw [hrest hopen (by simp [hr])]
        exact ⟨[], by simp, fun _ _ => rfl⟩
      · refine ⟨rest, by simp [pend, hs], fun _ hstopped => ?_⟩
        rw [hrest hopen (hrunning hstopped)]
        simp [pend, settledUp, hs]
    · refine ⟨rest, by simp, fun hopen hstopped => ?_⟩
      rw [hrest ((hkeeps hq₁).opened hopen) (hrunning hstopped)]
      simp [settledUp, pend, ht]

/-- The frame that is pending is refused, or has nowhere to go. -/
theorem Accounts.dismiss {d : Delivery} (h : Accounts give arrived closed P owner (pend s d))
    (hclosed : ∀ q, P d.target = some q → ¬IsOpen q.endpoint) :
    Accounts give arrived closed P owner settledUp := by
  refine ⟨h.sound, h.done_of_closed, h.done_of_stopped, h.owned, h.sending, h.known, ?_⟩
  intro s₁ t₁ p₁ q₁ hp₁ hq₁
  obtain ⟨rest, hshare, hrest⟩ := h.share hp₁ hq₁
  refine ⟨rest, hshare, fun hopen hrunning => ?_⟩
  rw [hrest hopen hrunning, pend, if_neg, settledUp]
  rintro ⟨-, rfl⟩
  exact hclosed q₁ hq₁ hopen

/-- A relay that does not wait comes to its end. What it still had to send is lost if it is
stopped. -/
theorem Accounts.leave {r : Relay} (h : Accounts give arrived closed P owner pending)
    (hp : P s = some p) (hr : p.relay = .receiving) (hend : r = .ended ∨ r = .stopped)
    (hdone : r = .stopped → SomeDone P)
    (hpending : ∀ s₁ t₁, s₁ ≠ s ∨ r ≠ .stopped → pending s₁ t₁ = [])
    (hsound : ∀ {s p}, P s = some p → (g s p).Sound (arrived s))
    (hkeeps : ∀ {s p}, P s = some p → p.Keeps (g s p))
    (hrelay : ∀ {s₁ p₁}, P s₁ = some p₁ → (g s₁ p₁).relay = if s₁ = s then r else p₁.relay)
    (hrelayed : ∀ {s p}, P s = some p → (g s p).relayed = p.relayed)
    (haccepted : ∀ {s p}, P s = some p → (g s p).endpoint.accepted = p.endpoint.accepted)
    (hwaiting : ∀ {s p}, P s = some p → (g s p).endpoint.waiting = p.endpoint.waiting) :
    Accounts give arrived closed (P.map g) owner settledUp where
  sound := Parties.forall_map hsound
  done_of_closed hclosed := (h.done_of_closed hclosed).map hkeeps
  done_of_stopped := by
    refine h.done_of_stopped_map hkeeps fun {s₁ p₁} hp₁ hstopped => ?_
    rw [hrelay hp₁] at hstopped
    split_ifs at hstopped
    · exact Or.inr (hdone hstopped)
    · exact Or.inl hstopped
  owned := by
    intro t₁ q' hq' x hx
    obtain ⟨q₁, hq₁, rfl⟩ := Parties.map_eq_some.mp hq'
    obtain ⟨p₁, hp₁, hsending⟩ := h.owned hq₁ x (hwaiting hq₁ ▸ hx)
    refine ⟨_, Parties.map_eq_some.mpr ⟨p₁, hp₁, rfl⟩, ?_⟩
    rw [hrelay hp₁, if_neg, hsending]
    rintro rfl
    obtain rfl : p = p₁ := Option.some.inj (hp.symm.trans hp₁)
    simp [hr] at hsending
  sending := by
    intro s₁ t₁ p' ticket hp' hsending
    obtain ⟨p₁, hp₁, rfl⟩ := Parties.map_eq_some.mp hp'
    rw [hrelay hp₁] at hsending
    split_ifs at hsending with hs
    · rcases hend with rfl | rfl <;> cases hsending
    · obtain ⟨q₁, hq₁, x, hx, hticket⟩ := h.sending hp₁ hsending
      exact ⟨_, Parties.map_eq_some.mpr ⟨q₁, hq₁, rfl⟩, x, hwaiting hq₁ ▸ hx, hticket⟩
  known := h.known_map haccepted
  share := by
    intro s₁ t₁ p' q' hp' hq'
    obtain ⟨p₁, hp₁, rfl⟩ := Parties.map_eq_some.mp hp'
    obtain ⟨q₁, hq₁, rfl⟩ := Parties.map_eq_some.mp hq'
    obtain ⟨rest, hshare, hrest⟩ := h.share hp₁ hq₁
    refine ⟨rest, ?_, fun hopen hrunning => ?_⟩
    · rw [hrelayed hp₁, haccepted hq₁, hwaiting hq₁, hshare]
    · rw [hrelay hp₁] at hrunning
      have hrunning₁ : p₁.relay ≠ .stopped := by
        split_ifs at hrunning with hs
        · subst hs
          obtain rfl : p = p₁ := Option.some.inj (hp.symm.trans hp₁)
          simp [hr]
        · exact hrunning
      have hnone : s₁ ≠ s ∨ r ≠ .stopped := by
        split_ifs at hrunning with hs
        · exact Or.inr hrunning
        · exact Or.inl hs
      rw [hrest ((hkeeps hq₁).opened hopen) hrunning₁, hpending s₁ t₁ hnone, settledUp]

end

end Switchboard.Exchange
