import Switchboard.Proofs.Endpoint.Causes
import Switchboard.Proofs.Exchange.Evolution
import Switchboard.Proofs.Exchange.FanIn
import Switchboard.Proofs.Exchange.FanOut
/-!
# What is relayed before an exchange ends

A relay sees the end of what it reads only when the inbound queue is empty, whatever has ended the
lifetime before and whatever it had to wait for. So when an exchange ends with the relay of a side
from which no more can come, all frames that came from that side before were relayed
(`handled_of_join`), and where their target has not ended it has accepted what was sent for them.
-/

namespace Switchboard.Exchange

open Endpoint Wire

/-! ### Definitions -/

/-- A party of which is known what has arrived: its reader heeds the end of that, and its relay has
the inbound queue until it has drained it. -/
structure Party.Watched (heard : List Arrival) (p : Party) : Prop where
  ledger : Ledger p.endpoint
  heeds : Heeds p.endpoint
  seen_eq : p.endpoint.seen = heard
  consumer : p.relay.IsActive → p.endpoint.consumer = .taken
  drained : p.relay = .ended → Drained p.endpoint

section

variable {heard : List Arrival} {now : Nat} {p q : Party} {side target : Side} {s s' : Station}
  {events : List Event} {arrived : Side → List Bytes} {label : String}

/-! ### Parties -/

/-- Every step keeps a party watched. -/
theorem Party.Watched.step (h : Party.Step now p q) (hw : p.Watched heard) : q.Watched heard := by
  have hact {e : Endpoint} (h : Act now p.endpoint e) : (Ledger e ∧ Heeds e) ∧ e.seen = heard :=
    ⟨isStable_heeds.act h ⟨hw.ledger, hw.heeds⟩, (seen_act h).trans hw.seen_eq⟩
  cases h with
  | act h hc =>
    obtain ⟨⟨hledger, hheeds⟩, hseen⟩ := hact h
    exact ⟨hledger, hheeds, hseen, fun hr => hc (hw.consumer hr),
      fun hr => isStable_drained.act h (hw.drained hr)⟩
  | received => exact ⟨hw.ledger, hw.heeds, hw.seen_eq, hw.consumer, hw.drained⟩
  | relay hp hr =>
    refine ⟨hw.ledger, hw.heeds, hw.seen_eq, fun _ => hw.consumer hp, ?_⟩
    rintro rfl
    cases hr
  | ended hp he =>
    obtain ⟨⟨hledger, hheeds⟩, hseen⟩ := hact .dropInbound
    refine ⟨hledger, hheeds, hseen, False.elim, fun _ => Drained.dropInbound hw.heeds ?_ he⟩
    have htaken := hw.consumer (by rw [hp]; trivial)
    simp [htaken]
  | stopped hp =>
    obtain ⟨⟨hledger, hheeds⟩, hseen⟩ := hact .dropInbound
    exact ⟨hledger, hheeds, hseen, False.elim, by simp⟩

/-- Where all that has arrived is heard, nothing was taken out of the queue before. -/
theorem Party.Watched.relayed_eq (h : p.Watched heard)
    (hears : p.Hears (heard.filterMap Arrival.frame?)) : p.relayed = p.endpoint.received := by
  obtain ⟨before, hreceived, harrived⟩ := hears
  have hall : p.endpoint.framesArrived = heard.filterMap Arrival.frame? := by
    rw [← h.seen_eq]
    rfl
  have hnone : before = [] := by simpa [hall] using harrived
  rw [hreceived, hnone, List.nil_append]

/-- To be watched is stable. -/
theorem isStable_watched : Party.IsStable fun _ heard p => p.Watched heard where
  step := Party.Watched.step
  arrive a hw := by
    refine ⟨hw.ledger.arrive a, hw.heeds.of_eq rfl rfl rfl rfl rfl, ?_, hw.consumer,
      fun hr => (hw.drained hr).of_eq rfl rfl rfl rfl⟩
    rw [← hw.seen_eq, seen, seen, List.append_assoc]
    rfl
  setFlow flow hw := ⟨hw.ledger.setFlow flow, hw.heeds.of_eq rfl rfl rfl rfl rfl, hw.seen_eq,
    hw.consumer, fun hr => (hw.drained hr).of_eq rfl rfl rfl rfl⟩
  later _ := id

/-- A new party is watched. -/
theorem Party.Watched.start (settings : Settings) (now : Nat) :
    (Party.start settings now).Watched [] := by
  have hact : Act now (.start settings now) (Endpoint.start settings now).takeInbound.2 :=
    .takeInbound
  obtain ⟨hledger, hheeds⟩ := isStable_heeds.act hact ⟨.start settings now, .start settings now⟩
  refine ⟨hledger, hheeds, rfl, fun _ => rfl, ?_⟩
  rw [Party.start_eq]
  simp

/-- A relay that has ended stays so. -/
theorem isStable_ended : Party.IsStable fun _ _ p => p.relay = .ended where
  step h hp := by
    cases h with
    | act | received => exact hp
    | relay hr | stopped hr =>
      rw [hp] at hr
      cases hr
    | ended => rfl
  arrive _ := id
  setFlow _ := id
  later _ := id

/-! ### What was accepted -/

/-- An endpoint that has not ended takes frames to send, if it pings at all. -/
theorem Balanced.isOpen {x : Exchange} (h : Balanced arrived x) (hq : x.party? target = some q)
    (hd : q.endpoint.isDone = false) (hping : q.endpoint.settings.pingPeriod.toNanos ≠ 0) :
    IsOpen q.endpoint := by
  obtain ⟨owner, haccounts⟩ := h.accounts
  have halive := h.isAlive hq hd hping
  exact ⟨hd, halive.isClosed_eq (haccounts.sound hq).ledger.outgoing⟩

/-- All that a side has to send to an endpoint that takes it was accepted there, once the relay of
the side has ended. -/
theorem Accounts.outbox_eq {give : Side → Bytes → Delivery} {closed : Prop} {P : Parties}
    {owner : Side → Nat → Side} (h : Accounts give arrived closed P owner settledUp)
    (hp : P side = some p) (hr : p.relay = .ended) (hq : P target = some q)
    (hopen : IsOpen q.endpoint) :
    outbox give side target p.relayed = shareOf (owner target) side q.endpoint.accepted := by
  obtain ⟨rest, hshare, hrest⟩ := h.share hp hq
  rw [hshare, hrest hopen (by simp [hr]), shareOf_append,
    h.shareOf_waiting_nil hp hq (by simp [hr]), settledUp, List.append_nil, List.append_nil]

/-- All that a channel has accepted is from the client. -/
theorem Accounts.shareOf_client {x : Exchange} {closed : Prop} {owner : Side → Nat → Side}
    (h : Accounts x.delivery arrived closed x.party? owner settledUp)
    (hq : x.party? (.channel label) = some q) :
    shareOf (owner (.channel label)) .client q.endpoint.accepted
      = q.endpoint.accepted.map (·.frame) := by
  rw [shareOf, List.filter_eq_self.mpr]
  intro w hw
  obtain ⟨p, hp⟩ := h.known hq w hw
  cases hside : owner (.channel label) w.ticket with
  | client => rfl
  | channel l =>
    rw [hside] at hp
    obtain ⟨rest, hshare, -⟩ := h.share hp hq
    rw [outbox_channel_channel, shareOf_append, List.append_assoc] at hshare
    have hnone := (List.append_eq_nil_iff.mp hshare.symm).1
    rw [shareOf, List.map_eq_nil_iff, List.filter_eq_nil_iff] at hnone
    exact absurd (decide_eq_true hside) (hnone w hw)

/-! ### Runs -/

/-- The parties of a new exchange are watched in every run. -/
theorem IsNew.watched {x : Exchange} (hx : IsNew x) {now : Nat}
    (hrun : Station.run ⟨now, x⟩ events = some s) (hp : s.exchange.party? side = some p) :
    p.Watched (arrivalsAt side events) := by
  refine isStable_watched.run silence hrun ?_ hp
  intro side p hp
  obtain ⟨settings, born, -, rfl⟩ := hx.party hp
  exact .start settings born

/-- The last of a sequence of events. -/
theorem Station.run_concat (s : Station) (events : List Event) (event : Event) :
    s.run (events ++ [event]) = (s.run events).bind (·.after event) := by
  rw [Station.run_append]
  congr 1
  funext t
  simp [Station.run]

/-- An exchange that ends with a relay ends with one that has ended. -/
theorem Balanced.relay_of_join {x y : Exchange} {now : Nat} (h : Balanced arrived x)
    (hy : x.perform now (.join side) = some y) :
    y.isRunning = false ∧ ∃ p, x.party? side = some p ∧ p.relay = .ended := by
  rw [Exchange.perform] at hy
  split_ifs at hy
  obtain ⟨r, hresult, rfl⟩ := Option.map_eq_some_iff.mp hy
  obtain ⟨p, hp, hresult⟩ := Option.bind_eq_some_iff.mp hresult
  obtain ⟨owner, haccounts⟩ := h.accounts
  exact ⟨rfl, p, hp, (haccounts.sound hp).ended_of_result hresult⟩

/-- When an exchange ends with the relay of a side whose reader has met the end of what arrives, all
frames that arrived at that side before were relayed, whatever queues were full and whatever sends
waited then. What the client sent to a channel that has not ended was accepted there, in order and
nothing besides, and what a channel sent was accepted by a client that has not ended, with one
answer for each frame. An endpoint that does not ping at all has no writer and accepts nothing. -/
theorem handled_of_join {x : Exchange} (hx : IsNew x) {now : Nat}
    (hrun : Station.run ⟨now, x⟩ (events ++ [.move (.join side)]) = some s)
    (hp : s.exchange.party? side = some p) (hmet : p.endpoint.HasMet) :
    s.exchange.isRunning = false ∧
    p.relayed = framesBeforeEnd (arrivalsAt side events) ∧
    (side = .client → ∀ {label q}, s.exchange.party? (.channel label) = some q →
      q.endpoint.isDone = false → q.endpoint.settings.pingPeriod.toNanos ≠ 0 →
      q.endpoint.accepted.map (·.frame)
        = addressedTo label (framesBeforeEnd (arrivalsAt .client events))) ∧
    ∀ label, side = .channel label → s.exchange.client.endpoint.isDone = false →
      s.exchange.client.endpoint.settings.pingPeriod.toNanos ≠ 0 →
      ∃ sent : List (Side × Bytes),
        sent.map (·.2) = s.exchange.client.endpoint.accepted.map (·.frame) ∧
        List.Forall₂ (IsAnswer x.limit label)
          (framesBeforeEnd (arrivalsAt (.channel label) events))
          ((sent.filter (·.1 = .channel label)).map (·.2)) := by
  obtain ⟨hbalanced, -, hlimit⟩ := hx.balanced.run hrun
  obtain ⟨owner, ha⟩ := hbalanced.accounts
  obtain ⟨t, ht, hjoin⟩ : ∃ t, Station.run ⟨now, x⟩ events = some t ∧
      t.after (.move (.join side)) = some s := by
    rw [Station.run_concat] at hrun
    exact Option.bind_eq_some_iff.mp hrun
  obtain ⟨hbalanced', -, -⟩ := hx.balanced.run ht
  obtain ⟨hstopped, hended⟩ : s.exchange.isRunning = false ∧ p.relay = .ended := by
    obtain ⟨y, hy, rfl⟩ := Option.map_eq_some_iff.mp hjoin
    obtain ⟨hstopped, p₀, hp₀, hr₀⟩ := hbalanced'.relay_of_join hy
    obtain ⟨p₁, hp₁, hlasts⟩ := Station.outlasts hjoin hp
    obtain rfl := Parties.party_eq hp₀ hp₁ rfl
    exact ⟨hstopped, hlasts _ isStable_ended [] hr₀⟩
  have hall := hx.watched hrun hp
  have hwatched : p.Watched (arrivalsAt side events) := by
    have harrivals : arrivalsAt side (events ++ [.move (.join side)]) = arrivalsAt side events := by
      simp [arrivalsAt]
    rwa [harrivals] at hall
  have hrelayed : p.relayed = framesBeforeEnd (arrivalsAt side events) := by
    have hears := (ha.sound hp).hears
    rw [List.nil_append, arrivedAt_eq] at hears
    rw [hall.relayed_eq hears, (hwatched.drained hended).whole hmet,
      hwatched.heeds.framesTaken_eq hmet, hwatched.seen_eq]
  refine ⟨hstopped, hrelayed, ?_, ?_⟩
  · rintro rfl label q hq hd hping
    have hopen := hbalanced.isOpen hq hd hping
    rw [← hrelayed, ← outbox_client_channel (mem_labels hq), ha.outbox_eq hp hended hq hopen,
      ha.shareOf_client hq]
  · rintro label rfl hd hping
    have hclient : s.exchange.party? .client = some s.exchange.client := rfl
    have hopen := hbalanced.isOpen hclient hd hping
    refine ⟨s.exchange.client.endpoint.accepted.map fun w => (owner .client w.ticket, w.frame),
      by simp, ?_⟩
    rw [filter_owned, ← ha.outbox_eq hp hended hclient hopen, ← hrelayed, outbox_channel_client,
      List.forall₂_map_right_iff, List.forall₂_same]
    intro f _
    exact hlimit ▸ isAnswer_forChannel _ label f

end

/-- A channel of which the socket suspends what is written holds up the client's frames until after
the client has closed. -/
def heldUp : List Event :=
  [.arrive .client (.message (.binary (Envelope.encode ⟨"a", [0x31]⟩))),
    .arrive .client (.message (.binary (Envelope.encode ⟨"a", [0x32]⟩))),
    .arrive .client (.message (.close none)), .setFlow (.channel "a") .blocked,
    .move (.endpoint .client .read), .move (.endpoint .client .deliver), .move (.relay .client),
    .move (.endpoint .client .read), .move (.endpoint .client .deliver), .move (.relay .client),
    .move (.endpoint .client .read), .move (.endpoint (.channel "a") .take), .move (.relay .client),
    .move (.relay .client)]

/-- The payload that had to wait was accepted too. -/
theorem handled_of_join_heldUp :
    ∃ s p q, Station.run ⟨0, Exchange.start { Settings.standard with outboundCapacity := 1 } 0 ["a"]⟩
        (heldUp ++ [.move (.join .client)]) = some s ∧
      s.exchange.party? .client = some p ∧ s.exchange.party? (.channel "a") = some q ∧
      p.endpoint.HasMet ∧ q.endpoint.isDone = false ∧
      q.endpoint.settings.pingPeriod.toNanos ≠ 0 ∧ s.exchange.isRunning = false ∧
      addressedTo "a" (framesBeforeEnd (arrivalsAt .client heldUp)) = [[0x31], [0x32]] ∧
      q.endpoint.accepted.map (·.frame)
        = addressedTo "a" (framesBeforeEnd (arrivalsAt .client heldUp)) := by
  have hrun : ∃ s ∈ Station.run
        ⟨0, Exchange.start { Settings.standard with outboundCapacity := 1 } 0 ["a"]⟩
        (heldUp ++ [.move (.join .client)]),
      ∃ p ∈ s.exchange.party? .client, ∃ q ∈ s.exchange.party? (.channel "a"),
        (∃ a ∈ p.endpoint.taken, a.isEnd = true) ∧ q.endpoint.isDone = false ∧
        q.endpoint.settings.pingPeriod.toNanos ≠ 0 := by
    decide +kernel
  have haddressed : addressedTo "a" (framesBeforeEnd (arrivalsAt .client heldUp))
      = [[0x31], [0x32]] := by
    decide +kernel
  obtain ⟨s, hs, p, hp, q, hq, hmet, hd, hping⟩ := hrun
  have hnew : IsNew (Exchange.start { Settings.standard with outboundCapacity := 1 } 0 ["a"]) :=
    isNew_start rfl 0 (by simp)
  obtain ⟨hstopped, -, hclient, -⟩ := handled_of_join hnew hs hp hmet
  exact ⟨s, p, q, hs, hp, hq, hmet, hd, hping, hstopped, haddressed, hclient rfl hq hd hping⟩

/-- A client sends a frame to a channel and closes. -/
def unaccepted : List Event :=
  [.arrive .client (.message (.binary (Envelope.encode ⟨"a", [0x31]⟩))),
    .arrive .client (.message (.close none)), .move (.endpoint .client .read),
    .move (.endpoint .client .deliver), .move (.relay .client), .move (.endpoint .client .read),
    .move (.relay .client)]

/-- Without a time between pings the channel has no writer. Its lifetime has not ended, and yet the
payload that was addressed to it is not accepted. -/
theorem accepted_eq_nil_unaccepted :
    ∃ s p q, Station.run ⟨0, Exchange.start pingless 0 ["a"]⟩
        (unaccepted ++ [.move (.join .client)]) = some s ∧
      s.exchange.party? .client = some p ∧ s.exchange.party? (.channel "a") = some q ∧
      p.endpoint.HasMet ∧ s.exchange.isRunning = false ∧ q.endpoint.isDone = false ∧
      addressedTo "a" (framesBeforeEnd (arrivalsAt .client unaccepted)) = [[0x31]] ∧
      q.endpoint.accepted = [] := by
  have hrun : ∃ s ∈ Station.run ⟨0, Exchange.start pingless 0 ["a"]⟩
        (unaccepted ++ [.move (.join .client)]),
      ∃ p ∈ s.exchange.party? .client, ∃ q ∈ s.exchange.party? (.channel "a"),
        (∃ a ∈ p.endpoint.taken, a.isEnd = true) ∧ s.exchange.isRunning = false ∧
        q.endpoint.isDone = false ∧ q.endpoint.accepted = [] := by
    decide +kernel
  have haddressed : addressedTo "a" (framesBeforeEnd (arrivalsAt .client unaccepted))
      = [[0x31]] := by
    decide +kernel
  obtain ⟨s, hs, p, hp, q, hq, hmet, hstopped, hd, hnone⟩ := hrun
  exact ⟨s, p, q, hs, hp, hq, hmet, hstopped, hd, haddressed, hnone⟩

end Switchboard.Exchange
