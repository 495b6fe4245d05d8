import Switchboard.Proofs.Exchange.Run
/-!
# What is delivered

What an endpoint has written is an interleaving: each frame comes from one side, and the frames from
one side are the first of those that this side has to send there, in order
(`Balanced.exists_delivered`). In a calm state they are all of them, for there nothing is held up
anywhere: no queue holds a frame, no send waits, and every relay waits for its next frame.
-/

namespace Switchboard.Exchange

open Endpoint

section

variable {arrived : Side → List Bytes} {s : Station} {side target : Side} {p q : Party}

/-! ### Calm states -/

/-- An endpoint is alive while its lifetime lasts, if it pings at all. -/
theorem Balanced.isAlive {x : Exchange} (h : Balanced arrived x) (hp : x.party? side = some p)
    (hd : p.endpoint.isDone = false) (hping : p.endpoint.settings.pingPeriod.toNanos ≠ 0) :
    IsAlive p.endpoint := by
  obtain ⟨owner, haccounts⟩ := h.accounts
  refine ⟨hd, fun hstopped => ?_⟩
  rcases (haccounts.sound hp).ledger.outgoing.done_of_stopped hstopped with hdone | hzero
  · exact absurd hdone (by simp [hd])
  · exact hping hzero

/-- A move of an endpoint that is possible by itself is possible in its exchange. -/
theorem Settled.endpoint {x : Exchange} {now : Nat} (h : Settled now x)
    (hp : x.party? side = some p) {m : Endpoint.Move} (hm : isRelayed m = false) :
    p.endpoint.perform now m = none := by
  have hnone := h (.endpoint side m)
  rw [Exchange.perform, hm, hp] at hnone
  simpa using hnone

/-- In a calm state every writer is idle. -/
theorem IsCalm.writer_eq (h : IsCalm s) (hp : s.exchange.party? side = some p)
    (hl : Ledger p.endpoint) : p.endpoint.writer = .idle := by
  have halive := h.alive hp
  cases hw : p.endpoint.writer with
  | idle => rfl
  | stopped => exact absurd hw halive.writer_ne
  | leaving code stage deadline =>
    have hdone := hl.outgoing.done_of_leaving _ _ _ hw
    rw [halive.notDone] at hdone
    cases hdone
  | writing deadline =>
    obtain ⟨m, hslot⟩ := Option.ne_none_iff_exists'.mp (hl.outgoing.slot_of_writing _ hw)
    have hnone := h.settled.endpoint hp (m := .write) rfl
    rw [Endpoint.perform, goOn, hw] at hnone
    cases hf : p.endpoint.flow with
    | blocked => simp [h.unsuspended hp hf] at hslot
    | «open» => simp [writeOn, hslot, hf] at hnone
    | failing => simp [writeOn, hslot, hf] at hnone

/-- In a calm state no frame waits to be written. -/
theorem IsCalm.outbound_eq (h : IsCalm s) (hp : s.exchange.party? side = some p)
    (hl : Ledger p.endpoint) : p.endpoint.outbound = [] := by
  cases ho : p.endpoint.outbound with
  | nil => rfl
  | cons f rest =>
    have hnone := h.settled.endpoint hp (m := .take) rfl
    simp [Endpoint.perform, h.writer_eq hp hl, ho] at hnone

/-- In a calm state all that was accepted was written. -/
theorem IsCalm.accepted_eq (h : IsCalm s) (hp : s.exchange.party? side = some p)
    (hl : Ledger p.endpoint) : p.endpoint.accepted.map (·.frame) = p.endpoint.framesWritten := by
  have hw := h.writer_eq hp hl
  have haccepted := hl.outgoing.accepted_eq
  rw [inHand_eq, hl.outgoing.slot_of_idle hw, hw, h.outbound_eq hp hl,
    hl.outgoing.unwritten_eq (h.alive hp).writer_ne] at haccepted
  simpa [Writer.held] using haccepted

/-- A live endpoint takes frames to send. -/
theorem IsCalm.isOpen (h : IsCalm s) (hp : s.exchange.party? side = some p)
    (hl : Ledger p.endpoint) : IsOpen p.endpoint := by
  refine ⟨(h.alive hp).notDone, ?_⟩
  rw [isClosed, h.writer_eq hp hl]

section

variable {give : Side → Bytes → Delivery} {closed : Prop} {owner : Side → Nat → Side}

/-- In a calm state no lifetime has ended. -/
theorem IsCalm.not_someDone (h : IsCalm s) : ¬SomeDone s.exchange.party? := by
  rintro ⟨t, q, hq, hdone⟩
  rw [(h.alive hq).notDone] at hdone
  cases hdone

/-- In a calm state no send waits, for the first of them would have room. -/
theorem IsCalm.waiting_eq (h : IsCalm s)
    (ha : Accounts give arrived closed s.exchange.party? owner settledUp)
    (hq : s.exchange.party? target = some q) : q.endpoint.waiting = [] := by
  have hsound := ha.sound hq
  have hopen := h.isOpen hq hsound.ledger
  cases hwaiting : q.endpoint.waiting with
  | nil => rfl
  | cons w rest =>
    obtain ⟨p, hp, hr⟩ := ha.owned hq w (by simp [hwaiting])
    have hroom : 0 < q.endpoint.room := by
      rw [room, h.outbound_eq hq hsound.ledger]
      exact (hasRoom_iff.mp hsound.hasRoom).1
    have hresume : (q.endpoint.resumeSend w.ticket).isSome = true := by
      rw [resumeSend, place?_head hwaiting]
      simp [hopen.notDone, hopen.notClosed, hroom]
    obtain ⟨⟨success, e⟩, he⟩ := Option.isSome_iff_exists.mp hresume
    have hnone := h.settled (.relay (owner target w.ticket))
    simp [Exchange.perform, relayOn, hp, hr, hq, he] at hnone

/-- In a calm state every relay waits for its next frame. -/
theorem IsCalm.relay_eq (h : IsCalm s)
    (ha : Accounts give arrived closed s.exchange.party? owner settledUp)
    (hp : s.exchange.party? side = some p) : p.relay = .receiving := by
  cases hr : p.relay with
  | receiving => rfl
  | idle | broken =>
    have hintact := (ha.sound hp).intact
    simp [hr, Relay.isIntact] at hintact
  | ended => exact absurd ⟨side, p, hp, (ha.sound hp).done_of_ended hr⟩ h.not_someDone
  | stopped => exact absurd (ha.done_of_stopped hp hr) h.not_someDone
  | sending target ticket =>
    obtain ⟨q, hq, w, hw, -⟩ := ha.sending hp hr
    rw [h.waiting_eq ha hq] at hw
    cases hw

/-- In a calm state no frame waits to be received. -/
theorem IsCalm.inbound_eq (h : IsCalm s)
    (ha : Accounts give arrived closed s.exchange.party? owner settledUp)
    (hp : s.exchange.party? side = some p) : p.endpoint.inbound = [] := by
  have hr := h.relay_eq ha hp
  cases hin : p.endpoint.inbound with
  | nil => rfl
  | cons f rest =>
    have hnone := h.settled (.relay side)
    simp [Exchange.perform, relayOn, hp, hr, Endpoint.receive, hin] at hnone

/-- In a calm state every reader listens. -/
theorem IsCalm.reader_eq (h : IsCalm s)
    (ha : Accounts give arrived closed s.exchange.party? owner settledUp)
    (hp : s.exchange.party? side = some p) : p.endpoint.reader = .listening := by
  have hsound := ha.sound hp
  have hr := h.relay_eq ha hp
  cases hreader : p.endpoint.reader with
  | listening => rfl
  | stopped =>
    exact absurd ⟨side, p, hp, hsound.ledger.incoming.done_of_stopped hreader⟩ h.not_someDone
  | offering f =>
    have htaken := hsound.taken (by simp [hr]) (by simp [hr])
    have hcapacity := (hasRoom_iff.mp hsound.hasRoom).2
    have hnone := h.settled.endpoint hp (m := .deliver) rfl
    simp [Endpoint.perform, hreader, htaken, h.inbound_eq ha hp, hcapacity] at hnone

/-- In a calm state all that has arrived was relayed. -/
theorem IsCalm.relayed_eq (h : IsCalm s)
    (ha : Accounts give arrived closed s.exchange.party? owner settledUp)
    (hp : s.exchange.party? side = some p) : p.relayed = arrived side := by
  have hsound := ha.sound hp
  have hr := h.relay_eq ha hp
  have hreader := h.reader_eq ha hp
  have harrivals : p.endpoint.arrivals = [] := by
    cases harrivals : p.endpoint.arrivals with
    | nil => rfl
    | cons a rest =>
      have hnone := h.settled.endpoint hp (m := .read) rfl
      simp [Endpoint.perform, hreader, harrivals] at hnone
  have htaken := hsound.taken (by simp [hr]) (by simp [hr])
  have hwhole := hsound.ledger.incoming.received_whole (by simp [hreader]) (by simp [htaken])
  have hheld : Reader.listening.held = [] := rfl
  rw [h.inbound_eq ha hp, hreader, hheld, List.append_nil, List.append_nil] at hwhole
  obtain ⟨before, hreceived, harrived⟩ := hsound.hears
  apply (List.append_right_inj before).mp
  calc before ++ p.relayed = p.endpoint.received := hreceived.symm
    _ = p.endpoint.framesTaken := hwhole.symm
    _ = p.endpoint.framesArrived := by rw [framesArrived, harrivals, List.append_nil, framesTaken]
    _ = before ++ arrived side := harrived

end

/-! ### What was written -/

/-- The frames that were relayed are the first that arrived. -/
theorem Party.Sound.relayed_begins {arrived : List Bytes} (h : p.Sound arrived) :
    p.relayed <+: arrived := by
  have hbegins := h.ledger.incoming.received_arrived
  obtain ⟨before, hreceived, harrived⟩ := h.hears
  rwa [hreceived, harrived, List.prefix_append_right_inj] at hbegins

/-- The sends that were accepted first were written, and when their number is known they are. -/
theorem Party.Sound.written_eq {arrived : List Bytes} (h : p.Sound arrived) :
    (p.endpoint.accepted.take p.endpoint.framesWritten.length).map (·.frame)
      = p.endpoint.framesWritten := by
  rw [List.map_take, h.ledger.outgoing.accepted_eq, List.append_assoc, List.append_assoc]
  exact List.take_left

/-- What a side has written, each frame with the side that it comes from. -/
structure Delivered (give : Side → Bytes → Delivery) (arrived : Side → List Bytes) (P : Parties)
    (target : Side) (q : Party) (isWhole : Prop) (sent : List (Side × Bytes)) : Prop where
  written : sent.map (·.2) = q.endpoint.framesWritten
  known : ∀ m ∈ sent, ∃ p, P m.1 = some p
  begun {source : Side} {p : Party} : P source = some p →
    (sent.filter (·.1 = source)).map (·.2) <+: outbox give source target p.relayed
  share {source : Side} {p : Party} : P source = some p →
    (sent.filter (·.1 = source)).map (·.2) <+: outbox give source target (arrived source)
  whole {source : Side} {p : Party} : isWhole → P source = some p →
    (sent.filter (·.1 = source)).map (·.2) = outbox give source target (arrived source)

/-- The sends of a side among those whose owners are known. -/
theorem filter_owned (owner : Nat → Side) (source : Side) (ws : List Waiting) :
    ((ws.map fun w => (owner w.ticket, w.frame)).filter (·.1 = source)).map (·.2)
      = shareOf owner source ws := by
  rw [List.filter_map, List.map_map]
  rfl

/-- What was written is an interleaving of what the sides have to send, as far as they have come.
In a calm state they have come to its end. -/
theorem Balanced.exists_delivered (h : Balanced arrived s.exchange)
    (hq : s.exchange.party? target = some q) :
    ∃ sent, Delivered s.exchange.delivery arrived s.exchange.party? target q (IsCalm s) sent := by
  obtain ⟨owner, ha⟩ := h.accounts
  have hsound := ha.sound hq
  have hwritten := hsound.written_eq
  have hbegun {source : Side} {p : Party} (hp : s.exchange.party? source = some p) :
      shareOf (owner target) source (q.endpoint.accepted.take q.endpoint.framesWritten.length)
        <+: outbox s.exchange.delivery source target p.relayed := by
    obtain ⟨rest, hshare, -⟩ := ha.share hp hq
    have hfirst : q.endpoint.accepted.take q.endpoint.framesWritten.length
        <+: q.endpoint.accepted ++ q.endpoint.waiting :=
      (List.take_prefix _ _).trans (List.prefix_append _ _)
    rw [hshare]
    exact (shareOf_mono hfirst _ _).trans (List.prefix_append _ _)
  refine ⟨(q.endpoint.accepted.take q.endpoint.framesWritten.length).map
    fun w => (owner target w.ticket, w.frame), ?_, ?_, ?_, ?_, ?_⟩
  · rw [List.map_map]
    exact hwritten
  · intro m hm
    obtain ⟨w, hw, rfl⟩ := List.mem_map.mp hm
    exact ha.known hq w (List.mem_of_mem_take hw)
  · intro source p hp
    rw [filter_owned]
    exact hbegun hp
  · intro source p hp
    rw [filter_owned]
    exact (hbegun hp).trans ((ha.sound hp).relayed_begins.filterMap _)
  · intro source p hcalm hp
    obtain ⟨rest, hshare, hrest⟩ := ha.share hp hq
    have hall := hcalm.accepted_eq hq hsound.ledger
    have hlength : q.endpoint.framesWritten.length = q.endpoint.accepted.length := by
      rw [← hall, List.length_map]
    rw [filter_owned, hlength, List.take_length, ← hcalm.relayed_eq ha hp, hshare,
      hcalm.waiting_eq ha hq, List.append_nil,
      hrest (hcalm.isOpen hq hsound.ledger) (by simp [hcalm.relay_eq ha hp]), settledUp,
      List.append_nil]

end

end Switchboard.Exchange
