import Switchboard.Proofs.Exchange.Accounts
/-!
# Every step keeps the accounts

An exchange is balanced when its accounts are settled up, its labels are distinct, and somebody's
lifetime has ended once its scope has. Each of its moves, and all that is done to it from outside,
leaves it balanced: the moves of the endpoints (`Balanced.perform`), a relay that receives, sends,
waits and goes on, and the end of the exchange.
-/

namespace Switchboard.Exchange

open Endpoint

/-! ### Balance -/

/-- Nothing was lost, doubled or reordered between the sides of an exchange. -/
structure Balanced (arrived : Side → List Bytes) (x : Exchange) : Prop where
  accounts : ∃ owner, Accounts x.delivery arrived (x.isCancelled = true) x.party? owner settledUp
  distinct : x.labels.Nodup

section

variable {arrived arrived' : List Bytes} {p : Party} {e : Endpoint} {r : Relay}

/-- Another endpoint of a party. -/
theorem Party.Sound.withEndpoint (h : p.Sound arrived) (hl : Ledger e)
    (ha : ∀ before, p.endpoint.framesArrived = before ++ arrived →
      e.framesArrived = before ++ arrived') (hr : e.received = p.endpoint.received)
    (hs : e.settings = p.endpoint.settings)
    (hc : p.endpoint.consumer = .taken → e.consumer = .taken)
    (hd : p.endpoint.isDone = true → e.isDone = true) :
    Party.Sound arrived' { p with endpoint := e } where
  ledger := hl
  hears := by
    obtain ⟨before, hreceived, harrived⟩ := h.hears
    exact ⟨before, hr.trans hreceived, ha before harrived⟩
  hasRoom := by
    rw [hs]
    exact h.hasRoom
  intact := h.intact
  taken hended hstopped := hc (h.taken hended hstopped)
  done_of_ended hended := hd (h.done_of_ended hended)

/-- An endpoint of a party after a move. -/
theorem Party.Sound.keep (h : p.Sound arrived) (hl : Ledger e)
    (ha : ∀ before, p.endpoint.framesArrived = before ++ arrived →
      e.framesArrived = before ++ arrived') (hk : Endpoint.Keeps p.endpoint e) :
    Party.Sound arrived' { p with endpoint := e } :=
  h.withEndpoint hl ha hk.received hk.settings
    (fun hc => (hk.consumer (by simp [hc])).trans hc) hk.done

/-- A relay that goes on. -/
theorem Party.Sound.withRelay (h : p.Sound arrived) (hintact : r.isIntact = true)
    (htaken : r ≠ .ended → r ≠ .stopped → p.endpoint.consumer = .taken)
    (hended : r = .ended → p.endpoint.isDone = true) :
    Party.Sound arrived { p with relay := r } :=
  ⟨h.ledger, h.hears, h.hasRoom, hintact, htaken, hended⟩

/-- What an endpoint keeps, its party keeps. -/
theorem Party.Keeps.of_endpoint {p' : Party} (h : Endpoint.Keeps p.endpoint p'.endpoint) :
    p.Keeps p' where
  done := h.done
  opened hopen := by
    constructor
    · by_contra hdone
      exact absurd (h.done (Bool.of_not_eq_false hdone)) (by simp [hopen.notDone])
    · by_contra hclosed
      exact absurd (h.closed (Bool.of_not_eq_false hclosed)) (by simp [hopen.notClosed])

/-- A party keeps what it has. -/
theorem Party.Keeps.refl (p : Party) : p.Keeps p := ⟨id, id⟩

end

section

variable {give : Side → Bytes → Delivery} {arrived arrived' : Side → List Bytes} {closed : Prop}
  {P : Parties} {owner : Side → Nat → Side} {pending : Side → Side → List Bytes}
  {side target : Side} {p q : Party} {e : Endpoint} {w : Waiting}

/-- There is one party on a side. -/
theorem Parties.party_eq (hp : P side = some p) {s : Side} {p₁ : Party} (hp₁ : P s = some p₁)
    (hs : s = side) : p₁ = p := by
  subst hs
  exact Option.some.inj (hp₁.symm.trans hp)

/-- A move of an endpoint, or what is done to it from outside. -/
theorem Accounts.endpoint (h : Accounts give arrived closed P owner pending) (hp : P side = some p)
    (hl : Ledger e) (hk : Endpoint.Keeps p.endpoint e)
    (ha : ∀ before, p.endpoint.framesArrived = before ++ arrived side →
      e.framesArrived = before ++ arrived' side)
    (hother : ∀ s, s ≠ side → arrived' s = arrived s) :
    Accounts give arrived' closed (P.modify side fun p => { p with endpoint := e }) owner
      pending := by
  refine h.adjust (fun _ => []) ?_ ?_ ?_ ?_ ?_ ?_ ?_
  · intro s p₁ hp₁
    split_ifs with hs
    · obtain rfl := Parties.party_eq hp hp₁ hs
      rw [hs]
      exact (h.sound hp).keep hl ha hk
    · rw [hother s hs]
      exact h.sound hp₁
  · intro s p₁ hp₁
    split_ifs with hs
    · obtain rfl := Parties.party_eq hp hp₁ hs
      exact .of_endpoint hk
    · exact .refl p₁
  · intro s p₁ _
    split_ifs <;> rfl
  · intro s p₁ _
    rw [List.append_nil]
    split_ifs <;> rfl
  · intro s p₁ hp₁
    split_ifs with hs
    · obtain rfl := Parties.party_eq hp hp₁ hs
      exact hk.accepted
    · rfl
  · intro s p₁ hp₁
    split_ifs with hs
    · obtain rfl := Parties.party_eq hp hp₁ hs
      exact hk.waiting
    · rfl
  · intro s t
    rw [outbox_nil, List.append_nil]

/-! ### Relays -/

/-- What is received comes from the front of the inbound queue. -/
theorem eq_of_receive_frame {e' : Endpoint} {f : Bytes} (h : e.receive = (.frame f, e')) :
    ∃ rest, e' = { e with inbound := rest, received := e.received ++ [f] } := by
  unfold Endpoint.receive at h
  split at h
  · next f' rest _ =>
    obtain ⟨hf, rfl⟩ := Prod.mk.inj h
    obtain rfl := Receipt.frame.inj hf
    exact ⟨rest, rfl⟩
  · split_ifs at h <;> cases (Prod.mk.inj h).1

/-- The end shows when the reader has stopped. -/
theorem eq_of_receive_ended {e' : Endpoint} (h : e.receive = (.ended, e')) :
    e' = e ∧ e.reader = .stopped := by
  unfold Endpoint.receive at h
  split at h
  · cases (Prod.mk.inj h).1
  · split_ifs at h with hr
    · exact ⟨(Prod.mk.inj h).2.symm, hr⟩
    · cases (Prod.mk.inj h).1

/-- A relay receives a frame, and what it sends for it is pending. -/
theorem Accounts.receive (h : Accounts give arrived closed P owner settledUp)
    (hp : P side = some p) {f : Bytes} (hreceive : p.endpoint.receive = (.frame f, e)) :
    Accounts give arrived closed
      ((P.modify side fun p => { p with endpoint := e }).modify side
        fun p => { p with relayed := p.relayed ++ [f] })
      owner (pend side (give side f)) := by
  obtain ⟨rest, he⟩ := eq_of_receive_frame hreceive
  have hsound := h.sound hp
  have hl : Ledger e := by
    have hl := hsound.ledger.receive
    rwa [hreceive] at hl
  have hk : p.Keeps { p with endpoint := e, relayed := p.relayed ++ [f] } := by
    subst he
    exact ⟨id, fun hopen => ⟨hopen.1, hopen.2⟩⟩
  rw [Parties.modify, Parties.modify, Parties.map_map]
  refine h.adjust (fun s => if s = side then [f] else []) ?_ ?_ ?_ ?_ ?_ ?_ ?_
  · intro s p₁ hp₁
    split_ifs with hs
    · obtain rfl := Parties.party_eq hp hp₁ hs
      rw [hs]
      subst he
      refine ⟨hl, ?_, hsound.hasRoom, hsound.intact, hsound.taken, hsound.done_of_ended⟩
      obtain ⟨before, hreceived, harrived⟩ := hsound.hears
      refine ⟨before, ?_, harrived⟩
      rw [← List.append_assoc, ← hreceived]
    · exact h.sound hp₁
  · intro s p₁ hp₁
    split_ifs with hs
    · obtain rfl := Parties.party_eq hp hp₁ hs
      exact hk
    · exact .refl p₁
  · intro s p₁ _
    split_ifs <;> rfl
  · intro s p₁ _
    split_ifs
    · rfl
    · exact (List.append_nil _).symm
  · intro s p₁ hp₁
    split_ifs with hs
    · obtain rfl := Parties.party_eq hp hp₁ hs
      rw [he]
    · rfl
  · intro s p₁ hp₁
    split_ifs with hs
    · obtain rfl := Parties.party_eq hp hp₁ hs
      rw [he]
    · rfl
  · intro s t
    split_ifs with hs
    · rw [hs, outbox_singleton]
      rfl
    · rw [outbox_nil, pend, if_neg fun hst => hs hst.1]
      rfl

/-- A relay that does not wait comes to its end, and what it reads is dropped. -/
theorem Accounts.quit {r : Relay} (h : Accounts give arrived closed P owner pending)
    (hp : P side = some p) (hr : p.relay = .receiving) (hend : r = .ended ∨ r = .stopped)
    (hended : r = .ended → p.endpoint.isDone = true) (hstopped : r = .stopped → SomeDone P)
    (hpending : ∀ s t, s ≠ side ∨ r ≠ .stopped → pending s t = []) :
    Accounts give arrived closed
      ((P.modify side fun p => { p with endpoint := p.endpoint.dropInbound }).modify side
        fun p => { p with relay := r })
      owner settledUp := by
  have hsound := h.sound hp
  rw [Parties.modify, Parties.modify, Parties.map_map]
  refine h.leave hp hr hend hstopped hpending ?_ ?_ ?_ ?_ ?_ ?_
  · intro s p₁ hp₁
    split_ifs with hs
    · obtain rfl := Parties.party_eq hp hp₁ hs
      rw [hs]
      refine ⟨hsound.ledger.dropInbound, hsound.hears, hsound.hasRoom, ?_, ?_, hended⟩
      · rcases hend with rfl | rfl <;> rfl
      · rcases hend with rfl | rfl <;> simp
    · exact h.sound hp₁
  · intro s p₁ _
    split_ifs
    · exact ⟨id, fun hopen => ⟨hopen.1, hopen.2⟩⟩
    · exact .refl p₁
  · intro s p₁ _
    split_ifs <;> rfl
  · intro s p₁ _
    split_ifs <;> rfl
  · intro s p₁ _
    split_ifs <;> rfl
  · intro s p₁ _
    split_ifs <;> rfl

/-- A relay that sees the end of what it reads ends. -/
theorem Accounts.endRelay (h : Accounts give arrived closed P owner settledUp)
    (hp : P side = some p) (hr : p.relay = .receiving)
    (hreceive : p.endpoint.receive = (.ended, e)) :
    Accounts give arrived closed
      ((P.modify side fun p => { p with endpoint := e.dropInbound }).modify side
        fun p => { p with relay := .ended })
      owner settledUp := by
  obtain ⟨rfl, hstopped⟩ := eq_of_receive_ended hreceive
  have hdone := (h.sound hp).ledger.incoming.done_of_stopped hstopped
  have hdrop : (P.modify side fun p₁ => { p₁ with endpoint := p.endpoint.dropInbound })
      = P.modify side fun p₁ => { p₁ with endpoint := p₁.endpoint.dropInbound } :=
    Parties.modify_congr hp rfl
  rw [hdrop]
  exact h.quit hp hr (Or.inl rfl) (fun _ => hdone) (fun hr' => by cases hr') fun _ _ _ => rfl

/-- An endpoint that refuses a send is not open. -/
theorem not_isOpen (h : e.isDone = true ∨ e.isClosed = true) : ¬IsOpen e := by
  rintro ⟨hdone, hclosed⟩
  rcases h with h | h
  · simp [hdone] at h
  · simp [hclosed] at h

/-- A new send has a ticket that was not handed out. -/
theorem Party.Sound.ticket_ne {arrived : List Bytes} (h : p.Sound arrived) :
    ∀ x ∈ p.endpoint.accepted ++ p.endpoint.waiting, x.ticket ≠ p.endpoint.tickets :=
  fun x hx => Nat.ne_of_lt (h.ledger.ticketed.fresh x hx)

/-- The frame that is pending is refused. -/
theorem Accounts.sendRefused {d : Delivery} (h : Accounts give arrived closed P owner (pend side d))
    (hq : P d.target = some q) (hd : q.endpoint.isDone = true ∨ q.endpoint.isClosed = true)
    (hk : Endpoint.Keeps q.endpoint e) (hl : Ledger e)
    (ha : e.framesArrived = q.endpoint.framesArrived) :
    Accounts give arrived closed (P.modify d.target fun p => { p with endpoint := e }) owner
      settledUp := by
  have hdismissed := h.dismiss fun q' hq' => by
    obtain rfl : q = q' := Option.some.inj (hq.symm.trans hq')
    exact not_isOpen hd
  exact hdismissed.endpoint hq hl hk (fun _ => ha.trans) fun _ _ => rfl

/-- The frame that is pending is accepted. -/
theorem Accounts.sendAccepted
    (h : Accounts give arrived closed P owner (pend side ⟨target, w.frame⟩))
    (hp : P side = some p) (hr : p.relay = .receiving) (hq : P target = some q)
    (hopen : IsOpen q.endpoint)
    (hnew : ∀ x ∈ q.endpoint.accepted ++ q.endpoint.waiting, x.ticket ≠ w.ticket)
    (hsound : Party.Sound (arrived target) { q with endpoint := e })
    (hdone : q.endpoint.isDone = true → e.isDone = true)
    (haccepted : e.accepted = q.endpoint.accepted ++ [w])
    (hwaiting : e.waiting = q.endpoint.waiting) :
    Accounts give arrived closed (P.modify target fun p => { p with endpoint := e })
      (assign owner target w.ticket side) settledUp := by
  refine h.accept hp hq hr hopen hnew ?_ ?_ ?_ ?_ ?_ ?_
  · intro s p₁ hp₁
    split_ifs with hs
    · obtain rfl := Parties.party_eq hq hp₁ hs
      exact hs ▸ hsound
    · exact h.sound hp₁
  · intro s p₁ hp₁
    split_ifs with hs
    · obtain rfl := Parties.party_eq hq hp₁ hs
      exact ⟨hdone, fun _ => hopen⟩
    · exact .refl p₁
  · intro s p₁ _
    split_ifs <;> rfl
  · intro s p₁ _
    split_ifs <;> rfl
  · intro s p₁ hp₁
    split_ifs with hs
    · obtain rfl := Parties.party_eq hq hp₁ hs
      exact haccepted
    · exact (List.append_nil _).symm
  · intro s p₁ hp₁
    split_ifs with hs
    · obtain rfl := Parties.party_eq hq hp₁ hs
      exact hwaiting
    · rfl

/-- A relay that goes on leaves the endpoint of its party alone. -/
theorem endpoint_withRelay (c : Prop) [Decidable c] (p : Party) (r : Relay) :
    (if c then { p with relay := r } else p).endpoint = p.endpoint := by
  split_ifs <;> rfl

/-- The frame that is pending has to wait, and its relay with it. -/
theorem Accounts.sendWaits
    (h : Accounts give arrived closed P owner (pend side ⟨target, w.frame⟩))
    (hp : P side = some p) (hr : p.relay = .receiving) (hq : P target = some q)
    (hopen : IsOpen q.endpoint)
    (hnew : ∀ x ∈ q.endpoint.accepted ++ q.endpoint.waiting, x.ticket ≠ w.ticket)
    (hsound : Party.Sound (arrived target) { q with endpoint := e })
    (hconsumer : e.consumer = q.endpoint.consumer)
    (hdone : q.endpoint.isDone = true → e.isDone = true)
    (haccepted : e.accepted = q.endpoint.accepted)
    (hwaiting : e.waiting = q.endpoint.waiting ++ [w]) :
    Accounts give arrived closed
      ((P.modify target fun p => { p with endpoint := e }).modify side
        fun p => { p with relay := .sending target w.ticket })
      (assign owner target w.ticket side) settledUp := by
  rw [Parties.modify, Parties.modify, Parties.map_map]
  have htaken := (h.sound hp).taken (by simp [hr]) (by simp [hr])
  refine h.hold hp hq hr hopen hnew ?_ ?_ ?_ ?_ ?_ ?_
  · intro s p₁ hp₁
    have hinner : Party.Sound (arrived s)
        (if s = target then { p₁ with endpoint := e } else p₁) := by
      split_ifs with ht
      · obtain rfl := Parties.party_eq hq hp₁ ht
        exact ht ▸ hsound
      · exact h.sound hp₁
    by_cases hs : s = side
    · rw [if_pos hs]
      refine hinner.withRelay rfl (fun _ _ => ?_) (fun h => by cases h)
      obtain rfl := Parties.party_eq hp hp₁ hs
      split_ifs with ht
      · obtain rfl := Parties.party_eq hq hp₁ ht
        exact hconsumer.trans htaken
      · exact htaken
    · rw [if_neg hs]
      exact hinner
  · intro s p₁ hp₁
    have hinner : p₁.Keeps (if s = target then { p₁ with endpoint := e } else p₁) := by
      split_ifs with ht
      · obtain rfl := Parties.party_eq hq hp₁ ht
        exact ⟨hdone, fun _ => hopen⟩
      · exact .refl p₁
    by_cases hs : s = side
    · rw [if_pos hs]
      exact ⟨hinner.1, hinner.2⟩
    · rw [if_neg hs]
      exact hinner
  · intro s p₁ _
    split_ifs <;> rfl
  · intro s p₁ _
    split_ifs <;> rfl
  · intro s p₁ hp₁
    rw [endpoint_withRelay]
    split_ifs with ht
    · obtain rfl := Parties.party_eq hq hp₁ ht
      exact haccepted
    · rfl
  · intro s p₁ hp₁
    rw [endpoint_withRelay]
    split_ifs with ht
    · obtain rfl := Parties.party_eq hq hp₁ ht
      exact hwaiting
    · exact (List.append_nil _).symm

/-- A relay has taken up again the send that it has waited for. -/
def Parties.takeUp (P : Parties) (side target : Side) (ticket : Nat) : Parties :=
  (P.modify target fun p => { p with endpoint := p.endpoint.withdraw ticket }).modify side
    fun p => { p with relay := .receiving }

/-- What a relay has taken up is pending. -/
theorem Accounts.takeUp (h : Accounts give arrived closed P owner settledUp) (hp : P side = some p)
    (hr : p.relay = .sending target w.ticket) (hq : P target = some q)
    (hw : w ∈ q.endpoint.waiting) :
    Accounts give arrived closed (P.takeUp side target w.ticket) owner
      (pend side ⟨target, w.frame⟩) := by
  have htaken := (h.sound hp).taken (by simp [hr]) (by simp [hr])
  rw [Parties.takeUp, Parties.modify, Parties.modify, Parties.map_map]
  refine h.release hp hq hr hw ?_ ?_ ?_ ?_ ?_ ?_
  · intro s p₁ hp₁
    have hsound := h.sound hp₁
    have hl := hsound.ledger.withdraw w.ticket
    have hinner : Party.Sound (arrived s)
        (if s = target then { p₁ with endpoint := p₁.endpoint.withdraw w.ticket } else p₁) := by
      split_ifs
      · exact hsound.withEndpoint hl (fun _ => id) rfl rfl id id
      · exact hsound
    by_cases hs : s = side
    · rw [if_pos hs]
      refine hinner.withRelay rfl (fun _ _ => ?_) (fun h => by cases h)
      obtain rfl := Parties.party_eq hp hp₁ hs
      split_ifs <;> exact htaken
    · rw [if_neg hs]
      exact hinner
  · intro s p₁ _
    split_ifs <;> exact ⟨id, fun hopen => ⟨hopen.1, hopen.2⟩⟩
  · intro s p₁ _
    split_ifs <;> rfl
  · intro s p₁ _
    split_ifs <;> rfl
  · intro s p₁ _
    split_ifs <;> rfl
  · intro s p₁ _
    split_ifs <;> rfl

/-- The relay that has taken up its send. -/
theorem Parties.takeUp_side (hp : P side = some p) (target : Side) (ticket : Nat) :
    ∃ p₁, P.takeUp side target ticket side = some p₁ ∧ p₁.relay = .receiving := by
  have hp₁ := Parties.modify_eq_some (Parties.modify_eq_some hp target
    fun p => { p with endpoint := p.endpoint.withdraw ticket }) side
    fun p => { p with relay := .receiving }
  rw [if_pos rfl] at hp₁
  exact ⟨_, hp₁, rfl⟩

/-- The endpoint from which a send was taken up. -/
theorem Parties.takeUp_target (hq : P target = some q) (side : Side) (ticket : Nat) :
    ∃ q₁, P.takeUp side target ticket target = some q₁ ∧
      q₁.endpoint = q.endpoint.withdraw ticket := by
  have hq₁ := Parties.modify_eq_some (Parties.modify_eq_some hq target
    fun p => { p with endpoint := p.endpoint.withdraw ticket }) side
    fun p => { p with relay := .receiving }
  refine ⟨_, hq₁, ?_⟩
  rw [if_pos rfl]
  split_ifs <;> rfl

/-- A send that was taken up has left its ticket to no other. -/
theorem ticket_ne_of_withdraw (hl : Ticketed e) (hw : w ∈ e.waiting) :
    ∀ x ∈ (e.withdraw w.ticket).accepted ++ (e.withdraw w.ticket).waiting,
      x.ticket ≠ w.ticket := by
  intro x hx
  rcases List.mem_append.mp hx with hx | hx
  · have hdistinct := hl.distinct
    rw [List.map_append, List.nodup_append] at hdistinct
    exact hdistinct.2.2 _ (List.mem_map_of_mem hx) _ (List.mem_map_of_mem hw)
  · exact of_decide_eq_true (List.mem_filter.mp hx).2

/-- A relay that has waited goes on. -/
theorem Accounts.resume {ticket : Nat} {success : Bool}
    (h : Accounts give arrived closed P owner settledUp) (hp : P side = some p)
    (hr : p.relay = .sending target ticket) (hq : P target = some q)
    (hresume : q.endpoint.resumeSend ticket = some (success, e)) :
    ∃ owner', Accounts give arrived closed
      ((P.modify target fun p => { p with endpoint := e }).modify side
        fun p => { p with relay := .receiving })
      owner' settledUp := by
  have hsound := h.sound hq
  have hstep : Step 0 q.endpoint (.resume ticket) e := step_of_perform (by
    rw [Endpoint.perform, hresume]
    rfl)
  have hl := hsound.ledger.step hstep
  have ha := framesArrived_step hstep
  -- Between the two steps the send is with its relay, as one that was just received.
  have hpending {w : Waiting} (hw : w ∈ q.endpoint.waiting) (ht : w.ticket = ticket) :=
    h.takeUp hp (ht ▸ hr) hq hw
  have hsame : ((P.takeUp side target ticket).modify target fun p => { p with endpoint := e })
      = (P.modify target fun p => { p with endpoint := e }).modify side
        fun p => { p with relay := .receiving } := by
    simp only [Parties.takeUp, Parties.modify, Parties.map_map]
    congr 1
    funext s p₁
    split_ifs <;> rfl
  cases hstep with
  | reader hreader => cases hreader
  | writer hwriter => cases hwriter
  | farewell _ hfarewell => cases hfarewell
  | @accepted _ i w hplace hd hc hi =>
    obtain ⟨hw, rfl⟩ := mem_of_place? hplace
    have htaken := hpending hw rfl
    obtain ⟨p₁, hp₁, hr₁⟩ := Parties.takeUp_side hp target w.ticket
    obtain ⟨q₁, hq₁, he₁⟩ := Parties.takeUp_target hq side w.ticket
    have hsound₁ := (htaken.sound hq₁).withEndpoint hl (by rw [he₁]; exact fun _ => ha.trans)
      (by rw [he₁]; rfl) (by rw [he₁]; rfl) (by rw [he₁]; exact id) (by rw [he₁]; exact id)
    rw [← hsame]
    refine ⟨_, htaken.sendAccepted hp₁ hr₁ hq₁ ?_ ?_ hsound₁ ?_ ?_ ?_⟩
    · rw [he₁]
      exact ⟨hd, hc⟩
    · rw [he₁]
      exact ticket_ne_of_withdraw hsound.ledger.ticketed hw
    · rw [he₁]
      exact id
    · rw [he₁]
      rfl
    · rw [he₁]
      rfl
  | @refused _ i w hplace hd =>
    obtain ⟨hw, rfl⟩ := mem_of_place? hplace
    have htaken := hpending hw rfl
    obtain ⟨q₁, hq₁, he₁⟩ := Parties.takeUp_target hq side w.ticket
    rw [← hsame]
    refine ⟨owner, htaken.sendRefused hq₁ ?_ ?_ hl ?_⟩
    · rw [he₁]
      exact hd
    · rw [he₁]
      exact ⟨rfl, rfl, rfl, rfl, Nat.le_refl _, fun _ => rfl, id, id⟩
    · rw [he₁]
      rfl

/-- The frame that is pending is sent: it is refused, accepted, or its relay waits. -/
theorem Accounts.deliver {x : Exchange} {d : Delivery}
    (h : Accounts give arrived closed x.party? owner (pend side d)) (hp : x.party? side = some p)
    (hr : p.relay = .receiving) :
    ∃ owner', Accounts give arrived closed (x.deliver side d).party? owner' settledUp := by
  unfold Exchange.deliver
  cases hq : x.party? d.target with
  | none =>
    refine ⟨owner, h.dismiss ?_⟩
    intro q hq'
    cases hq.symm.trans hq'
  | some q =>
    have hsound := h.sound hq
    have hl := hsound.ledger.send d.frame
    rcases hsent : q.endpoint.send d.frame with ⟨sending, e⟩
    have hs := sent_send q.endpoint d.frame
    rw [hsent] at hs hl
    dsimp only
    rw [hsent]
    cases hs with
    | refused hd =>
      refine ⟨owner, ?_⟩
      dsimp only
      rw [party?_setEndpoint]
      refine h.sendRefused hq hd ?_ hl rfl
      exact ⟨rfl, rfl, rfl, rfl, Nat.le_succ _, fun _ => rfl, id, id⟩
    | accepted hd hc hroom =>
      refine ⟨assign owner d.target q.endpoint.tickets side, ?_⟩
      dsimp only
      rw [party?_setEndpoint]
      exact Accounts.sendAccepted (w := ⟨q.endpoint.tickets, d.frame⟩) h hp hr hq ⟨hd, hc⟩
        hsound.ticket_ne (hsound.withEndpoint hl (fun _ => id) rfl rfl id id) id rfl rfl
    | waits hd hc hroom =>
      refine ⟨assign owner d.target q.endpoint.tickets side, ?_⟩
      dsimp only
      rw [party?_setRelay, party?_setEndpoint]
      exact Accounts.sendWaits (w := ⟨q.endpoint.tickets, d.frame⟩) h hp hr hq ⟨hd, hc⟩
        hsound.ticket_ne (hsound.withEndpoint hl (fun _ => id) rfl rfl id id) rfl id rfl rfl

/-- The scope counts as over once some lifetime has ended. -/
theorem Accounts.withClosed (h : Accounts give arrived closed P owner pending) {closed' : Prop}
    (hclosed : closed' → SomeDone P) : Accounts give arrived closed' P owner pending :=
  ⟨h.sound, hclosed, h.done_of_stopped, h.owned, h.sending, h.known, h.share⟩

/-- A relay is stopped: what it waits to send is withdrawn, and what it reads is dropped. -/
theorem Accounts.stopRelay {x : Exchange} (h : Accounts give arrived True x.party? owner settledUp)
    (side : Side) : Accounts give arrived True (x.stopRelay side).party? owner settledUp := by
  unfold Exchange.stopRelay
  cases hp : x.party? side with
  | none => exact h
  | some p =>
    dsimp only
    split
    · next hr =>
      rw [party?_setRelay, party?_onEndpoint]
      refine h.quit hp hr (Or.inr rfl) (fun hr' => by cases hr') (fun _ => h.done_of_closed ⟨⟩) ?_
      intro _ _ _
      rfl
    · next target ticket hr =>
      obtain ⟨q, hq, w, hw, rfl, -⟩ := h.sending hp hr
      have htaken := h.takeUp hp hr hq hw
      obtain ⟨p₁, hp₁, hr₁⟩ := Parties.takeUp_side hp target w.ticket
      have hquit := htaken.quit hp₁ hr₁ (Or.inr rfl) (fun hr' => by cases hr')
        (fun _ => htaken.done_of_closed ⟨⟩) ?_
      · rw [party?_setRelay, party?_onEndpoint, party?_onEndpoint]
        convert hquit using 1
        simp only [Parties.takeUp, Parties.modify, Parties.map_map]
        congr 1
        funext s p₂
        split_ifs <;> rfl
      · rintro s t (hs | hs)
        · rw [pend, if_neg fun hst => hs hst.1]
        · exact absurd rfl hs
    · exact h

end

/-! ### Moves -/

section

variable {x y : Exchange} {arrived arrived' : Side → List Bytes} {now : Nat}

/-- A change that leaves the shape alone leaves an exchange balanced if its accounts are. -/
theorem Balanced.of_accounts (h : Balanced arrived x) (hshape : y.shape = x.shape)
    (haccounts : ∃ owner,
      Accounts x.delivery arrived' (x.isCancelled = true) y.party? owner settledUp) :
    Balanced arrived' y := by
  obtain ⟨hlabels, hrest⟩ := Prod.mk.inj hshape
  obtain ⟨-, hcancelled⟩ := Prod.mk.inj hrest
  constructor
  · rwa [delivery_congr hshape, hcancelled]
  · rw [hlabels]
    exact h.distinct

/-- Something is done to an endpoint that keeps what it has. -/
theorem Balanced.setEndpoint (h : Balanced arrived x) {side : Side} {p : Party} {e : Endpoint}
    (hp : x.party? side = some p) (hl : Ledger e) (hk : Endpoint.Keeps p.endpoint e)
    (ha : ∀ before, p.endpoint.framesArrived = before ++ arrived side →
      e.framesArrived = before ++ arrived' side) (hother : ∀ s, s ≠ side → arrived' s = arrived s) :
    Balanced arrived' (x.setEndpoint side e) := by
  obtain ⟨owner, haccounts⟩ := h.accounts
  refine h.of_accounts (shape_setEndpoint x side e) ⟨owner, ?_⟩
  rw [party?_setEndpoint]
  exact haccounts.endpoint hp hl hk ha hother

/-- A relay goes on. -/
theorem Balanced.relayOn (h : Balanced arrived x) {side : Side} (hy : x.relayOn side = some y) :
    Balanced arrived y ∧ y.shape = x.shape := by
  obtain ⟨owner, haccounts⟩ := h.accounts
  unfold Exchange.relayOn at hy
  cases hp : x.party? side with
  | none => simp [hp] at hy
  | some p =>
    simp only [hp] at hy
    split at hy
    · next hr =>
      split at hy
      · next f e hreceive =>
        obtain rfl := Option.some.inj hy
        have hpending := haccounts.receive hp hreceive
        rw [← party?_setEndpoint, ← party?_receivedBy,
          ← party?_note _ (x.forFrame side f).2] at hpending
        obtain ⟨p₁, hp₁, hr₁⟩ : ∃ p₁,
            (((x.setEndpoint side e).receivedBy side f).note (x.forFrame side f).2).party? side
              = some p₁ ∧ p₁.relay = .receiving := by
          rw [party?_note, party?_receivedBy, party?_setEndpoint]
          have hp₁ := Parties.modify_eq_some (Parties.modify_eq_some hp side
            fun p => { p with endpoint := e }) side
            fun p => { p with relayed := p.relayed ++ [f] }
          rw [if_pos rfl, if_pos rfl] at hp₁
          exact ⟨_, hp₁, hr⟩
        have hshape : ((((x.setEndpoint side e).receivedBy side f).note
            (x.forFrame side f).2).deliver side (x.delivery side f)).shape = x.shape := by
          simp
        exact ⟨h.of_accounts hshape (hpending.deliver hp₁ hr₁), hshape⟩
      · cases hy
      · next e hreceive =>
        obtain rfl := Option.some.inj hy
        have hended := haccounts.endRelay hp hr hreceive
        have hshape : (((x.note (some (endLine side))).setEndpoint side e.dropInbound).setRelay
            side .ended).shape = x.shape := by
          simp
        refine ⟨h.of_accounts hshape ⟨owner, ?_⟩, hshape⟩
        rw [party?_setRelay, party?_setEndpoint, party?_note]
        exact hended
    · next target ticket hr =>
      cases hq : x.party? target with
      | none => simp [hq] at hy
      | some q =>
        simp only [hq] at hy
        obtain ⟨⟨success, e⟩, hresume, rfl⟩ := Option.map_eq_some_iff.mp hy
        have hshape : ((x.setEndpoint target e).setRelay side .receiving).shape = x.shape := by
          simp
        refine ⟨h.of_accounts hshape ?_, hshape⟩
        rw [party?_setRelay, party?_setEndpoint]
        exact haccounts.resume hp hr hq hresume
    · cases hy

/-- A relay that has a result has ended. -/
theorem Party.Sound.ended_of_result {arrived : List Bytes} {p : Party} (h : p.Sound arrived)
    {r : Except Failure Unit} (hr : p.relay.result? = some r) : p.relay = .ended := by
  have hintact := h.intact
  cases hrelay : p.relay with
  | ended => rfl
  | broken reason => simp [hrelay, Relay.isIntact] at hintact
  | idle | receiving | sending | stopped => simp [hrelay, Relay.result?] at hr

/-- Its result is no failure, and the lifetime of its side has ended. -/
theorem Party.Sound.result_eq {arrived : List Bytes} {p : Party} (h : p.Sound arrived)
    {r : Except Failure Unit} (hr : p.relay.result? = some r) :
    r = .ok () ∧ p.endpoint.isDone = true := by
  have hended := h.ended_of_result hr
  rw [hended] at hr
  exact ⟨(Option.some.inj hr).symm, h.done_of_ended hended⟩

/-- Every relay is stopped. -/
theorem stopRelays (sides : List Side) : ∀ {x : Exchange} {owner : Side → Nat → Side}
    {give : Side → Bytes → Delivery}, Accounts give arrived True x.party? owner settledUp →
    Accounts give arrived True (sides.foldl Exchange.stopRelay x).party? owner settledUp ∧
      (sides.foldl Exchange.stopRelay x).shape = x.shape := by
  induction sides with
  | nil => exact fun h => ⟨h, rfl⟩
  | cons side sides ih =>
    intro x owner give h
    obtain ⟨haccounts, hshape⟩ := ih (h.stopRelay side)
    exact ⟨haccounts, hshape.trans (shape_stopRelay x side)⟩

/-- The end of an exchange leaves its parties as its relays do that are stopped. -/
theorem party?_finishWith (x : Exchange) (r : Except Failure Unit) :
    (x.finishWith r).party? = (x.sides.foldl Exchange.stopRelay x).party? := by
  funext s
  cases s <;> rfl

/-- An exchange that ends once some lifetime has ended is balanced. -/
theorem Balanced.finishWith (h : Balanced arrived x) (hdone : SomeDone x.party?)
    (r : Except Failure Unit) :
    Balanced arrived (x.finishWith r) ∧ (x.finishWith r).shape = x.shape := by
  obtain ⟨owner, haccounts⟩ := h.accounts
  obtain ⟨hstopped, hshape⟩ := stopRelays x.sides (haccounts.withClosed fun _ => hdone)
  refine ⟨h.of_accounts hshape ⟨owner, ?_⟩, hshape⟩
  rw [party?_finishWith]
  exact hstopped.withClosed fun _ => hstopped.done_of_closed ⟨⟩

/-- Every move leaves an exchange balanced. -/
theorem Balanced.perform (h : Balanced arrived x) {m : Move} (hy : x.perform now m = some y) :
    Balanced arrived y ∧ y.shape = x.shape := by
  cases m with
  | endpoint side move =>
    rw [Exchange.perform] at hy
    split_ifs at hy with hrelayed
    obtain ⟨p, hp, hmove⟩ := Option.bind_eq_some_iff.mp hy
    obtain ⟨e, he, rfl⟩ := Option.map_eq_some_iff.mp hmove
    have hstep := step_of_perform he
    have hkeeps : Endpoint.Keeps p.endpoint e := by
      apply Keeps.step hstep
      rintro ticket rfl
      exact hrelayed rfl
    obtain ⟨owner, haccounts⟩ := h.accounts
    have hsound := haccounts.sound hp
    exact ⟨h.setEndpoint hp (hsound.ledger.step hstep) hkeeps
      (fun _ => (framesArrived_step hstep).trans) fun _ _ => rfl, shape_setEndpoint x side e⟩
  | relay side => exact h.relayOn hy
  | finish =>
    rw [Exchange.perform] at hy
    split_ifs at hy with hend
    obtain rfl := Option.some.inj hy
    rw [Bool.and_eq_true] at hend
    obtain ⟨owner, haccounts⟩ := h.accounts
    exact h.finishWith (haccounts.done_of_closed hend.2) _
  | join side =>
    rw [Exchange.perform] at hy
    split_ifs at hy with hrunning
    obtain ⟨r, hresult, rfl⟩ := Option.map_eq_some_iff.mp hy
    obtain ⟨p, hp, hresult⟩ := Option.bind_eq_some_iff.mp hresult
    obtain ⟨owner, haccounts⟩ := h.accounts
    exact h.finishWith ⟨side, p, hp, ((haccounts.sound hp).result_eq hresult).2⟩ _

end

end Switchboard.Exchange
