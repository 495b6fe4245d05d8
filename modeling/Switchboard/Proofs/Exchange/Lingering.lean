import Switchboard.Proofs.Endpoint.Departure
import Switchboard.Proofs.Endpoint.Queue
import Switchboard.Proofs.Exchange.Ending
import Switchboard.Proofs.Exchange.Handover
/-!
# How long an exchange outlives an endpoint

When an endpoint has ended, its relay goes through what had arrived there before, one frame at a
time. For each it waits until it is its turn at another endpoint, with no more sends before it than
there are sides, and so for no more frames that the other has to take (`backlog`). Once the reader
has stopped the backlog does not grow, whatever happens (`backlog_after`). While the exchange goes
on, time passes only where a write holds up the relay (`IsHeld`), which is over within one write's
time. What is taken up next is a part of the backlog, or else a ping. So the exchange lasts one
write's time at most for each part of the backlog and each ping, and one more, whatever its sockets
do and whoever else sends (`ended_of_late`).
-/

namespace Switchboard.Exchange

open Endpoint

/-! ### Definitions -/

/-- The relay of a side. -/
def relay? (x : Exchange) (side : Side) : Option Relay := (x.party? side).map (·.relay)

/-- How many frames the endpoint that a relay waits for has to take before the relay goes on. -/
def aheadOf (x : Exchange) : Relay → Nat
  | .sending target ticket => ((x.party? target).map (·.endpoint.ahead ticket)).getD 0
  | _ => 0

/-- How many frames have to be taken before the relay of a side has sent what it has left, if each
frame has to wait for one from every side. -/
def backlog (x : Exchange) (side : Side) : Nat :=
  match x.party? side with
  | none => 0
  | some p => x.sides.length * p.endpoint.inbound.length + x.aheadOf p.relay

/-- How many pings the endpoint of a side has taken up. -/
def pingsAt (x : Exchange) (side : Side) : Nat :=
  ((x.party? side).map (·.endpoint.pings)).getD 0

/-- How many pings all endpoints have taken up. -/
def pings (x : Exchange) : Nat := (x.sides.map x.pingsAt).sum

/-- What becomes of the relay of a party whose reader has stopped. -/
inductive Party.Proceeds (p q : Party) : Prop
  | rests (h : q.relay = p.relay)
  | resumes {target : Side} {ticket : Nat} (hp : p.relay = .sending target ticket)
    (hq : q.relay = .receiving)
  | receives (hp : p.relay = .receiving)
    (hless : q.endpoint.inbound.length < p.endpoint.inbound.length)
  | ends (hp : p.relay = .receiving) (hq : q.relay = .ended)

/-- What holds of an exchange whose endpoints all have the same settings, in every run. -/
structure Coherent (settings : Settings) (s : Station) : Prop where
  balanced : ∃ arrived, Balanced arrived s.exchange
  orderly : Orderly s.exchange
  lined {side : Side} {p : Party} : s.exchange.party? side = some p → Lined p.endpoint
  timed {side : Side} {p : Party} : s.exchange.party? side = some p → Timed s.now p.endpoint
  settings_eq {side : Side} {p : Party} : s.exchange.party? side = some p →
    p.endpoint.settings = settings

/-- The relay of a side waits for an endpoint that has to write what it is writing before a time. -/
def IsHeld (side : Side) (limit : Nat) (s : Station) : Prop :=
  ∃ p target ticket q, s.exchange.party? side = some p ∧ p.relay = .sending target ticket ∧
    s.exchange.party? target = some q ∧ 0 < q.endpoint.ahead ticket ∧ s.now ≤ limit ∧
    ∀ {deadline}, q.endpoint.writer = .writing deadline → deadline ≤ limit

/-- An exchange that goes on while its clock moves, after the endpoint of a side has ended: of `most`
frames that had to be taken and of the pings since then, some are spent, and no more than a write's
time has passed for each, with one more as long as the relay is held. -/
structure Lingers (settings : Settings) (side : Side) (since most before spent : Nat)
    (s : Station) : Prop where
  stopped {p : Party} : s.exchange.party? side = some p → p.endpoint.reader = .stopped
  spent_le : spent + s.exchange.backlog side + before ≤ most + s.exchange.pings
  timely : s.now ≤ since + spent * settings.writeWait.toNanos ∨
    IsHeld side (since + (spent + 1) * settings.writeWait.toNanos) s

/-- An exchange that goes on after the endpoint of a side has ended: the clock has not moved since,
or it lingers. -/
def Outlives (settings : Settings) (side : Side) (since before : Nat) (s : Station) : Prop :=
  s.now = since ∧ before ≤ s.exchange.pings ∨ ∃ spent, Lingers settings side since
    (s.exchange.sides.length * (settings.inboundCapacity + 1)) before spent s

section

variable {x y : Exchange} {side target : Side} {p q : Party} {now : Nat} {s s' : Station}
  {event : Event} {events : List Event} {settings : Settings} {arrived : Side → List Bytes}
  {since most before spent limit ticket : Nat}

/-! ### Relays -/

/-- A change of one party that leaves its relay, or one of another side, leaves the relay. -/
theorem relay?_of_modify {f : Party → Party} (hparty : y.party? = Parties.modify x.party? target f)
    (h : side = target → ∀ p, (f p).relay = p.relay) : y.relay? side = x.relay? side := by
  rw [relay?, relay?, hparty]
  cases hp : x.party? side with
  | none => simp [Parties.modify, Parties.map, hp]
  | some p =>
    rw [Parties.modify_eq_some hp]
    split_ifs with hside
    · exact congrArg some (h hside p)
    · rfl

@[simp] theorem relay?_setEndpoint (x : Exchange) (target side : Side) (e : Endpoint) :
    (x.setEndpoint target e).relay? side = x.relay? side :=
  relay?_of_modify (party?_setEndpoint x target e) fun _ _ => rfl

@[simp] theorem relay?_onEndpoint (x : Exchange) (target side : Side) (f : Endpoint → Endpoint) :
    (x.onEndpoint target f).relay? side = x.relay? side :=
  relay?_of_modify (party?_onEndpoint x target f) fun _ _ => rfl

@[simp] theorem relay?_receivedBy (x : Exchange) (source side : Side) (frame : Bytes) :
    (x.receivedBy source frame).relay? side = x.relay? side :=
  relay?_of_modify (party?_receivedBy x source frame) fun _ _ => rfl

@[simp] theorem relay?_note (x : Exchange) (line : Option LogEntry) (side : Side) :
    (x.note line).relay? side = x.relay? side := by
  rw [relay?, relay?, party?_note]

/-- A relay in its place leaves the others. -/
theorem relay?_setRelay_of_ne {source : Side} (hne : side ≠ source) (x : Exchange) (r : Relay) :
    (x.setRelay source r).relay? side = x.relay? side :=
  relay?_of_modify (party?_setRelay x source r) fun hsame => absurd hsame hne

/-- The end of a scope leaves the relays. -/
theorem relay?_cancelMembers (x : Exchange) (now : Nat) (members : List Side) (side : Side) :
    (x.cancelMembers now members).relay? side = x.relay? side := by
  have hmembers (y : Exchange) :
      (members.foldl (fun x side => x.onEndpoint side (·.cancel now)) y).relay? side
        = y.relay? side := by
    induction members generalizing y with
    | nil => rfl
    | cons target members ih => rw [List.foldl_cons, ih, relay?_onEndpoint]
  rw [cancelMembers, hmembers]
  cases side <;> rfl

/-- A relay that goes on leaves the others. -/
theorem relay?_relayOn_of_ne {source : Side} (hne : side ≠ source) (h : x.relayOn source = some y) :
    y.relay? side = x.relay? side := by
  have hdeliver (z : Exchange) (d : Delivery) :
      (z.deliver source d).relay? side = z.relay? side := by
    unfold Exchange.deliver
    cases z.party? d.target with
    | none => rfl
    | some q =>
      dsimp only
      split
      · exact relay?_setEndpoint ..
      · rw [relay?_setRelay_of_ne hne, relay?_setEndpoint]
  unfold Exchange.relayOn at h
  cases hp : x.party? source with
  | none => simp [hp] at h
  | some p =>
    simp only [hp] at h
    split at h
    · split at h
      · obtain rfl := Option.some.inj h
        simp [hdeliver]
      · cases h
      · obtain rfl := Option.some.inj h
        simp [relay?_setRelay_of_ne hne]
    · split at h
      · cases h
      · obtain ⟨⟨success, e⟩, -, rfl⟩ := Option.map_eq_some_iff.mp h
        simp [relay?_setRelay_of_ne hne]
    · cases h

/-- While the exchange goes on, a relay changes only by its own move. -/
theorem relay?_after (h : s.after event = some s') (hevent : event ≠ .move (.relay side))
    (hgoing : s'.exchange.isRunning = true) : s'.exchange.relay? side = s.exchange.relay? side := by
  cases event with
  | move m =>
    obtain ⟨y, hy, rfl⟩ := Option.map_eq_some_iff.mp h
    cases m with
    | endpoint target move =>
      simp only [perform] at hy
      split_ifs at hy
      obtain ⟨p, -, hmove⟩ := Option.bind_eq_some_iff.mp hy
      obtain ⟨e, -, rfl⟩ := Option.map_eq_some_iff.mp hmove
      exact relay?_setEndpoint ..
    | relay source =>
      refine relay?_relayOn_of_ne ?_ hy
      rintro rfl
      exact hevent rfl
    | finish =>
      simp only [perform] at hy
      split_ifs at hy
      obtain rfl := Option.some.inj hy
      cases hgoing
    | join source =>
      simp only [perform] at hy
      split_ifs at hy
      obtain ⟨r, -, rfl⟩ := Option.map_eq_some_iff.mp hy
      cases hgoing
  | arrive | setFlow | close | shutDown =>
    obtain rfl := Option.some.inj h
    exact relay?_onEndpoint ..
  | cancel members =>
    simp only [Station.after] at h
    split_ifs at h
    obtain rfl := Option.some.inj h
    exact relay?_cancelMembers ..
  | tick nanos =>
    obtain rfl := Option.some.inj h
    rfl

/-- A frame that is received is no more in the queue. -/
theorem length_of_receive_frame {e e' : Endpoint} {frame : Bytes}
    (h : e.receive = (.frame frame, e')) :
    e'.reader = e.reader ∧ e'.inbound.length < e.inbound.length := by
  unfold Endpoint.receive at h
  split at h
  · next f rest hin =>
    obtain ⟨-, rfl⟩ := Prod.mk.inj h
    exact ⟨rfl, by rw [hin, List.length_cons]; exact Nat.lt_succ_self _⟩
  · split_ifs at h <;> cases (Prod.mk.inj h).1

/-- What becomes of a relay by its own move. -/
theorem Party.Proceeds.of_relayOn (h : x.relayOn side = some y) (hp : x.party? side = some p)
    (hstopped : p.endpoint.reader = .stopped) (hq : y.party? side = some q) : p.Proceeds q := by
  unfold Exchange.relayOn at h
  simp only [hp] at h
  split at h
  · next hr =>
    split at h
    · next frame e heq =>
      obtain rfl := Option.some.inj h
      obtain ⟨hreader, hless⟩ := length_of_receive_frame heq
      have hparty := Parties.modify_eq_some (Parties.modify_eq_some hp side
        fun p => { p with endpoint := e }) side fun p => { p with relayed := p.relayed ++ [frame] }
      rw [if_pos rfl, if_pos rfl, ← party?_setEndpoint, ← party?_receivedBy,
        ← party?_note _ (x.forFrame side frame).2] at hparty
      have hactive : p.relay.IsActive := by
        rw [hr]
        trivial
      have hevolves : Evolves False 0 0 silence _ _ :=
        .deliver hparty hactive (x.forFrame side frame).1
      obtain ⟨p', hp', hlasts, -⟩ := hevolves.party hq
      obtain rfl := Parties.party_eq hparty hp' rfl
      have hleft := hlasts.endpoint _ (isStable_left e.inbound.length)
        ⟨hreader.trans hstopped, Nat.le_refl _⟩
      exact .receives hr (hleft.2.trans_lt hless)
    · cases h
    · next e heq =>
      obtain rfl := Option.some.inj h
      rw [party?_setRelay] at hq
      obtain ⟨p', -, rfl⟩ := Parties.map_eq_some.mp hq
      exact .ends hr (by rw [if_pos rfl])
  · next target ticket hr =>
    split at h
    · cases h
    · obtain ⟨⟨success, e⟩, -, rfl⟩ := Option.map_eq_some_iff.mp h
      rw [party?_setRelay] at hq
      obtain ⟨p', -, rfl⟩ := Parties.map_eq_some.mp hq
      exact .resumes hr (by rw [if_pos rfl])
  · cases h

/-- While an exchange goes on, every party comes from the one that was there. -/
theorem Station.exists_outlasts (h : s.after event = some s')
    (hgoing : s'.exchange.isRunning = true) (hp : s.exchange.party? side = some p) :
    ∃ q, s'.exchange.party? side = some q ∧
      Endpoint.Outlasts s.now s'.now p.endpoint q.endpoint := by
  rcases Station.evolves_or_finishes h with hevolves | ⟨-, r, rfl, -⟩
  · have hsome : (s'.exchange.party? side).isSome = true := by
      rw [hevolves.present, hp]
      rfl
    obtain ⟨q, hq⟩ := Option.isSome_iff_exists.mp hsome
    obtain ⟨p', hp', hlasts, -⟩ := hevolves.party hq
    obtain rfl := Parties.party_eq hp hp' rfl
    exact ⟨q, hq, hlasts.endpoint⟩
  · cases hgoing

/-- What becomes of a relay while the exchange goes on. -/
theorem Party.Proceeds.of_after (h : s.after event = some s')
    (hgoing : s'.exchange.isRunning = true) (hp : s.exchange.party? side = some p)
    (hstopped : p.endpoint.reader = .stopped) (hq : s'.exchange.party? side = some q) :
    p.Proceeds q := by
  by_cases hevent : event = .move (.relay side)
  · subst hevent
    obtain ⟨y, hy, rfl⟩ := Option.map_eq_some_iff.mp h
    exact .of_relayOn hy hp hstopped hq
  · have hsame := relay?_after h hevent hgoing
    rw [relay?, relay?, hp, hq] at hsame
    exact .rests (Option.some.inj hsame)

/-! ### Coherence -/

/-- The settings are stable. -/
theorem isStable_settings (settings : Settings) :
    Endpoint.IsStable fun _ e => e.settings = settings where
  act h hs := (Follows.act h).settings.trans hs
  arrive _ := id
  setFlow _ := id
  later _ := id

/-- A new exchange is coherent. -/
theorem Coherent.start (hroom : Endpoint.hasRoom settings = true) (born now : Nat)
    {labels : List String} (hn : labels.Nodup) :
    Coherent settings ⟨now, Exchange.start settings born labels⟩ := by
  have hnew : IsNew (Exchange.start settings born labels) := isNew_start hroom born hn
  have htaken : Act now (Endpoint.start settings born)
      (Endpoint.start settings born).takeInbound.2 := .takeInbound
  refine ⟨⟨_, hnew.balanced⟩, hnew.orderly rfl, ?_, ?_, ?_⟩
  · intro side p hp
    rw [eq_start_of_party? hp]
    exact isStable_lined.act htaken (.start settings born)
  · intro side p hp
    rw [eq_start_of_party? hp]
    exact isStable_timed.act htaken (.start settings born now)
  · intro side p hp
    rw [eq_start_of_party? hp]
    rfl

/-- Every event leaves an exchange coherent. -/
theorem Coherent.after (hc : Coherent settings s) (h : s.after event = some s') :
    Coherent settings s' := by
  obtain ⟨arrived, hbalanced⟩ := hc.balanced
  refine ⟨⟨_, hbalanced.after h⟩, hc.orderly.after hbalanced h, ?_, ?_, ?_⟩
  · intro side q hq
    obtain ⟨p, hp, hlasts⟩ := Station.outlasts h hq
    exact hlasts.endpoint _ isStable_lined (hc.lined hp)
  · intro side q hq
    obtain ⟨p, hp, hlasts⟩ := Station.outlasts h hq
    exact hlasts.endpoint _ isStable_timed (hc.timed hp)
  · intro side q hq
    obtain ⟨p, hp, hlasts⟩ := Station.outlasts h hq
    exact hlasts.endpoint _ (isStable_settings settings) (hc.settings_eq hp)

/-- Every run does. -/
theorem Coherent.run : ∀ {s s' : Station}, Coherent settings s → s.run events = some s' →
    Coherent settings s' := by
  induction events with
  | nil =>
    intro s s' hc hrun
    obtain rfl := Option.some.inj hrun
    exact hc
  | cons event events ih =>
    intro s s' hc hrun
    obtain ⟨t, ht, hrest⟩ := Option.bind_eq_some_iff.mp hrun
    exact ih (hc.after ht) hrest

/-- The sides stay what they are. -/
theorem Coherent.sides_eq (hc : Coherent settings s) (h : s.after event = some s') :
    s'.exchange.sides = s.exchange.sides := by
  obtain ⟨arrived, hbalanced⟩ := hc.balanced
  rw [sides, sides, (Station.after_eq hbalanced h).1]

/-- What a relay waits to send was sent before. -/
theorem Coherent.exists_target (hc : Coherent settings s) (hp : s.exchange.party? side = some p)
    (hr : p.relay = .sending target ticket) :
    ∃ q, s.exchange.party? target = some q ∧ ticket < q.endpoint.tickets := by
  obtain ⟨arrived, owner, ha⟩ := hc.balanced.imp fun _ h => h.accounts
  obtain ⟨q, hq, w, hw, rfl, -⟩ := ha.sending hp hr
  exact ⟨q, hq, (hc.lined hq).ledger.ticketed.fresh w (List.mem_append_right _ hw)⟩

/-- No more sends wait for an endpoint than there are sides, since each relay waits for one. -/
theorem Coherent.length_waiting_le (hc : Coherent settings s)
    (hq : s.exchange.party? target = some q) :
    q.endpoint.waiting.length ≤ s.exchange.sides.length := by
  obtain ⟨arrived, owner, ha⟩ := hc.balanced.imp fun _ h => h.accounts
  have hdistinct : (q.endpoint.waiting.map (·.ticket)).Nodup := by
    have hall := (hc.lined hq).ledger.ticketed.distinct
    rw [List.map_append, List.nodup_append] at hall
    exact hall.2.1
  have howned {ticket : Nat} (hticket : ticket ∈ q.endpoint.waiting.map (·.ticket)) :
      ∃ p, s.exchange.party? (owner target ticket) = some p ∧ p.relay = .sending target ticket := by
    obtain ⟨w, hw, rfl⟩ := List.mem_map.mp hticket
    exact ha.owned hq w hw
  have howners : ((q.endpoint.waiting.map (·.ticket)).map (owner target)).Nodup := by
    refine hdistinct.map_on ?_
    intro first hfirst second hsecond hsame
    obtain ⟨p, hp, hr⟩ := howned hfirst
    obtain ⟨p', hp', hr'⟩ := howned hsecond
    obtain rfl := Parties.party_eq hp hp' hsame.symm
    exact (Relay.sending.inj (hr.symm.trans hr')).2
  have hsides : (q.endpoint.waiting.map (·.ticket)).map (owner target) ⊆ s.exchange.sides := by
    intro side hside
    obtain ⟨ticket, hticket, rfl⟩ := List.mem_map.mp hside
    obtain ⟨p, hp, -⟩ := howned hticket
    exact mem_sides hp
  simpa using (howners.subperm hsides).length_le

/-! ### The backlog -/

/-- The backlog of a party. -/
theorem backlog_eq (hp : x.party? side = some p) :
    x.backlog side = x.sides.length * p.endpoint.inbound.length + x.aheadOf p.relay := by
  rw [backlog, hp]

/-- What is ahead of a send that waits. -/
theorem aheadOf_sending (hq : x.party? target = some q) :
    x.aheadOf (.sending target ticket) = q.endpoint.ahead ticket := by
  rw [aheadOf, hq]
  rfl

/-- No more is ahead of a relay than there are sides. -/
theorem Coherent.aheadOf_le (hc : Coherent settings s) (r : Relay) :
    s.exchange.aheadOf r ≤ s.exchange.sides.length := by
  cases r with
  | sending target ticket =>
    cases hq : s.exchange.party? target with
    | none => simp [aheadOf, hq]
    | some q =>
      rw [aheadOf_sending hq]
      exact (ahead_le_length q.endpoint ticket).trans (hc.length_waiting_le hq)
  | _ => exact Nat.zero_le _

/-- The backlog is bounded by what an inbound queue holds, and one frame more. -/
theorem Coherent.backlog_le (hc : Coherent settings s) (side : Side) :
    s.exchange.backlog side ≤ s.exchange.sides.length * (settings.inboundCapacity + 1) := by
  cases hp : s.exchange.party? side with
  | none => simp [backlog, hp]
  | some p =>
    have hfits := (hc.lined hp).fits.inbound
    rw [hc.settings_eq hp] at hfits
    rw [backlog_eq hp, Nat.mul_add, Nat.mul_one]
    exact Nat.add_le_add (Nat.mul_le_mul_left _ hfits) (hc.aheadOf_le p.relay)

/-- Nothing puts more frames ahead of a relay that waits. -/
theorem Coherent.aheadOf_after (hc : Coherent settings s) (h : s.after event = some s')
    (hgoing : s'.exchange.isRunning = true) (hp : s.exchange.party? side = some p) :
    s'.exchange.aheadOf p.relay ≤ s.exchange.aheadOf p.relay := by
  cases hr : p.relay with
  | sending target ticket =>
    obtain ⟨q, hq, hticket⟩ := hc.exists_target hp hr
    obtain ⟨q', hq', hlasts⟩ := Station.exists_outlasts h hgoing hq
    rw [aheadOf_sending hq, aheadOf_sending hq']
    exact (hlasts.advances (hc.lined hq) hticket).ahead
  | _ => exact Nat.le_refl _

/-- The backlog of a side whose reader has stopped does not grow. -/
theorem backlog_after (hc : Coherent settings s) (h : s.after event = some s')
    (hgoing : s'.exchange.isRunning = true) (hp : s.exchange.party? side = some p)
    (hstopped : p.endpoint.reader = .stopped) :
    s'.exchange.backlog side ≤ s.exchange.backlog side := by
  obtain ⟨q, hq, hlasts⟩ := Station.exists_outlasts h hgoing hp
  obtain ⟨-, hleft⟩ := hlasts _ (isStable_left p.endpoint.inbound.length) ⟨hstopped, Nat.le_refl _⟩
  have hqueue : s.exchange.sides.length * q.endpoint.inbound.length
      ≤ s.exchange.sides.length * p.endpoint.inbound.length := Nat.mul_le_mul_left _ hleft
  rw [backlog_eq hp, backlog_eq hq, hc.sides_eq h]
  cases Party.Proceeds.of_after h hgoing hp hstopped hq with
  | rests hr =>
    rw [hr]
    exact Nat.add_le_add hqueue (hc.aheadOf_after h hgoing hp)
  | resumes _ hr | ends _ hr =>
    rw [hr]
    exact hqueue.trans (Nat.le_add_right _ _)
  | receives _ hless =>
    have hahead : s'.exchange.aheadOf q.relay ≤ s.exchange.sides.length :=
      hc.sides_eq h ▸ (hc.after h).aheadOf_le q.relay
    calc s.exchange.sides.length * q.endpoint.inbound.length + s'.exchange.aheadOf q.relay
        ≤ s.exchange.sides.length * (q.endpoint.inbound.length + 1) := by
          rw [Nat.mul_add, Nat.mul_one]
          exact Nat.add_le_add_left hahead _
      _ ≤ s.exchange.sides.length * p.endpoint.inbound.length := Nat.mul_le_mul_left _ hless
      _ ≤ _ := Nat.le_add_right _ _

/-! ### Pings -/

/-- The pings of a party. -/
theorem pingsAt_eq (hp : x.party? side = some p) : x.pingsAt side = p.endpoint.pings := by
  rw [pingsAt, hp]
  rfl

/-- No ping that was taken up is taken back. -/
theorem pingsAt_after (h : s.after event = some s') (hgoing : s'.exchange.isRunning = true)
    (side : Side) : s.exchange.pingsAt side ≤ s'.exchange.pingsAt side := by
  cases hp : s.exchange.party? side with
  | none => simp [pingsAt, hp]
  | some p =>
    obtain ⟨q, hq, hlasts⟩ := Station.exists_outlasts h hgoing hp
    rw [pingsAt_eq hp, pingsAt_eq hq]
    exact hlasts _ (isStable_pings p.endpoint.pings) (Nat.le_refl _)

/-- All pings together become no fewer. -/
theorem Coherent.pings_after (hc : Coherent settings s) (h : s.after event = some s')
    (hgoing : s'.exchange.isRunning = true) : s.exchange.pings ≤ s'.exchange.pings := by
  rw [pings, pings, hc.sides_eq h]
  exact List.sum_le_sum fun side _ => pingsAt_after h hgoing side

/-- They become more when a ping is taken up. -/
theorem Coherent.pings_lt (hc : Coherent settings s) (h : s.after event = some s')
    (hgoing : s'.exchange.isRunning = true) (hp : s.exchange.party? side = some p)
    (hq : s'.exchange.party? side = some q) (hless : p.endpoint.pings < q.endpoint.pings) :
    s.exchange.pings < s'.exchange.pings := by
  rw [pings, pings, hc.sides_eq h]
  refine List.sum_lt_sum _ _ (fun side _ => pingsAt_after h hgoing side) ⟨side, mem_sides hp, ?_⟩
  rwa [pingsAt_eq hp, pingsAt_eq hq]

/-! ### The clock -/

/-- The deadline of a write is among the times at which something is due. -/
theorem nextDue_le {deadline : Nat} (hq : x.party? side = some q)
    (hw : q.endpoint.writer = .writing deadline) (hn : now < deadline) :
    ∃ due ≤ deadline, x.nextDue now = some due := by
  obtain ⟨due, hle, hdue⟩ := Endpoint.nextDue_le (e := q.endpoint) (by rw [hw]; rfl) hn
  have hmem : q.endpoint ∈ x.client.endpoint :: x.channels.map (·.2.endpoint) := by
    cases side with
    | client =>
      obtain rfl := Option.some.inj hq
      exact List.mem_cons_self
    | channel label =>
      obtain ⟨c, hc, rfl⟩ := Option.map_eq_some_iff.mp hq
      exact List.mem_cons_of_mem _ (List.mem_map_of_mem (List.mem_of_find?_eq_some hc))
  have hdues : due ∈ (x.client.endpoint :: x.channels.map (·.2.endpoint)).filterMap
      (·.nextDue now) := List.mem_filterMap.mpr ⟨q.endpoint, hmem, hdue⟩
  obtain ⟨first, hfirst⟩ := Option.isSome_iff_exists.mp (List.isSome_min?_of_mem hdues)
  exact ⟨first, ((List.min?_eq_some_iff.mp hfirst).2 due hdues).trans hle, hfirst⟩

/-- On a timely clock time passes only in settled states, up to the next time at which something is
due. -/
theorem Station.settled_of_isTimely {nanos : Nat} (h : s.isTimely (.tick nanos :: events) = true) :
    Settled s.now s.exchange ∧
      ∀ {due}, s.exchange.nextDue s.now = some due → s.now + nanos ≤ due := by
  obtain ⟨htick, -⟩ := Bool.and_eq_true_iff.mp h
  obtain ⟨hsettled, hnext⟩ := Bool.and_eq_true_iff.mp htick
  refine ⟨of_decide_eq_true hsettled, fun hdue => ?_⟩
  rw [hdue, Option.all_some] at hnext
  exact of_decide_eq_true hnext

/-- What is left of a timely run is timely. -/
theorem Station.isTimely_of_cons (h : s.isTimely (event :: events) = true)
    (hs : s.after event = some s') : s'.isTimely events = true := by
  obtain ⟨-, hrest⟩ := Bool.and_eq_true_iff.mp h
  rwa [hs, Option.all_some] at hrest

/-- Where the exchange goes on in a settled state, the relay of an endpoint that has ended waits for
one that has to write before a time that is still to come, and by the time up to which it is held if
there is one. -/
theorem Coherent.exists_deadline (hc : Coherent settings s) (hsettled : Settled s.now s.exchange)
    (hgoing : s.exchange.isRunning = true) (hp : s.exchange.party? side = some p)
    (hd : p.endpoint.isDone = true) :
    ∃ target ticket q deadline, p.relay = .sending target ticket ∧
      s.exchange.party? target = some q ∧ 0 < q.endpoint.ahead ticket ∧
      q.endpoint.writer = .writing deadline ∧ s.now < deadline ∧
      deadline ≤ s.now + settings.writeWait.toNanos := by
  obtain ⟨arrived, owner, ha⟩ := hc.balanced.imp fun _ h => h.accounts
  obtain ⟨target, ticket, q, began, hr, hq, ⟨w, hw, rfl⟩, -, hroom, hsuspended⟩ :=
    hsettled.exists_isSuspended ha hc.orderly hc.timed hgoing hp hd
  refine ⟨target, w.ticket, q, _, hr, hq, ahead_pos hw hroom, hsuspended.writer_eq,
    hsuspended.now_lt, ?_⟩
  rw [writeWait, hc.settings_eq hq]
  exact Nat.add_le_add_right hsuspended.began_le _

/-- An exchange that lingers at a settled state is held. -/
theorem Lingers.exists_deadline (h : Lingers settings side since most before spent s)
    (hc : Coherent settings s) (hsettled : Settled s.now s.exchange)
    (hgoing : s.exchange.isRunning = true) (hp : s.exchange.party? side = some p)
    (hd : p.endpoint.isDone = true) :
    ∃ target ticket q deadline, p.relay = .sending target ticket ∧
      s.exchange.party? target = some q ∧ 0 < q.endpoint.ahead ticket ∧
      q.endpoint.writer = .writing deadline ∧ s.now < deadline ∧
      deadline ≤ since + (spent + 1) * settings.writeWait.toNanos := by
  obtain ⟨target, ticket, q, deadline, hr, hq, hpos, hw, hlt, hle⟩ :=
    hc.exists_deadline hsettled hgoing hp hd
  refine ⟨target, ticket, q, deadline, hr, hq, hpos, hw, hlt, ?_⟩
  rcases h.timely with hnow | ⟨p', target', ticket', q', hp', hr', hq', -, -, hdeadline⟩
  · rw [Nat.add_mul, Nat.one_mul]
    omega
  · obtain rfl := Parties.party_eq hp hp' rfl
    obtain ⟨rfl, rfl⟩ := Relay.sending.inj (hr.symm.trans hr')
    obtain rfl := Parties.party_eq hq hq' rfl
    exact hdeadline hw

/-- When time passes, an exchange that lingers is held. -/
theorem Lingers.tick {nanos : Nat} (h : Lingers settings side since most before spent s)
    (hc : Coherent settings s) (htimely : s.isTimely (.tick nanos :: events) = true)
    (hgoing : s.exchange.isRunning = true) (hp : s.exchange.party? side = some p)
    (hd : p.endpoint.isDone = true) :
    Lingers settings side since most before spent ⟨s.now + nanos, s.exchange⟩ := by
  obtain ⟨hsettled, hnext⟩ := Station.settled_of_isTimely htimely
  obtain ⟨target, ticket, q, deadline, hr, hq, hpos, hw, hlt, hle⟩ :=
    h.exists_deadline hc hsettled hgoing hp hd
  obtain ⟨due, hdue, hfirst⟩ := nextDue_le hq hw hlt
  refine ⟨h.stopped, h.spent_le, Or.inr ⟨p, target, ticket, q, hp, hr, hq, hpos, ?_, ?_⟩⟩
  · exact ((hnext hfirst).trans hdue).trans hle
  · intro d hd
    obtain rfl := Writer.writing.inj (hw.symm.trans hd)
    exact hle

/-- When something happens, a relay that is held stays so, unless a part of the backlog or a ping is
spent. -/
theorem IsHeld.after (h : IsHeld side limit s) (hc : Coherent settings s)
    (hs : s.after event = some s') (hnow : s'.now = s.now) (hgoing : s'.exchange.isRunning = true)
    (hp : s.exchange.party? side = some p) (hstopped : p.endpoint.reader = .stopped)
    (hbacklog : s'.exchange.backlog side = s.exchange.backlog side)
    (hpings : s'.exchange.pings = s.exchange.pings) : IsHeld side limit s' := by
  obtain ⟨p', target, ticket, t, hp', hr, ht, hpos, hlimit, hdeadline⟩ := h
  obtain rfl := Parties.party_eq hp hp' rfl
  obtain ⟨q, hq, hlasts⟩ := Station.exists_outlasts hs hgoing hp
  obtain ⟨-, hleft⟩ := hlasts _ (isStable_left p'.endpoint.inbound.length) ⟨hstopped, Nat.le_refl _⟩
  have hqueue : s.exchange.sides.length * q.endpoint.inbound.length
      ≤ s.exchange.sides.length * p'.endpoint.inbound.length := Nat.mul_le_mul_left _ hleft
  rw [backlog_eq hp, backlog_eq hq, hc.sides_eq hs, hr, aheadOf_sending ht] at hbacklog
  cases Party.Proceeds.of_after hs hgoing hp hstopped hq with
  | rests hrest =>
    obtain ⟨t₁, ht₁, hticket⟩ := hc.exists_target hp hr
    obtain rfl := Parties.party_eq ht ht₁ rfl
    obtain ⟨t', ht', hlasts'⟩ := Station.exists_outlasts hs hgoing ht
    have hadvances := hlasts'.advances (hc.lined ht) hticket
    have hahead : t'.endpoint.ahead ticket = t₁.endpoint.ahead ticket := by
      have hle := hadvances.ahead
      rw [hrest, hr, aheadOf_sending ht'] at hbacklog
      omega
    have hsame : t'.endpoint.pings = t₁.endpoint.pings := by
      by_contra hne
      have hless := hc.pings_lt hs hgoing ht ht' (lt_of_le_of_ne hadvances.pings (Ne.symm hne))
      omega
    exact ⟨q, target, ticket, t', hq, hrest.trans hr, ht', hahead ▸ hpos, hnow ▸ hlimit,
      fun hw => hdeadline (hadvances.writing hpos hahead hsame hw)⟩
  | resumes _ hrest =>
    have hnone : s'.exchange.aheadOf .receiving = 0 := rfl
    rw [hrest, hnone] at hbacklog
    omega
  | receives hreceiving | ends hreceiving => cases hr.symm.trans hreceiving

/-- When something happens, an exchange that lingers spends a part of its backlog or a ping, or it
is held as before. -/
theorem Lingers.after (h : Lingers settings side since most before spent s)
    (hc : Coherent settings s) (hs : s.after event = some s') (hnow : s'.now = s.now)
    (hgoing : s'.exchange.isRunning = true) (hp : s.exchange.party? side = some p) :
    ∃ spent', Lingers settings side since most before spent' s' := by
  have hstopped := h.stopped hp
  have hstays {q : Party} (hq : s'.exchange.party? side = some q) :
      q.endpoint.reader = .stopped := by
    obtain ⟨q', hq', hlasts⟩ := Station.exists_outlasts hs hgoing hp
    obtain rfl := Parties.party_eq hq' hq rfl
    exact (hlasts _ (isStable_left p.endpoint.inbound.length) ⟨hstopped, Nat.le_refl _⟩).1
  have hspent := h.spent_le
  have hbacklog := backlog_after hc hs hgoing hp hstopped
  have hpings := hc.pings_after hs hgoing
  rcases h.timely with hlimit | hheld
  · exact ⟨spent, hstays, by omega, Or.inl (hnow ▸ hlimit)⟩
  · by_cases hmoved : s'.exchange.backlog side < s.exchange.backlog side ∨
        s.exchange.pings < s'.exchange.pings
    · obtain ⟨-, -, -, -, -, -, -, -, hlimit, -⟩ := hheld
      exact ⟨spent + 1, hstays, by omega, Or.inl (hnow ▸ hlimit)⟩
    · exact ⟨spent, hstays, by omega,
        Or.inr (hheld.after hc hs hnow hgoing hp hstopped (by omega) (by omega))⟩

/-! ### Runs -/

/-- Only the clock takes time. -/
theorem Station.now_eq_of_after (h : s.after event = some s')
    (hevent : ∀ nanos, event ≠ .tick nanos) : s'.now = s.now := by
  cases event with
  | move m =>
    obtain ⟨y, -, rfl⟩ := Option.map_eq_some_iff.mp h
    rfl
  | arrive | setFlow | close | shutDown =>
    obtain rfl := Option.some.inj h
    rfl
  | cancel members =>
    simp only [Station.after] at h
    split_ifs at h
    obtain rfl := Option.some.inj h
    rfl
  | tick nanos => exact absurd rfl (hevent nanos)

/-- When nothing can move, an exchange that outlives an endpoint lingers. -/
theorem Outlives.exists_lingers (h : Outlives settings side since before s)
    (hc : Coherent settings s) (hsettled : Settled s.now s.exchange)
    (hp : s.exchange.party? side = some p) (hd : p.endpoint.isDone = true) :
    ∃ spent, Lingers settings side since
      (s.exchange.sides.length * (settings.inboundCapacity + 1)) before spent s := by
  rcases h with ⟨hnow, hpings⟩ | hlingers
  · have hbacklog := hc.backlog_le side
    refine ⟨0, fun hp' => ?_, by omega, Or.inl (by omega)⟩
    obtain rfl := Parties.party_eq hp hp' rfl
    exact reader_eq_stopped hd (hsettled.endpoint hp rfl)
  · exact hlingers

/-- Every event of a timely run leaves an exchange that outlives an endpoint so. -/
theorem Outlives.after (h : Outlives settings side since before s) (hc : Coherent settings s)
    (hs : s.after event = some s') (htimely : s.isTimely (event :: events) = true)
    (hgoing : s'.exchange.isRunning = true) (hp : s.exchange.party? side = some p)
    (hd : p.endpoint.isDone = true) : Outlives settings side since before s' := by
  by_cases hevent : ∃ nanos, event = .tick nanos
  · obtain ⟨nanos, rfl⟩ := hevent
    obtain rfl := Option.some.inj hs
    have hsettled := (Station.settled_of_isTimely htimely).1
    obtain ⟨spent, hlingers⟩ := h.exists_lingers hc hsettled hp hd
    exact Or.inr ⟨spent, hlingers.tick hc htimely hgoing hp hd⟩
  · have hnow := Station.now_eq_of_after hs fun nanos heq => hevent ⟨nanos, heq⟩
    rcases h with ⟨hsame, hpings⟩ | ⟨spent, hlingers⟩
    · exact Or.inl ⟨hnow.trans hsame, hpings.trans (hc.pings_after hs hgoing)⟩
    · rw [Outlives, hc.sides_eq hs]
      exact Or.inr (hlingers.after hc hs hnow hgoing hp)

/-- So does every timely run. -/
theorem Outlives.run (h : Outlives settings side since before s) (hc : Coherent settings s)
    (hrun : s.run events = some s') (htimely : s.isTimely events = true)
    (hgoing : s'.exchange.isRunning = true) (hp : s.exchange.party? side = some p)
    (hd : p.endpoint.isDone = true) :
    Outlives settings side since before s' ∧
      ∃ q, s'.exchange.party? side = some q ∧ q.endpoint.isDone = true := by
  induction events generalizing s p with
  | nil =>
    obtain rfl := Option.some.inj hrun
    exact ⟨h, p, hp, hd⟩
  | cons event events ih =>
    obtain ⟨t, ht, hrest⟩ := Option.bind_eq_some_iff.mp hrun
    have hgoing' : t.exchange.isRunning = true := by
      by_contra hover
      have hended := Station.isRunning_run hrest (Bool.of_not_eq_true hover)
      cases hended.symm.trans hgoing
    obtain ⟨q, hq, hlasts⟩ := Station.exists_outlasts ht hgoing' hp
    exact ih (h.after hc ht htimely hgoing' hp hd) (hc.after ht) hrest
      (Station.isTimely_of_cons htimely ht) hq (hlasts _ isStable_isDone hd)

/-- An exchange that outlives an endpoint has no more time than its backlog and pings give it. -/
theorem Outlives.now_lt (h : Outlives settings side since before s) (hc : Coherent settings s)
    (hsettled : Settled s.now s.exchange) (hgoing : s.exchange.isRunning = true)
    (hp : s.exchange.party? side = some p) (hd : p.endpoint.isDone = true) :
    s.now < since + (s.exchange.sides.length * (settings.inboundCapacity + 1)
      + (s.exchange.pings - before) + 1) * settings.writeWait.toNanos := by
  obtain ⟨spent, hlingers⟩ := h.exists_lingers hc hsettled hp hd
  obtain ⟨-, -, -, deadline, -, -, -, -, hlt, hle⟩ :=
    hlingers.exists_deadline hc hsettled hgoing hp hd
  have hspent := hlingers.spent_le
  calc s.now < deadline := hlt
    _ ≤ since + (spent + 1) * settings.writeWait.toNanos := hle
    _ ≤ _ := Nat.add_le_add_left (Nat.mul_le_mul_right _ (by omega)) _

/-- In every run of an exchange between new endpoints whose clock, since some endpoint has ended,
stops wherever something is due: in a settled state the exchange has ended, and well, when a write's
time has passed for each of these. The frames that the relay of that endpoint can have left, as many
as its inbound queue holds and one more, count once for each side; then come the pings that were
taken up since, and the write in hand. -/
theorem ended_of_late (hroom : Endpoint.hasRoom settings = true) {labels : List String}
    (hn : labels.Nodup) {born now : Nat} {events later : List Event} {r s : Station}
    (hr : Station.run ⟨now, Exchange.start settings born labels⟩ events = some r)
    (hdone : SomeDone r.exchange.party?) (hs : r.run later = some s)
    (htimely : r.isTimely later = true) (hsettled : Settled s.now s.exchange)
    (hlate : r.now + ((labels.length + 1) * (settings.inboundCapacity + 1)
      + (s.exchange.pings - r.exchange.pings) + 1) * settings.writeWait.toNanos ≤ s.now) :
    s.exchange.isRunning = false ∧ s.exchange.result = some (.ok ()) := by
  have hcr : Coherent settings r := (Coherent.start hroom born now hn).run hr
  have hcs : Coherent settings s := hcr.run hs
  have hsides : s.exchange.sides.length = labels.length + 1 := by
    have hrun : Station.run ⟨now, Exchange.start settings born labels⟩ (events ++ later)
        = some s := by
      rw [Station.run_append, hr]
      exact hs
    obtain ⟨-, hlabels, -⟩ := (isNew_start hroom born hn).balanced.run hrun
    rw [sides, hlabels]
    simp [Exchange.labels, Exchange.start]
  have hover : s.exchange.isRunning = false := by
    by_contra hgoing
    have hgoing := Bool.of_not_eq_false hgoing
    obtain ⟨side, p, hp, hd⟩ := hdone
    have hbegin : Outlives settings side r.now r.exchange.pings r := Or.inl ⟨rfl, Nat.le_refl _⟩
    obtain ⟨houtlives, q, hq, hd'⟩ := hbegin.run hcr hs htimely hgoing hp hd
    have hnow := houtlives.now_lt hcs hsettled hgoing hq hd'
    rw [hsides] at hnow
    omega
  refine ⟨hover, ?_⟩
  cases hresult : s.exchange.result with
  | none => simp [hcs.orderly.isRunning_iff.mpr hresult] at hover
  | some result => rw [(hcs.orderly.result_eq hresult).1]

end

end Switchboard.Exchange
