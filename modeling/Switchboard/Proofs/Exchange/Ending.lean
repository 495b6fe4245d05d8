import Switchboard.Proofs.Endpoint.Capacity
import Switchboard.Proofs.Exchange.Delivery
import Switchboard.Proofs.Exchange.Evolution
/-!
# When an exchange ends

An exchange goes on as long as its scope and all its endpoints do, whatever arrives
(`isRunning_of_not_someDone`), and it ends well. When an endpoint has ended, its relay still sends
what it has received before. So the exchange is held up as long as another endpoint has no room
because its socket suspends a write, and by nothing else (`exists_suspended`). One write is held up
for less than a write's time, but writes may follow each other, so that the exchange can outlive an
endpoint by more than that (`isRunning_twoChannels`). How much more depends on what the relay has
left and on the pings that come in between, and is bounded by them (`ended_of_late`).
-/

namespace Switchboard

namespace Endpoint

/-- A write that the socket suspends, and that began less than one write's time ago. -/
structure IsSuspended (now began : Nat) (e : Endpoint) : Prop where
  flow_eq : e.flow = .blocked
  writer_eq : e.writer = .writing (began + e.writeWait)
  began_le : began ≤ now
  now_lt : now < began + e.writeWait

section

variable {e : Endpoint} {now : Nat}

/-- A settled writer that has frames to write is held up by its socket. -/
theorem exists_isSuspended (hl : Ledger e) (ht : Timed now e) (hc : e.isClosed = false)
    (ho : e.outbound ≠ []) (hs : ∀ m, Exchange.isRelayed m = false → e.perform now m = none) :
    ∃ began, IsSuspended now began e := by
  cases hw : e.writer with
  | idle =>
    obtain ⟨f, rest, hrest⟩ := List.exists_cons_of_ne_nil ho
    have hnone := hs .take rfl
    simp [Endpoint.perform, hw, hrest] at hnone
  | leaving code stage deadline => simp [isClosed, hw] at hc
  | stopped => simp [isClosed, hw] at hc
  | writing deadline =>
    obtain ⟨m, hslot⟩ := Option.ne_none_iff_exists'.mp (hl.outgoing.slot_of_writing deadline hw)
    obtain ⟨began, hbegan, rfl⟩ := ht deadline hw
    have hwrite : e.goOn now = none := hs .write rfl
    have hblocked : e.flow = .blocked := by
      cases hf : e.flow with
      | blocked => rfl
      | «open» => simp [goOn, hw, writeOn, hslot, hf] at hwrite
      | failing => simp [goOn, hw, writeOn, hslot, hf] at hwrite
    refine ⟨began, hblocked, hw, hbegan, ?_⟩
    by_contra hlate
    have hexpire := hs .expireWrite rfl
    simp [Endpoint.perform, hw, hwrite, Nat.le_of_not_lt hlate] at hexpire

end

end Endpoint

namespace Exchange

open Endpoint

section

variable {arrived : Side → List Bytes} {x : Exchange} {now : Nat} {side target : Side} {p q : Party}
  {give : Side → Bytes → Delivery} {closed : Prop} {owner : Side → Nat → Side}

/-! ### Settled states -/

/-- In a settled state a send waits only while its target is open and has no room. -/
theorem Settled.room_eq (h : Settled now x)
    (ha : Accounts give arrived closed x.party? owner settledUp) (hq : x.party? target = some q)
    (hw : q.endpoint.waiting ≠ []) : IsOpen q.endpoint ∧ q.endpoint.room = 0 := by
  obtain ⟨w, rest, hwaiting⟩ := List.exists_cons_of_ne_nil hw
  obtain ⟨p, hp, hr⟩ := ha.owned hq w (by simp [hwaiting])
  have hresume : q.endpoint.resumeSend w.ticket = none := by
    have hnone := h (.relay (owner target w.ticket))
    simpa [Exchange.perform, relayOn, hp, hr, hq] using hnone
  rw [resumeSend, place?_head hwaiting] at hresume
  simp only [Bool.or_eq_true] at hresume
  split_ifs at hresume with hclosed hroom
  simp only [not_or, Bool.not_eq_true] at hclosed
  exact ⟨⟨hclosed.1, hclosed.2⟩, by omega⟩

/-- In a settled state the relay of an endpoint that has ended does not receive. -/
theorem Settled.relay_ne (h : Settled now x) (hp : x.party? side = some p)
    (hd : p.endpoint.isDone = true) : p.relay ≠ .receiving := by
  intro hr
  have hreader := reader_eq_stopped hd (h.endpoint hp (m := .stopReading) rfl)
  have hnone := h (.relay side)
  cases hin : p.endpoint.inbound with
  | nil => simp [Exchange.perform, relayOn, hp, hr, Endpoint.receive, hin, hreader] at hnone
  | cons f rest => simp [Exchange.perform, relayOn, hp, hr, Endpoint.receive, hin] at hnone

/-- In a settled state in which an exchange goes on, the relay of an endpoint that has ended waits
to send. -/
theorem Settled.exists_sending (h : Settled now x)
    (ha : Accounts give arrived closed x.party? owner settledUp) (ho : Orderly x)
    (hrun : x.isRunning = true) (hp : x.party? side = some p) (hd : p.endpoint.isDone = true) :
    ∃ target ticket, p.relay = .sending target ticket := by
  have hintact := (ha.sound hp).intact
  cases hr : p.relay with
  | sending target ticket => exact ⟨target, ticket, rfl⟩
  | receiving => exact absurd hr (h.relay_ne hp hd)
  | stopped => exact absurd hr (ho.unstopped hrun hp)
  | idle => simp [hr, Relay.isIntact] at hintact
  | broken reason => simp [hr, Relay.isIntact] at hintact
  | ended =>
    have hnone := h (.join side)
    simp [Exchange.perform, hrun, hp, hr, Relay.result?] at hnone

/-- It waits for an endpoint that is open and has no room, because its socket suspends a write that
began less than a write's time ago. -/
theorem Settled.exists_isSuspended (h : Settled now x)
    (ha : Accounts give arrived closed x.party? owner settledUp) (ho : Orderly x)
    (ht : ∀ {side p}, x.party? side = some p → Timed now p.endpoint) (hrun : x.isRunning = true)
    (hp : x.party? side = some p) (hd : p.endpoint.isDone = true) :
    ∃ target ticket q began, p.relay = .sending target ticket ∧ x.party? target = some q ∧
      (∃ w ∈ q.endpoint.waiting, w.ticket = ticket) ∧ IsOpen q.endpoint ∧ q.endpoint.room = 0 ∧
      IsSuspended now began q.endpoint := by
  obtain ⟨target, ticket, hr⟩ := h.exists_sending ha ho hrun hp hd
  obtain ⟨q, hq, w, hw, hticket, -⟩ := ha.sending hp hr
  obtain ⟨hopen, hroom⟩ := h.room_eq ha hq (List.ne_nil_of_mem hw)
  have hsound := ha.sound hq
  have hfull : q.endpoint.outbound ≠ [] := by
    intro hempty
    have hcapacity := (hasRoom_iff.mp hsound.hasRoom).1
    rw [room, hempty, List.length_nil] at hroom
    omega
  obtain ⟨began, hsuspended⟩ := Endpoint.exists_isSuspended hsound.ledger (ht hq) hopen.notClosed
    hfull fun m hm => h.endpoint hq hm
  exact ⟨target, ticket, q, began, hr, hq, ⟨w, hw, hticket⟩, hopen, hroom, hsuspended⟩

end

/-! ### What keeps an exchange going -/

/-- In every run, an exchange whose scope and endpoints go on goes on, and each of its relays
receives or waits to send. When it ends it ends well. As in all runs, a scope that ends has an
endpoint in it (`Station.after`). -/
theorem isRunning_of_not_someDone {x : Exchange} (hx : IsNew x) (hresult : x.result = none)
    {now : Nat} {events : List Event} {s : Station} (hrun : Station.run ⟨now, x⟩ events = some s) :
    (s.exchange.isCancelled = false → ¬SomeDone s.exchange.party? →
      s.exchange.isRunning = true ∧ ∀ {side p}, s.exchange.party? side = some p →
        p.relay = .receiving ∨ ∃ target ticket, p.relay = .sending target ticket) ∧
    (s.exchange.isRunning = false → s.exchange.result = some (.ok ())) := by
  obtain ⟨hbalanced, -, -⟩ := hx.balanced.run hrun
  obtain ⟨owner, ha⟩ := hbalanced.accounts
  have horderly : Orderly s.exchange := (hx.orderly hresult).run hx.balanced hrun
  have hended (h : s.exchange.isRunning = false) :
      s.exchange.result = some (.ok ()) ∧ SomeDone s.exchange.party? := by
    cases hr : s.exchange.result with
    | none => simp [horderly.isRunning_iff.mpr hr] at h
    | some r =>
      obtain ⟨rfl, hdone⟩ := horderly.result_eq hr
      exact ⟨rfl, hdone⟩
  refine ⟨?_, fun h => (hended h).1⟩
  intro _ hnone
  refine ⟨?_, ?_⟩
  · by_contra hstopped
    exact hnone (hended (Bool.of_not_eq_true hstopped)).2
  · intro side p hp
    have hsound := ha.sound hp
    have hintact := hsound.intact
    cases hr : p.relay with
    | receiving => exact Or.inl rfl
    | sending target ticket => exact Or.inr ⟨target, ticket, rfl⟩
    | ended => exact absurd ⟨side, p, hp, hsound.done_of_ended hr⟩ hnone
    | stopped => exact absurd (ha.done_of_stopped hp hr) hnone
    | idle => simp [hr, Relay.isIntact] at hintact
    | broken reason => simp [hr, Relay.isIntact] at hintact

/-! ### What holds up the end of an exchange -/

/-- A client sends a frame that is no envelope, and a channel one that is not JSON. -/
def badFrames : List Event :=
  [.arrive .client (.message (.binary [0xFF])), .move (.endpoint .client .read),
    .move (.endpoint .client .deliver), .move (.relay .client),
    .arrive (.channel "a") (.message (.text "x")), .move (.endpoint (.channel "a") .read),
    .move (.endpoint (.channel "a") .deliver), .move (.relay (.channel "a")),
    .move (.endpoint .client .take), .move (.endpoint .client .write),
    .move (.endpoint .client .take), .move (.endpoint .client .write)]

/-- A channel closes, and its relay ends the exchange. -/
def channelCloses : List Event :=
  [.arrive (.channel "a") (.message (.close none)), .move (.endpoint (.channel "a") .read),
    .move (.relay (.channel "a")), .move (.join (.channel "a"))]

/-- Bad frames do not end an exchange. When a channel closes it ends well. -/
theorem isRunning_badFrames :
    ∃ s, Station.run ⟨0, Exchange.start .standard 0 ["a"]⟩ badFrames = some s ∧
      s.exchange.isRunning = true ∧
      ∃ s', Station.run ⟨0, Exchange.start .standard 0 ["a"]⟩ (badFrames ++ channelCloses) = some s'
        ∧ s'.exchange.isRunning = false ∧ s'.exchange.result = some (.ok ()) := by
  have hgoing : ∃ s ∈ Station.run ⟨0, Exchange.start .standard 0 ["a"]⟩ badFrames,
      s.exchange.isCancelled = false ∧ IsCalm s := by
    decide +kernel
  have hended : ∃ s ∈ Station.run ⟨0, Exchange.start .standard 0 ["a"]⟩ (badFrames ++ channelCloses),
      s.exchange.isRunning = false := by
    decide +kernel
  obtain ⟨s, hs, hopen, hcalm⟩ := hgoing
  obtain ⟨s', hs', hstopped⟩ := hended
  have hnew : IsNew (Exchange.start .standard 0 ["a"]) := isNew_start rfl 0 (by simp)
  have hrunning := ((isRunning_of_not_someDone hnew rfl hs).1 hopen hcalm.not_someDone).1
  exact ⟨s, hs, hrunning, s', hs', hstopped, (isRunning_of_not_someDone hnew rfl hs').2 hstopped⟩

/-- In every settled state of a run in which an endpoint has ended and the exchange goes on, the
relay of that endpoint has no more left to send than an inbound queue holds, and it waits to send to
an endpoint that is open and has no room, because its socket suspends a write that began less than a
write's time ago. Once a write's time has passed since the end, that write began after it. -/
theorem exists_suspended {x : Exchange} (hx : IsNew x) (hresult : x.result = none)
    {now : Nat} {events : List Event} {s : Station} (hrun : Station.run ⟨now, x⟩ events = some s)
    (hsettled : Settled s.now s.exchange) {side : Side} {p : Party}
    (hp : s.exchange.party? side = some p) {ending : Ending}
    (hending : p.endpoint.ending = some ending) (hgoing : s.exchange.isRunning = true) :
    p.endpoint.inbound.length ≤ p.endpoint.settings.inboundCapacity ∧
    ∃ target ticket q began, p.relay = .sending target ticket ∧
      s.exchange.party? target = some q ∧ IsOpen q.endpoint ∧ q.endpoint.room = 0 ∧
      IsSuspended s.now began q.endpoint ∧
      (ending.time + q.endpoint.writeWait ≤ s.now → ending.time < began) := by
  obtain ⟨hbalanced, -, -⟩ := hx.balanced.run hrun
  obtain ⟨owner, ha⟩ := hbalanced.accounts
  have horderly : Orderly s.exchange := (hx.orderly hresult).run hx.balanced hrun
  have hdone : p.endpoint.isDone = true := by rw [isDone, hending, Option.isSome_some]
  have htimed {target : Side} {q : Party} (hq : s.exchange.party? target = some q) :
      Timed s.now q.endpoint := hx.forall_run isStable_timed Timed.start hrun hq
  obtain ⟨target, ticket, q, began, hr, hq, -, hopen, hroom, hsuspended⟩ :=
    hsettled.exists_isSuspended ha horderly htimed hgoing hp hdone
  refine ⟨?_, target, ticket, q, began, hr, hq, hopen, hroom, hsuspended, ?_⟩
  · exact (hx.forall_run isStable_fits (fun settings born _ => .start settings born) hrun hp).inbound
  · have hlt := hsuspended.now_lt
    intro hlate
    omega

/-- Whether the clock of a run moves only when nothing else can and stops wherever something is
due. -/
def Station.isTimely (s : Station) : List Event → Bool
  | [] => true
  | event :: events =>
    (match event with
    | .tick nanos =>
      decide (Settled s.now s.exchange) && (s.exchange.nextDue s.now).all (s.now + nanos ≤ ·)
    | _ => true) && (s.after event).all (·.isTimely events)

/-- A frame arrives from the client and is put into its inbound queue. -/
def fromClient (label : String) (digit : UInt8) : List Event :=
  [.arrive .client (.message (.binary (Envelope.encode ⟨label, [digit]⟩))),
    .move (.endpoint .client .read), .move (.endpoint .client .deliver)]

/-- Two channels do not take what is written to them. The client sends each of them three frames and
closes, when the first frame is being written, the second waits in the queue and the relay waits to
send the third. After most of a write's time the one channel goes on, and the relay turns to the
other. -/
def twoChannels : List Event := List.flatten
  [[.setFlow (.channel "a") .blocked, .setFlow (.channel "b") .blocked],
    fromClient "a" 0x31, [.move (.relay .client), .move (.endpoint (.channel "a") .take)],
    fromClient "a" 0x32, [.move (.relay .client)], fromClient "a" 0x33, [.move (.relay .client)],
    fromClient "b" 0x34, fromClient "b" 0x35, fromClient "b" 0x36,
    [.arrive .client (.message (.closing Wire.CloseCode.normal "")),
      .move (.endpoint .client .read), .move (.endpoint .client .stopWriting),
      .move (.endpoint .client .write), .move (.endpoint .client .write),
      .move (.endpoint .client .write), .move (.endpoint .client .write), .tick 600000000],
    [.setFlow (.channel "a") .open, .move (.endpoint (.channel "a") .write),
      .move (.endpoint (.channel "a") .take), .move (.endpoint (.channel "a") .write),
      .move (.relay .client), .move (.endpoint (.channel "a") .take),
      .move (.endpoint (.channel "a") .write), .move (.relay .client),
      .move (.endpoint (.channel "b") .take), .move (.relay .client), .move (.relay .client),
      .tick 600000000]]

/-- Settings under which a write may take one second and a queue holds one frame. -/
def oneSecond : Settings := { Settings.standard with writeWait := .ofSecs 1, outboundCapacity := 1 }

/-- More than a write's time after the client has ended, the exchange is settled and goes on. -/
theorem isRunning_twoChannels :
    ∃ s, Station.run ⟨0, Exchange.start oneSecond 0 ["a", "b"]⟩ twoChannels = some s ∧
      Station.isTimely ⟨0, Exchange.start oneSecond 0 ["a", "b"]⟩ twoChannels = true ∧
      Settled s.now s.exchange ∧
      s.exchange.client.endpoint.ending = some ⟨0, .remoteClosed⟩ ∧
      0 + s.exchange.client.endpoint.writeWait ≤ s.now ∧ s.exchange.isRunning = true := by
  have hrun : ∃ s ∈ Station.run ⟨0, Exchange.start oneSecond 0 ["a", "b"]⟩ twoChannels,
      Station.isTimely ⟨0, Exchange.start oneSecond 0 ["a", "b"]⟩ twoChannels = true ∧
      Settled s.now s.exchange ∧
      s.exchange.client.endpoint.ending = some ⟨0, .remoteClosed⟩ ∧
      0 + s.exchange.client.endpoint.writeWait ≤ s.now ∧ s.exchange.isRunning = true := by
    decide +kernel
  obtain ⟨s, hs, hstate⟩ := hrun
  exact ⟨s, hs, hstate⟩

/-- The write that holds it up began after the client had ended. -/
theorem exists_suspended_twoChannels :
    ∃ s, Station.run ⟨0, Exchange.start oneSecond 0 ["a", "b"]⟩ twoChannels = some s ∧
      s.exchange.isRunning = true ∧ ∃ target ticket q began,
        s.exchange.client.relay = .sending target ticket ∧
        s.exchange.party? target = some q ∧ IsSuspended s.now began q.endpoint ∧ 0 < began := by
  have hrun : ∃ s ∈ Station.run ⟨0, Exchange.start oneSecond 0 ["a", "b"]⟩ twoChannels,
      Settled s.now s.exchange ∧
      s.exchange.client.endpoint.ending = some ⟨0, .remoteClosed⟩ ∧
      (∀ side ∈ s.exchange.sides, ∀ q ∈ s.exchange.party? side,
        0 + q.endpoint.writeWait ≤ s.now) ∧ s.exchange.isRunning = true := by
    decide +kernel
  obtain ⟨s, hs, hsettled, hending, hlate, hrunning⟩ := hrun
  have hnew : IsNew (Exchange.start oneSecond 0 ["a", "b"]) := isNew_start rfl 0 (by simp)
  have hclient : s.exchange.party? .client = some s.exchange.client := rfl
  obtain ⟨-, target, ticket, q, began, hsending, hq, -, -, hsuspended, hbegan⟩ :=
    exists_suspended hnew rfl hs hsettled hclient hending hrunning
  exact ⟨s, hs, hrunning, target, ticket, q, began, hsending, hq, hsuspended,
    hbegan (hlate target (mem_sides hq) q hq)⟩

end Exchange

end Switchboard
