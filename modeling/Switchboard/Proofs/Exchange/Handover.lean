import Switchboard.Proofs.Exchange.Dormant
import Switchboard.Proofs.Exchange.Drain
/-!
# Exchanges that take over endpoints

An exchange may begin with endpoints that have been there for a while, as long as nobody has sent
anything to them or let go of their inbound queues (`IsReady`). Each relay then hears what was not
yet received (`unheard`), and from then on all is balanced and in order (`Listens`), along every run,
and also when an inbound queue is dropped once more after the end.

What is sent follows from what the relays have received, and from nothing that was taken out of a
queue before (`Balanced.framesWritten_begins`, `Balanced.isAnswered`).
-/

namespace Switchboard.Exchange

open Endpoint

/-! ### Definitions -/

/-- An endpoint to which nobody has sent anything, with an inbound queue that can be read. -/
structure IsReady (e : Endpoint) : Prop where
  ledger : Ledger e
  hasRoom : Endpoint.hasRoom e.settings = true
  accepted_eq : e.accepted = []
  waiting_eq : e.waiting = []
  consumer_ne : e.consumer ≠ .gone

/-- The frames that have arrived at a side and were not yet received. -/
def unheard (x : Exchange) (side : Side) : List Bytes :=
  ((x.party? side).map fun p => p.endpoint.framesArrived.drop p.endpoint.received.length).getD []

/-- An exchange with channels that hears these frames from the client. -/
structure Listens (frames : List Bytes) (x : Exchange) : Prop where
  labels_ne : x.labels ≠ []
  balanced : ∃ heard, heard .client = frames ∧ Balanced heard x
  orderly : Orderly x

/-- What is done to an exchange without anything arriving from the client. -/
def Reaches (now : Nat) (x y : Exchange) : Prop :=
  ∃ events, Station.run ⟨now, x⟩ events = some ⟨now, y⟩ ∧ arrivedAt .client events = []

/-- What was written to the client was sent for frames that the relays have received: one complaint
for each of the first of the client's frames without an addressee, and one answer for each of the
first frames of a channel. -/
def IsAnswered (x : Exchange) : Prop :=
  ∃ sent : List (Side × Bytes),
    sent.map (·.2) = x.client.endpoint.framesWritten ∧
    (∀ m ∈ sent, m.1 ∈ x.sides) ∧
    Answers (fun _ message => IsComplaint message) (unaddressed x.labels x.client.relayed) False
      ((sent.filter (·.1 = .client)).map (·.2)) ∧
    ∀ {label p}, x.party? (.channel label) = some p →
      Answers (IsAnswer x.limit label) p.relayed False
        ((sent.filter (·.1 = .channel label)).map (·.2))

section

variable {Q : Side → Endpoint → Prop} {arrived : Side → List Bytes} {x y z : Exchange} {side : Side}
  {p q : Party} {e : Endpoint} {label : String} {frames : List Bytes} {now now' : Nat}
  {events : List Event}

/-! ### The beginning -/

/-- Every party begins. -/
theorem party?_begin (x : Exchange) : x.begin.party? = Parties.map x.party? fun _ p => p.begin := by
  funext side
  cases side with
  | client => rfl
  | channel label =>
    simp [party?, begin, Parties.map, List.find?_map, Function.comp_def]

/-- A relay that begins hears what was not yet received. -/
theorem IsReady.sound_begin (h : IsReady e) :
    (Party.idle e).begin.Sound (e.framesArrived.drop e.received.length) := by
  have hbegin : (Party.idle e).begin = ⟨{ e with consumer := .taken }, .receiving, []⟩ := by
    rw [Party.begin, Party.idle, takeInbound_eq h.consumer_ne]
  have hledger := h.ledger.takeInbound
  rw [takeInbound_eq h.consumer_ne] at hledger
  rw [hbegin]
  refine ⟨hledger, ⟨e.received, (List.append_nil _).symm, ?_⟩, h.hasRoom, rfl, fun _ _ => rfl,
    by simp⟩
  obtain ⟨rest, hrest⟩ := h.ledger.incoming.received_arrived
  have harrived : e.framesArrived = e.received ++ e.framesArrived.drop e.received.length := by
    rw [← hrest, List.drop_left]
  exact harrived

/-- An exchange that takes over endpoints that are ready is balanced. -/
theorem Dormant.balanced_begin (h : Dormant (fun _ => IsReady) x) (hn : x.labels.Nodup)
    (hcancelled : x.isCancelled = true → SomeDone x.party?) : Balanced x.unheard x.begin := by
  have hparty {side : Side} {q : Party} (hq : x.begin.party? side = some q) :
      ∃ e, x.party? side = some (.idle e) ∧ IsReady e ∧ q = (Party.idle e).begin := by
    rw [party?_begin] at hq
    obtain ⟨p, hp, rfl⟩ := Parties.map_eq_some.mp hq
    obtain ⟨hidle, hready⟩ := h.party hp
    exact ⟨p.endpoint, hidle ▸ hp, hready, congrArg Party.begin hidle⟩
  have hnew {side : Side} {q : Party} (hq : x.begin.party? side = some q) :
      q.relay = .receiving ∧ q.relayed = [] ∧ q.endpoint.accepted = [] ∧
        q.endpoint.waiting = [] := by
    obtain ⟨e, -, hready, rfl⟩ := hparty hq
    have htaken := takeInbound_eq hready.consumer_ne
    refine ⟨rfl, rfl, ?_, ?_⟩
    · exact (congrArg Endpoint.accepted htaken).trans hready.accepted_eq
    · exact (congrArg Endpoint.waiting htaken).trans hready.waiting_eq
  refine ⟨⟨fun _ _ => .client, ?_⟩, by rwa [labels_begin]⟩
  refine ⟨?_, ?_, ?_, ?_, ?_, ?_, ?_⟩
  · intro side q hq
    obtain ⟨e, he, hready, rfl⟩ := hparty hq
    have hunheard : x.unheard side = e.framesArrived.drop e.received.length := by
      rw [unheard, he, Option.map_some, Option.getD_some, Party.idle]
    rw [hunheard]
    exact hready.sound_begin
  · intro hclosed
    obtain ⟨side, p, hp, hdone⟩ := hcancelled hclosed
    refine ⟨side, p.begin, by rw [party?_begin, Parties.map_eq_some]; exact ⟨p, hp, rfl⟩, ?_⟩
    have htaken := takeInbound_eq (h.party hp).2.consumer_ne
    exact (congrArg Endpoint.isDone htaken).trans hdone
  · intro side q hq hstopped
    simp [(hnew hq).1] at hstopped
  · intro target q hq w hw
    simp [(hnew hq).2.2.2] at hw
  · intro side target q ticket hq hsending
    simp [(hnew hq).1] at hsending
  · intro target q hq w hw
    simp [(hnew hq).2.2.1] at hw
  · intro side target p q hp hq
    obtain ⟨-, hrelayed, -, -⟩ := hnew hp
    obtain ⟨-, -, haccepted, hwaiting⟩ := hnew hq
    exact ⟨[], by simp [hrelayed, haccepted, hwaiting], fun _ _ => rfl⟩

/-- An exchange that begins is in order. -/
theorem Dormant.orderly_begin (h : Dormant Q x) : Orderly x.begin where
  isRunning_iff := by
    have hresult : x.begin.result = none := (Prod.mk.inj h.outcome).2
    rw [hresult]
    exact ⟨fun _ => rfl, fun _ => rfl⟩
  result_eq hr := by
    have hresult : x.begin.result = none := (Prod.mk.inj h.outcome).2
    simp [hresult] at hr
  unstopped _ hp := by
    rw [party?_begin] at hp
    obtain ⟨p, -, rfl⟩ := Parties.map_eq_some.mp hp
    simp [Party.begin]
  inactive hr := by cases hr

/-! ### After the end -/

/-- The log is not in the accounts. -/
theorem Balanced.note (h : Balanced arrived x) (line : Option LogEntry) :
    Balanced arrived (x.note line) := by
  obtain ⟨owner, haccounts⟩ := h.accounts
  refine h.of_accounts (shape_note x line) ⟨owner, ?_⟩
  rwa [party?_note]

/-- Nor does the order depend on it. -/
theorem Orderly.note (h : Orderly x) (line : Option LogEntry) : Orderly (x.note line) := by
  refine ⟨h.isRunning_iff, ?_, ?_, ?_⟩ <;> rw [party?_note]
  · exact h.result_eq
  · exact h.unstopped
  · exact h.inactive

/-- An inbound queue is dropped when its relay does not go on. -/
theorem Balanced.dropInbound (h : Balanced arrived x)
    (hr : ∀ {p}, x.party? side = some p → ¬p.relay.IsActive) :
    Balanced arrived (x.onEndpoint side Endpoint.dropInbound) := by
  obtain ⟨owner, haccounts⟩ := h.accounts
  refine h.of_accounts (shape_onEndpoint x side _) ⟨owner, ?_⟩
  rw [party?_onEndpoint]
  have hsame (p : Party) : p.Keeps { p with endpoint := p.endpoint.dropInbound } :=
    ⟨id, fun hopen => ⟨hopen.1, hopen.2⟩⟩
  refine haccounts.adjust (fun _ => []) ?_ ?_ ?_ ?_ ?_ ?_ ?_
  · intro s p hp
    have hsound := haccounts.sound hp
    split_ifs with hs
    · subst hs
      refine ⟨hsound.ledger.dropInbound, hsound.hears, hsound.hasRoom, hsound.intact, ?_,
        hsound.done_of_ended⟩
      intro hended hstopped
      have hintact := hsound.intact
      cases hrelay : p.relay with
      | receiving | sending => exact absurd (by rw [hrelay]; trivial) (hr hp)
      | ended => exact absurd hrelay hended
      | stopped => exact absurd hrelay hstopped
      | idle | broken => simp [hrelay, Relay.isIntact] at hintact
    · exact hsound
  · intro s p _
    split_ifs
    · exact hsame p
    · exact .refl p
  · intro s p _
    split_ifs <;> rfl
  · intro s p _
    rw [List.append_nil]
    split_ifs <;> rfl
  · intro s p _
    split_ifs <;> rfl
  · intro s p _
    split_ifs <;> rfl
  · intro s t
    rw [outbox_nil, List.append_nil]

/-- The order does not depend on an inbound queue. -/
theorem Orderly.dropInbound (h : Orderly x) (side : Side) :
    Orderly (x.onEndpoint side Endpoint.dropInbound) := by
  have hparty {s : Side} {q : Party} (hq : (x.onEndpoint side Endpoint.dropInbound).party? s = some q) :
      ∃ p, x.party? s = some p ∧ q.relay = p.relay := by
    rw [party?_onEndpoint] at hq
    obtain ⟨p, hp, rfl⟩ := Parties.map_eq_some.mp hq
    refine ⟨p, hp, ?_⟩
    split_ifs <;> rfl
  obtain ⟨hrunning, hresult⟩ := Prod.mk.inj (outcome_onEndpoint x side Endpoint.dropInbound)
  refine ⟨?_, ?_, ?_, ?_⟩
  · rw [hrunning, hresult]
    exact h.isRunning_iff
  · intro r hr
    rw [hresult] at hr
    obtain ⟨hok, hdone⟩ := h.result_eq hr
    refine ⟨hok, ?_⟩
    rw [party?_onEndpoint]
    refine hdone.map fun {s p} _ => ?_
    split_ifs
    · exact ⟨id, fun hopen => ⟨hopen.1, hopen.2⟩⟩
    · exact .refl p
  · intro s q hrun hq
    obtain ⟨p, hp, hrelay⟩ := hparty hq
    rw [hrelay]
    exact h.unstopped (hrunning ▸ hrun) hp
  · intro s q hrun hq
    obtain ⟨p, hp, hrelay⟩ := hparty hq
    rw [hrelay]
    exact h.inactive (hrunning ▸ hrun) hp

/-! ### What is sent -/

/-- What is written to a channel follows from the frames that the client's relay has received. -/
theorem Balanced.framesWritten_begins (h : Balanced arrived x)
    (hq : x.party? (.channel label) = some q) :
    q.endpoint.framesWritten <+: addressedTo label x.client.relayed := by
  obtain ⟨owner, ha⟩ := h.accounts
  have hclient : x.party? .client = some x.client := rfl
  obtain ⟨rest, hshare, -⟩ := ha.share hclient hq
  rw [outbox_client_channel (mem_labels hq), shareOf_append, ha.shareOf_client hq,
    (ha.sound hq).ledger.outgoing.accepted_eq] at hshare
  rw [hshare]
  simp only [List.append_assoc]
  exact List.prefix_append _ _

/-- So does what is written to the client. -/
theorem Balanced.isAnswered (h : Balanced arrived x) : IsAnswered x := by
  have hclient : x.party? .client = some x.client := rfl
  obtain ⟨sent, hsent⟩ := Balanced.exists_delivered (s := ⟨0, x⟩) h hclient
  refine ⟨sent, hsent.written, ?_, ?_, ?_⟩
  · intro m hm
    obtain ⟨p, hp⟩ := hsent.known m hm
    exact mem_sides hp
  · refine Answers.of_map (g := fun f => (forClient x.labels f).frame) ?_ ?_ False.elim
    · intro f hf
      have hnone := (List.mem_filter.mp hf).2
      exact isComplaint_forClient (Option.isNone_iff_eq_none.mp hnone)
    · rw [← outbox_client_client]
      exact hsent.begun hclient
  · intro label p hp
    refine Answers.of_map (g := fun f => (forChannel x.limit label f).1.frame) ?_ ?_ False.elim
    · intro f _
      exact isAnswer_forChannel x.limit label f
    · rw [← outbox_channel_client]
      exact hsent.begun hp

/-- A client to which nothing was written is not left with a wrong answer. -/
theorem isAnswered_of_nil (h : x.client.endpoint.framesWritten = []) : IsAnswered x :=
  ⟨[], h.symm, fun _ hm => absurd hm List.not_mem_nil,
    ⟨[], List.nil_prefix, False.elim, .nil⟩, fun _ => ⟨[], List.nil_prefix, False.elim, .nil⟩⟩

/-! ### Runs -/

/-- An exchange that has ended stays so. -/
theorem Station.isRunning_run : ∀ {s s' : Station}, s.run events = some s' →
    s.exchange.isRunning = false → s'.exchange.isRunning = false := by
  induction events with
  | nil =>
    intro s s' hrun h
    obtain rfl := Option.some.inj hrun
    exact h
  | cons event events ih =>
    intro s s' hrun h
    obtain ⟨t, ht, hrest⟩ := Option.bind_eq_some_iff.mp hrun
    apply ih hrest
    rcases Station.evolves_or_finishes ht with hevolves | ⟨-, r, rfl, -⟩
    · exact (Prod.mk.inj hevolves.outcome).1.trans h
    · rfl

/-- An exchange that takes over endpoints listens to what was not yet received. -/
theorem Dormant.listens_begin (h : Dormant (fun _ => IsReady) x) (hn : x.labels.Nodup)
    (hlabels : x.labels ≠ []) (hcancelled : x.isCancelled = true → SomeDone x.party?) :
    Listens (x.unheard .client) x.begin where
  labels_ne := by rwa [labels_begin]
  balanced := ⟨x.unheard, rfl, h.balanced_begin hn hcancelled⟩
  orderly := h.orderly_begin

/-- In a run it hears what arrives. -/
theorem Listens.run (h : Listens frames x)
    (hrun : Station.run ⟨now, x⟩ events = some ⟨now', y⟩) :
    Listens (frames ++ arrivedAt .client events) y := by
  obtain ⟨heard, rfl, hbalanced⟩ := h.balanced
  obtain ⟨hlater, hlabels, -⟩ := hbalanced.run hrun
  refine ⟨?_, ⟨_, rfl, hlater⟩, h.orderly.run hbalanced hrun⟩
  have hsame : y.labels = x.labels := hlabels
  rw [hsame]
  exact h.labels_ne

/-- The log does not matter. -/
theorem Listens.note (h : Listens frames x) (line : Option LogEntry) :
    Listens frames (x.note line) := by
  obtain ⟨heard, hheard, hbalanced⟩ := h.balanced
  exact ⟨h.labels_ne, ⟨heard, hheard, hbalanced.note line⟩, h.orderly.note line⟩

/-- After the end an inbound queue does not matter. -/
theorem Listens.dropInbound (h : Listens frames x) (hr : x.isRunning = false) (side : Side) :
    Listens frames (x.onEndpoint side Endpoint.dropInbound) := by
  obtain ⟨heard, hheard, hbalanced⟩ := h.balanced
  refine ⟨?_, ⟨heard, hheard, hbalanced.dropInbound fun hp => h.orderly.inactive hr hp⟩,
    h.orderly.dropInbound side⟩
  rw [labels_onEndpoint]
  exact h.labels_ne

/-! ### What is done to an exchange -/

/-- Nothing is done. -/
theorem Reaches.refl (now : Nat) (x : Exchange) : Reaches now x x := ⟨[], rfl, rfl⟩

/-- One thing is done after another. -/
theorem Reaches.trans (h : Reaches now x y) (h' : Reaches now y z) : Reaches now x z := by
  obtain ⟨events, hrun, hnone⟩ := h
  obtain ⟨later, hlater, hnone'⟩ := h'
  refine ⟨events ++ later, ?_, ?_⟩
  · rw [Station.run_append, hrun]
    exact hlater
  · rw [arrivedAt, List.flatMap_append, ← arrivedAt, ← arrivedAt, hnone, hnone', List.append_nil]

/-- One event happens. -/
theorem Reaches.of_after (event : Event) (h : Station.after ⟨now, x⟩ event = some ⟨now, y⟩)
    (hnone : arrivedAt .client [event] = []) : Reaches now x y := by
  refine ⟨[event], ?_, hnone⟩
  rw [Station.run, h]
  rfl

/-- An exchange that is reached listens as the other did. -/
theorem Listens.reaches (h : Listens frames x) (hxy : Reaches now x y) : Listens frames y := by
  obtain ⟨events, hrun, hnone⟩ := hxy
  have hlater := h.run hrun
  rwa [hnone, List.append_nil] at hlater

/-- It has ended if the other had. -/
theorem Reaches.isRunning (hxy : Reaches now x y) (h : x.isRunning = false) :
    y.isRunning = false := by
  obtain ⟨events, hrun, -⟩ := hxy
  exact Station.isRunning_run hrun h

/-- The scope of the channels ends. -/
theorem Reaches.cancelChannels (now : Nat) (hlabels : x.labels ≠ []) :
    Reaches now x ({ x with isCancelled := true }.onChannels (·.cancel now)) := by
  refine .of_after (.cancel (x.labels.map .channel)) ?_ rfl
  obtain ⟨label, rest, hrest⟩ := List.exists_cons_of_ne_nil hlabels
  have hmember : (x.labels.map Side.channel).any x.sides.contains = true := by
    simp [sides, hrest]
  rw [Station.after, if_pos hmember, onChannels_eq]
  rfl

/-- The endpoints of some sides are shut down. -/
theorem Reaches.shutDownAll (now : Nat) (sides : List Side) : ∀ x : Exchange,
    Reaches now x (sides.foldl (fun x side => x.onEndpoint side (·.shutDown now)) x) := by
  induction sides with
  | nil => exact .refl now
  | cons side sides ih =>
    intro x
    have hfirst : Reaches now x (x.onEndpoint side (·.shutDown now)) :=
      .of_after (.shutDown side) rfl rfl
    exact hfirst.trans (ih _)

end

end Switchboard.Exchange
