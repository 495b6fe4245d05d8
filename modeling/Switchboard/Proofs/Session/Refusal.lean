import Switchboard.Proofs.Endpoint.Farewell
import Switchboard.Proofs.Exchange.Ending
import Switchboard.Proofs.Session.Handshake
import Switchboard.Proofs.Session.Lines
/-!
# Refused sessions

Either every channel of the gate is there when the exchange begins, or a session is refused and
nothing of it remains (`refused_of_run`): no channel is written anything, all of them end, none is
added, and the client is told why it was refused, at most once and before anything else, and surely
if it was there to be told.

A session goes from preparing (`Preparing`) either to an exchange that is complete (`Joined`) or to
its refusal (`Refused`), and stays there. Until the exchange begins endpoints are used by nobody, so
that what an endpoint writes follows from what it has accepted (`HasAccepted`).
-/

namespace Switchboard

namespace Endpoint

/-! ### What an endpoint has accepted -/

/-- An endpoint that has accepted these frames, and for which no send waits. -/
structure HasAccepted (settings : Settings) (frames : List Bytes) (e : Endpoint) : Prop where
  ledger : Ledger e
  courteous : Courteous e
  settings_eq : e.settings = settings
  accepted_eq : e.accepted.map (·.frame) = frames
  waiting_eq : e.waiting = []

section

variable {settings : Settings} {frames : List Bytes} {e e' : Endpoint} {now limit : Nat}

/-- Acts that accept nothing. -/
theorem HasAccepted.act (h : HasAccepted settings frames e) (hact : Act now e e')
    (ha : e'.accepted = e.accepted) (hw : e'.waiting = e.waiting) :
    HasAccepted settings frames e' := by
  obtain ⟨hledger, hcourteous⟩ := isStable_courteous.act hact ⟨h.ledger, h.courteous⟩
  exact ⟨hledger, hcourteous, (Follows.act hact).settings.trans h.settings_eq,
    (congrArg _ ha).trans h.accepted_eq, hw.trans h.waiting_eq⟩

/-- What keeps account of what was accepted. -/
theorem HasAccepted.keep (h : HasAccepted settings frames e) (hact : Act now e e')
    (hk : Keeps e e') : HasAccepted settings frames e' :=
  h.act hact hk.accepted hk.waiting

/-- A part of the endpoint moves. -/
theorem HasAccepted.step (h : HasAccepted settings frames e) {m : Move}
    (hm : Exchange.isRelayed m = false) (hs : Step now e m e') :
    HasAccepted settings frames e' := by
  apply h.keep (.step hs)
  apply Keeps.step hs
  rintro ticket rfl
  cases hm

/-- Something arrives. -/
theorem HasAccepted.arrive (h : HasAccepted settings frames e) (a : Wire.Arrival) :
    HasAccepted settings frames (e.arrive a) :=
  ⟨h.ledger.arrive a, h.courteous.of_eq rfl rfl rfl rfl rfl rfl fun _ => rfl, h.settings_eq,
    h.accepted_eq, h.waiting_eq⟩

/-- The socket changes how it takes what is written. -/
theorem HasAccepted.setFlow (h : HasAccepted settings frames e) (flow : Wire.Flow) :
    HasAccepted settings frames (e.setFlow flow) :=
  ⟨h.ledger.setFlow flow, h.courteous.of_eq rfl rfl rfl rfl rfl rfl fun _ => rfl, h.settings_eq,
    h.accepted_eq, h.waiting_eq⟩

/-- The scope of the endpoint ends. -/
theorem HasAccepted.cancel (h : HasAccepted settings frames e) (now : Nat) :
    HasAccepted settings frames (e.cancel now) :=
  h.keep (.cancel : Act now e _) (Keeps.finish e now .scopeEnded)

/-- A new endpoint has accepted nothing. -/
theorem HasAccepted.start (settings : Settings) (now : Nat) :
    HasAccepted settings [] (start settings now) :=
  ⟨.start settings now, .start settings now, rfl, rfl, rfl⟩

/-- What is written was accepted. -/
theorem HasAccepted.framesWritten (h : HasAccepted settings frames e) :
    e.framesWritten <+: frames := by
  have haccepted := h.ledger.outgoing.accepted_eq
  rw [h.accepted_eq] at haccepted
  rw [haccepted, List.append_assoc, List.append_assoc]
  exact List.prefix_append _ _

/-- An endpoint says what it has accepted, and then at most one close message. -/
theorem HasAccepted.spoken (h : HasAccepted settings frames e) :
    ∃ said closing, e.spoken = said.map .ofFrame ++ closing ∧ said <+: frames ∧
      (closing = [] ∨ ∃ code, closing = [.closing code ""]) := by
  rcases h.courteous.spoken_eq with hopen | ⟨code, hclosed⟩
  · exact ⟨e.framesWritten, [], by rw [List.append_nil, hopen], h.framesWritten, Or.inl rfl⟩
  · exact ⟨e.framesWritten, _, hclosed, h.framesWritten, Or.inr ⟨code, rfl⟩⟩

/-- An endpoint that has accepted nothing accepts a frame or refuses it, and accepts it if it is
alive. -/
theorem HasAccepted.send (h : HasAccepted settings [] e) (hroom : hasRoom settings = true)
    (f : Bytes) : ∃ success frames, (e.send f).1 = .finished success ∧
      HasAccepted settings frames (e.send f).2 ∧ frames <+: [f] ∧ (IsAlive e → frames = [f]) := by
  have hledger := h.ledger.send f
  have hcourteous := h.courteous.act (.send f : Act 0 e _) h.ledger.outgoing
  have hsettings : (e.send f).2.settings = settings := (Rests.send e f).settings.trans h.settings_eq
  have hempty : e.outbound = [] := by
    have haccepted := h.ledger.outgoing.accepted_eq
    rw [h.accepted_eq] at haccepted
    simp at haccepted
    exact haccepted.2.2.1
  rcases hsent : e.send f with ⟨sending, e'⟩
  have hs := sent_send e f
  rw [hsent] at hs hledger hcourteous hsettings
  cases hs with
  | refused hd =>
    refine ⟨false, [], rfl, ⟨hledger, hcourteous, hsettings, h.accepted_eq, h.waiting_eq⟩,
      List.nil_prefix, ?_⟩
    intro halive
    simp [halive.notDone, halive.isClosed_eq h.ledger.outgoing] at hd
  | accepted =>
    refine ⟨true, [f], rfl, ⟨hledger, hcourteous, hsettings, ?_, h.waiting_eq⟩,
      List.prefix_rfl, fun _ => rfl⟩
    have hnone := h.accepted_eq
    rw [List.map_eq_nil_iff] at hnone
    simp [hnone]
  | waits _ _ hr =>
    have hcapacity := (hasRoom_iff.mp hroom).1
    rw [h.waiting_eq, room, hempty, h.settings_eq] at hr
    simp only [List.length_nil] at hr
    omega

/-! ### An endpoint with time enough -/

/-- Nothing has gone wrong with a live endpoint. -/
theorem Unhurried.of_isAlive (h : HasAccepted settings frames e) (halive : IsAlive e)
    (hf : e.flow = .open) (limit : Nat) : Unhurried limit e := by
  obtain ⟨hperiod, -, hmishaps, -⟩ :=
    h.courteous.lasting_of (halive.isClosed_eq h.ledger.outgoing)
  refine ⟨hf, hperiod, hmishaps, ?_⟩
  intro deadline hs
  have hdone := h.ledger.done_of_shutdown (by simp [hs])
  simp [halive.notDone] at hdone

/-- To send takes no time. -/
theorem Unhurried.send (h : Unhurried limit e) (f : Bytes) : Unhurried limit (e.send f).2 := by
  rcases hsent : e.send f with ⟨sending, e'⟩
  have hs := sent_send e f
  rw [hsent] at hs
  cases hs <;> exact { h with }

/-- To close takes no time. -/
theorem Unhurried.close (h : Unhurried limit e) (now : Nat) (code : Wire.CloseCode) :
    Unhurried limit (e.close now code) := by
  rw [close_eq]
  exact { h with }

/-- A shutdown gives one write's time. -/
theorem Unhurried.shutDown (h : Unhurried limit e) (hlimit : limit ≤ now + e.writeWait) :
    Unhurried limit (e.shutDown now) := by
  obtain ⟨hflow, hperiod, hmishaps, -⟩ := h.close now Wire.CloseCode.normal
  refine ⟨hflow, hperiod, hmishaps, ?_⟩
  intro deadline hs
  obtain rfl := Shutdown.waiting.inj hs
  exact hlimit

end

end Endpoint

namespace Session

open Endpoint
open Exchange (Side Dormant)

/-! ### Definitions -/

/-- A session that prepares. -/
structure Preparing (settings : Settings) (past : List Event) (s : Session) : Prop where
  isPreparing : s.isPreparing = true
  refusal : s.refusal = none
  settings_eq : s.configuration.endpoint = settings
  lines : Lines past s
  dormant : Dormant (fun _ => HasAccepted settings []) s.exchange

/-- A session whose exchange has begun. -/
structure Joined (past : List Event) (s : Session) : Prop where
  notPreparing : s.isPreparing = false
  refusal : s.refusal = none
  complete : IsComplete past s

/-- What the endpoint on a side has accepted when the client has accepted these frames. -/
def acceptedBy (frames : List Bytes) : Side → List Bytes
  | .client => frames
  | .channel _ => []

/-- An endpoint of a refused session. If the client's is at ease, nothing goes wrong with it before
a time. -/
structure Parting (settings : Settings) (frames : List Bytes) (limit : Nat) (calm : Prop)
    (now : Nat) (side : Side) (e : Endpoint) : Prop where
  accepted : HasAccepted settings (acceptedBy frames side) e
  done : e.isDone = true
  unhurried : side = .client → calm → now < limit → Unhurried limit e

/-- An endpoint of a session that is being refused. -/
structure Departing (settings : Settings) (frames : List Bytes) (limit : Nat) (calm : Prop)
    (side : Side) (e : Endpoint) : Prop where
  accepted : HasAccepted settings (acceptedBy frames side) e
  unhurried : side = .client → calm → Unhurried limit e

/-- A session that was refused when its state was `t`. -/
structure Refused (settings : Settings) (frames : List Bytes) (limit : Nat) (calm : Prop)
    (t : Session) (now : Nat) (s : Session) : Prop where
  stage : s.stage = .refusing ∨ s.stage = .over
  papers : s.papers = t.papers
  dropped {l : Line} : l ∈ s.lines → l.state.isPending = false
  labels : s.exchange.labels = t.exchange.labels
  dormant : Dormant (Parting settings frames limit calm now) s.exchange

/-- A session that has just been refused, with its client's endpoint as it was before. -/
structure IsRefusal (settings : Settings) (before : Endpoint) (f : Failure) (now : Nat)
    (t : Session) : Prop where
  refusal : t.refusal = some f
  told : ∃ frames, frames <+: [f.controlFrame] ∧ (IsAlive before → frames = [f.controlFrame]) ∧
    Refused settings frames (now + settings.writeWait.toNanos)
      (IsAlive before ∧ before.flow = .open) t now t

/-- A session after the given events. -/
inductive Phase (settings : Settings) (past : List Event) (s : Station) : Prop
  | preparing (h : Preparing settings past s.session)
  | joined (h : Joined past s.session)
  | refused {f : Failure} {frames : List Bytes} {limit : Nat} {t : Session}
    (hf : s.session.refusal = some f) (h : Refused settings frames limit False t s.now s.session)

/-- What is left of a session that was refused for a failure when its state was `t`. No dial, no
line and no channel has been added. -/
structure Abandoned (f : Failure) (t s : Station) : Prop where
  refusal : s.session.refusal = some f
  papers : s.session.papers = t.session.papers
  labels : s.session.exchange.labels = t.session.exchange.labels
  dropped {l : Line} : l ∈ s.session.lines → l.state.isPending = false
  notRunning : s.session.exchange.isRunning = false
  unwritten {label : String} {p : Exchange.Party} :
    s.session.exchange.party? (.channel label) = some p → p.endpoint.framesWritten = []
  /-- The channels have ended, and in a settled state nothing of them is left unless their sockets
  suspend what is written; then there is a time for that. -/
  ended {label : String} {p : Exchange.Party} :
    s.session.exchange.party? (.channel label) = some p → p.endpoint.isDone = true ∧
      (Settled s.now s.session → p.endpoint.reader = .stopped ∧
        (p.endpoint.writer = .stopped ∨ p.endpoint.flow = .blocked ∧
          ∃ deadline, p.endpoint.writer.deadline? = some deadline ∧ s.now < deadline))
  told : ∃ said closing, s.session.client.spoken = said.map .ofFrame ++ closing ∧
    said <+: [f.controlFrame] ∧ (closing = [] ∨ ∃ code, closing = [.closing code ""])

section

variable {settings : Settings} {frames : List Bytes} {limit now now' : Nat} {calm calm' : Prop}
  {past : List Event} {s t u : Session} {e e' : Endpoint} {side : Side} {f : Failure}

/-! ### The endpoints of a refused session -/

/-- Acts that accept nothing. -/
theorem Parting.keep (h : Parting settings frames limit calm now side e) (hact : Act now e e')
    (ha : e'.accepted = e.accepted) (hw : e'.waiting = e.waiting)
    (hu : Unhurried limit e → now < limit → Unhurried limit e') :
    Parting settings frames limit calm now side e' where
  accepted := h.accepted.act hact ha hw
  done := (Follows.act hact).done h.done
  unhurried hside hcalm hlimit := hu (h.unhurried hside hcalm hlimit) hlimit

/-- A part of the endpoint moves. -/
theorem Parting.step (h : Parting settings frames limit calm now side e) {m : Endpoint.Move}
    (hm : Exchange.isRelayed m = false) (hs : Endpoint.Step now e m e') :
    Parting settings frames limit calm now side e' := by
  have hkeeps : Keeps e e' := by
    apply Keeps.step hs
    rintro ticket rfl
    cases hm
  refine h.keep (.step hs) hkeeps.accepted hkeeps.waiting ?_
  intro hu hlimit
  exact hu.step hs h.accepted.courteous h.accepted.ledger.outgoing hlimit

/-- Time passes. -/
theorem Parting.later (h : Parting settings frames limit calm now side e) (hle : now ≤ now') :
    Parting settings frames limit calm now' side e where
  accepted := h.accepted
  done := h.done
  unhurried hside hcalm hlimit := h.unhurried hside hcalm (Nat.lt_of_le_of_lt hle hlimit)

/-! ### A refused session -/

/-- A refused session that is at ease only sometimes. -/
theorem Refused.mono (h : Refused settings frames limit calm t now s) (hcalm : calm' → calm) :
    Refused settings frames limit calm' t now s where
  stage := h.stage
  papers := h.papers
  dropped := h.dropped
  labels := h.labels
  dormant := h.dormant.mono fun _ _ hp =>
    ⟨hp.accepted, hp.done, fun hside h' => hp.unhurried hside (hcalm h')⟩

/-- A refused session prepares no more. -/
theorem Refused.notPreparing (h : Refused settings frames limit calm t now s) :
    s.isPreparing = false := by
  rcases h.stage with hs | hs <;> simp [isPreparing, hs]

/-- Something is done to an endpoint. -/
theorem Refused.onEndpoint (h : Refused settings frames limit calm t now s)
    {g : Endpoint → Endpoint} (hg : ∀ e, Parting settings frames limit calm now side e →
      Parting settings frames limit calm now side (g e)) :
    Refused settings frames limit calm t now (s.onEndpoint side g) where
  stage := h.stage
  papers := h.papers
  dropped := h.dropped
  labels := (labels_onEndpoint s side g).trans h.labels
  dormant := h.dormant.onEndpoint hg fun _ _ _ => id

/-- A move of a refused session. -/
theorem Refused.step (h : Refused settings frames limit calm t now s) {m : Move}
    (hstep : Step now s m u) : Refused settings frames limit calm t now u := by
  have hprep := h.notPreparing
  have hlabels := (labels_step hstep hprep).trans h.labels
  have hpapers := (papers_step hstep hprep).1
  have hlines : u.lines = s.lines := congrArg Papers.lines hpapers
  have hdropped {l : Line} (hl : l ∈ u.lines) : l.state.isPending = false :=
    h.dropped (hlines ▸ hl)
  cases hstep with
  | exchange hx =>
    exact ⟨h.stage, h.papers, h.dropped, hlabels, h.dormant.step hx fun hm hs hp => hp.step hm hs⟩
  | finished =>
    refine ⟨Or.inr rfl, hpapers.trans h.papers, hdropped, hlabels, ?_⟩
    have hdropped : Refused settings frames limit calm t now (s.onEndpoint .client dropInbound) := by
      apply h.onEndpoint
      intro e hp
      exact hp.keep .dropInbound rfl rfl fun hu _ => { hu with }
    exact hdropped.dormant.congr (Exchange.party?_note _ _) rfl
  | asked hs | learned hs | dialed hs | connected hs => simp [isPreparing, hs] at hprep
  | refused hr => simp [isPreparing_of_refuses hr] at hprep
  | notified hs | reported hs | left hs => rcases h.stage with h' | h' <;> simp [hs] at h'

/-- An event leaves a refused session refused. It may be at ease while the client's socket takes what
is written. -/
theorem Refused.after {s u : Station} (h : Refused settings frames limit calm t s.now s.session)
    {event : Event} (hu : s.after event = some u)
    (hflow : calm → ∀ flow, event = .setFlow .client flow → flow = .open) :
    Refused settings frames limit calm t u.now u.session := by
  cases event with
  | move m =>
    obtain ⟨v, hv, rfl⟩ := Option.map_eq_some_iff.mp hu
    exact h.step (step_of_perform hv)
  | arrive side a =>
    obtain rfl := Option.some.inj hu
    apply h.onEndpoint
    intro e hp
    refine ⟨hp.accepted.arrive a, hp.done, ?_⟩
    intro hside hcalm hlimit
    have hu := hp.unhurried hside hcalm hlimit
    exact { hu with }
  | setFlow side flow =>
    obtain rfl := Option.some.inj hu
    apply h.onEndpoint
    intro e hp
    refine ⟨hp.accepted.setFlow flow, hp.done, ?_⟩
    rintro rfl hcalm hlimit
    have hu := hp.unhurried rfl hcalm hlimit
    exact { hu with flow := hflow hcalm flow rfl }
  | answer reply =>
    obtain rfl := Option.some.inj hu
    dsimp only
    rw [answer_eq_self h.notPreparing]
    exact h
  | answerDial label problem =>
    obtain rfl := Option.some.inj hu
    dsimp only
    rcases answerDial_cases s.session label problem with heq | ⟨l, hl, hringing, -⟩
    · rw [heq]
      exact h
    · have hpending := h.dropped (exists_line hl).1
      simp [hringing, LineState.isPending] at hpending
  | stop =>
    obtain rfl := Option.some.inj hu
    refine ⟨h.stage, h.papers, h.dropped, (labels_cancel _ _).trans h.labels, ?_⟩
    refine dormant_cancel h.dormant ?_
    intro side e hp
    have hkeeps := Keeps.finish e s.now .scopeEnded
    refine hp.keep .cancel hkeeps.accepted hkeeps.waiting ?_
    intro hu _
    rw [Endpoint.cancel, finish_eq]
    exact { hu with }
  | tick nanos =>
    obtain rfl := Option.some.inj hu
    exact ⟨h.stage, h.papers, h.dropped, h.labels,
      h.dormant.mono fun _ _ hp => hp.later (Nat.le_add_right _ _)⟩

/-! ### The refusal -/

/-- When a session ends its scope and its client's endpoint, all its endpoints end. -/
theorem Departing.dismiss (h : Dormant (Departing settings frames limit calm) s.exchange)
    (hn : s.exchange.labels.Nodup) (hlimit : limit = now + settings.writeWait.toNanos) :
    Dormant (Parting settings frames limit calm now) (s.dismiss now).exchange := by
  have hannounced : Dormant (Departing settings frames limit calm)
      (s.announceStop now).exchange := by
    unfold announceStop
    split_ifs
    · rw [exchange_onClient]
      apply h.onEndpoint _ fun _ _ _ => id
      intro e hp
      have hkeeps := Keeps.close e now Wire.CloseCode.goingAway
      exact ⟨hp.accepted.keep (.close _ : Act now e _) hkeeps,
        fun hside hcalm => (hp.unhurried hside hcalm).close now _⟩
    · exact h
  have hcancelled : Dormant (fun side e => Departing settings frames limit calm side e ∧
      (side ≠ .client → e.isDone = true)) ((s.announceStop now).cancel now).exchange := by
    refine hannounced.cancelled.onChannels ?_ ?_ ?_
    · have hlabels : (s.announceStop now).exchange.labels.Nodup := by
        rw [labels_announceStop]
        exact hn
      exact hlabels
    · intro e hp
      exact ⟨hp, fun hside => absurd rfl hside⟩
    · intro label e hp
      refine ⟨⟨hp.accepted.cancel now, ?_⟩, ?_⟩
      · intro hside
        cases hside
      · intro _
        rw [Endpoint.cancel, finish_eq]
        rfl
  have hdismiss : (s.dismiss now).exchange
      = ((s.announceStop now).cancel now).exchange.onEndpoint .client (·.shutDown now) := rfl
  rw [hdismiss]
  refine hcancelled.onEndpoint ?_ ?_
  · rintro e ⟨hp, -⟩
    refine ⟨hp.accepted.keep (.shutDown : Act now e _) (Keeps.shutDown e now), ?_, ?_⟩
    · rw [Endpoint.shutDown, close_eq]
      rfl
    · intro hside hcalm _
      apply (hp.unhurried hside hcalm).shutDown
      rw [hlimit, Endpoint.writeWait, hp.accepted.settings_eq]
  · rintro side e hside ⟨hp, hdone⟩
    exact ⟨hp.accepted, hdone hside, fun hclient => absurd hclient hside⟩

/-- A session whose endpoints have accepted nothing is refused at once. The client's endpoint accepts
the notice if it is alive. -/
theorem refused_refuse (hx : Dormant (fun _ => HasAccepted settings []) s.exchange)
    (hn : s.exchange.labels.Nodup) (hroom : hasRoom settings = true) (f : Failure) (now : Nat) :
    ∃ frames, frames <+: [f.controlFrame] ∧ (IsAlive s.client → frames = [f.controlFrame]) ∧
      Refused settings frames (now + settings.writeWait.toNanos)
        (IsAlive s.client ∧ s.client.flow = .open) (s.refuse now f) now (s.refuse now f) := by
  have hclient : HasAccepted settings [] s.client := (hx.party (s := .client) rfl).2
  obtain ⟨success, frames, hsent, haccepted, hbegins, halive⟩ :=
    hclient.send hroom f.controlFrame
  have hsame : { s.dropLines with refusal := some f }.client = s.client :=
    congrArg Exchange.Party.endpoint (Exchange.client_onChannels s.exchange hn dropOwner)
  have hlet : Dormant (fun _ => HasAccepted settings []) s.dropLines.exchange := by
    unfold dropLines
    dsimp only
    rw [Exchange.onChannels_eq]
    refine Dormant.onSides _ ?_ hx
    intro side e hp
    exact hp.keep (.dropOwner : Act now e _) (Keeps.dropOwner e)
  have hinformed : Dormant (Departing settings frames (now + settings.writeWait.toNanos)
      (IsAlive s.client ∧ s.client.flow = .open))
      ({ s.dropLines with refusal := some f }.informed f).exchange := by
    have hnoted : Dormant (fun _ => HasAccepted settings [])
        ({ s.dropLines with refusal := some f }.note f.severity "session error").exchange :=
      hlet.congr (Exchange.party?_note _ _) rfl
    unfold informed
    rw [exchange_onClient]
    refine hnoted.onEndpoint ?_ ?_
    · intro e _
      rw [hsame]
      exact ⟨haccepted, fun _ hcalm => (Unhurried.of_isAlive hclient hcalm.1 hcalm.2 _).send _⟩
    · intro side e hside hp
      cases side with
      | client => exact absurd rfl hside
      | channel label => exact ⟨hp, fun hclient => absurd hclient hside⟩
  have hrefuse : s.refuse now f
      = ({ s.dropLines with refusal := some f }.informed f).dismiss now := by
    rcases tell_cases { s.dropLines with refusal := some f } f (·.dismiss now) .notifying with
      ⟨_, -, heq⟩ | ⟨ticket, hwaits, -⟩
    · exact heq
    · rw [hsame, hsent] at hwaits
      cases hwaits
  refine ⟨frames, hbegins, halive, ?_⟩
  refine ⟨?_, rfl, ?_, rfl, ?_⟩
  · rw [hrefuse]
    exact Or.inl rfl
  · intro l hl
    have hlines : (s.refuse now f).lines = s.lines.map Line.dropPending :=
      congrArg Papers.lines (papers_refuse s now f)
    rw [hlines] at hl
    obtain ⟨k, -, rfl⟩ := List.mem_map.mp hl
    unfold Line.dropPending
    split_ifs with hpending
    · rfl
    · exact Bool.of_not_eq_true hpending
  · rw [hrefuse]
    refine Departing.dismiss hinformed ?_ rfl
    rw [labels_informed]
    have hlabels : s.dropLines.exchange.labels = s.exchange.labels :=
      Exchange.labels_onChannels s.exchange dropOwner
    exact hlabels ▸ hn

/-! ### A session that prepares -/

/-- What the client's endpoint receives leaves the session dormant. -/
theorem dormant_afterFrame (hx : Dormant (fun _ => HasAccepted settings []) s.exchange)
    {receipt : Receipt} (hr : s.client.receive = (receipt, e)) :
    Dormant (fun _ => HasAccepted settings []) (s.afterFrame e).exchange ∧
      (IsAlive s.client → IsAlive e) ∧ e.flow = s.client.flow := by
  have hclient : HasAccepted settings [] s.client := (hx.party (s := .client) rfl).2
  have hact : Act 0 s.client s.client.receive.2 := .receive
  obtain rfl : s.client.receive.2 = e := congrArg Prod.snd hr
  have hkept : s.client.receive.2.accepted = s.client.accepted ∧
      s.client.receive.2.waiting = s.client.waiting ∧
      (IsAlive s.client → IsAlive s.client.receive.2) := by
    unfold Endpoint.receive
    split <;> exact ⟨rfl, rfl, fun h => ⟨h.notDone, h.writer_ne⟩⟩
  refine ⟨?_, hkept.2.2, (Follows.act hact).flow⟩
  unfold afterFrame
  rw [exchange_onClient]
  exact hx.onEndpoint (fun _ _ => hclient.act hact hkept.1 hkept.2.1) fun _ _ _ => id

/-- What is refused is dormant, with the client's endpoint as alive as before. -/
theorem Preparing.of_refuses (h : Preparing settings past s) {m : Move}
    (hr : Refuses now s m u f) : Dormant (fun _ => HasAccepted settings []) u.exchange ∧
      u.exchange.labels = s.exchange.labels ∧ (IsAlive s.client → IsAlive u.client) ∧
      u.client.flow = s.client.flow := by
  have hfailed : Dormant (fun _ => HasAccepted settings [])
      (s.exchange.onChannels (·.cancel now)) := by
    rw [Exchange.onChannels_eq]
    exact Dormant.onSides _ (fun _ _ hp => hp.cancel now) h.dormant
  have hclient : (s.exchange.onChannels (·.cancel now)).client = s.exchange.client :=
    Exchange.client_onChannels s.exchange h.lines.nodup (·.cancel now)
  cases hr with
  | notText _ hr | emptyToken _ hr | noAddress _ hr =>
    obtain ⟨hdormant, halive, hflow⟩ := dormant_afterFrame h.dormant hr
    exact ⟨hdormant, labels_onEndpoint s .client _, halive, hflow⟩
  | leadsNowhere | noConnection | noLineInTime =>
    have halive (h : IsAlive s.client) :
        IsAlive (s.exchange.onChannels (·.cancel now)).client.endpoint := by
      rw [hclient]
      exact h
    exact ⟨hfailed, Exchange.labels_onChannels s.exchange _, halive,
      congrArg (fun p => p.endpoint.flow) hclient⟩
  | noToken | noTokenInTime | rejected | unfit | noAnswerInTime | clientLeft | shuttingDown =>
    exact ⟨h.dormant, rfl, id, rfl⟩

/-- The exchange begins, complete, or the session goes on preparing. -/
theorem Preparing.joinWhenOpen (h : Preparing settings past s) :
    Preparing settings past s.joinWhenOpen ∨ Joined past s.joinWhenOpen := by
  rcases joinWhenOpen_cases s with ⟨hopen, heq⟩ | ⟨-, heq⟩
  · rw [heq]
    obtain ⟨hdistinct, hlabels, hdialed, hanswered⟩ := h.lines.complete hopen
    refine Or.inr ⟨rfl, h.refusal, hdistinct, ?_, hdialed, hanswered⟩
    rw [← Exchange.labels_begin] at hlabels
    exact hlabels
  · rw [heq]
    exact Or.inl h

/-- The exchange has a channel more. -/
theorem Preparing.addChannel (h : Preparing settings past s) {l : Line} (hl : l ∈ s.lines)
    (ha : l.state = .answered none) (now : Nat) :
    Preparing settings past (({ s with exchange := { s.exchange with
      channels := s.exchange.channels ++ [(l.label, .idle (s.openEndpoint now))] } } :
        Session).setLine l.label .open) := by
  have hopened : HasAccepted settings [] (s.openEndpoint now) := by
    unfold openEndpoint
    dsimp only
    rw [h.settings_eq]
    split_ifs
    · exact (HasAccepted.start settings now).cancel now
    · exact .start settings now
  exact ⟨h.isPreparing, h.refusal, h.settings_eq, h.lines.open hl ha (by simp [Exchange.labels]),
    h.dormant.addChannel hopened⟩

/-- A line opens. -/
theorem Preparing.openLine (h : Preparing settings past s) {l : Line} (hl : l ∈ s.lines)
    (ha : l.state = .answered none) (now : Nat) :
    Preparing settings past (s.openLine now l.label) ∨ Joined past (s.openLine now l.label) := by
  unfold Session.openLine
  exact (h.addChannel hl ha now).joinWhenOpen

/-- A move of a session that prepares. -/
theorem Preparing.step (h : Preparing settings past s) (hroom : hasRoom settings = true) {m : Move}
    (hstep : Step now s m t) : Preparing settings past t ∨ Joined past t ∨
      ∃ f, IsRefusal settings s.client f now t := by
  have hprep := h.isPreparing
  cases hstep with
  | exchange hx =>
    refine Or.inl ⟨h.isPreparing, h.refusal, h.settings_eq, ?_, ?_⟩
    · exact h.lines.congr rfl rfl rfl (Exchange.labels_eq (Exchange.shape_perform hx))
    · exact h.dormant.step hx fun hm hs hp => hp.step hm hs
  | asked hs hr =>
    obtain ⟨hdormant, -, -⟩ := dormant_afterFrame h.dormant hr
    exact Or.inl ⟨rfl, h.refusal, h.settings_eq,
      h.lines.congr rfl rfl rfl (labels_onEndpoint s .client _), hdormant⟩
  | @learned u reply token fields =>
    have hdialing : Preparing settings past { s with stage := .dialing, forwarded := some fields } :=
      ⟨rfl, h.refusal, h.settings_eq, h.lines.congr rfl rfl rfl rfl, h.dormant⟩
    rcases hdialing.joinWhenOpen with h | h
    · exact Or.inl h
    · exact Or.inr (Or.inl h)
  | @dialed l target _ hl =>
    have hready : l.state = .ready := by simpa using List.find?_some hl
    exact Or.inl ⟨h.isPreparing, h.refusal, h.settings_eq,
      h.lines.dial (List.mem_of_find?_eq_some hl) hready, h.dormant⟩
  | connected _ hl ha =>
    rcases h.openLine (exists_line hl).1 ha now with h | h
    · exact Or.inl h
    · exact Or.inr (Or.inl h)
  | @refused m u f hr =>
    obtain ⟨hdormant, hlabels, halive, hflow⟩ := h.of_refuses hr
    have hnodup : u.exchange.labels.Nodup := hlabels ▸ h.lines.nodup
    obtain ⟨frames, hbegins, htold, hrefused⟩ := refused_refuse hdormant hnodup hroom f now
    refine Or.inr (Or.inr ⟨f, congrArg Papers.refusal (papers_refuse u now f), frames, hbegins,
      fun h => htold (halive h), hrefused.mono ?_⟩)
    intro hcalm
    exact ⟨halive hcalm.1, hflow.trans hcalm.2⟩
  | notified hs | reported hs | left hs => simp [Session.isPreparing, hs] at hprep
  | finished hs => simp [isPreparing_of_isShutDown hs] at hprep

/-- An event leaves a session preparing, or the exchange begins, or the session is refused. -/
theorem Preparing.after {s u : Station} (h : Preparing settings past s.session)
    (hroom : hasRoom settings = true) {event : Event} (hu : s.after event = some u) :
    Preparing settings (past ++ [event]) u.session ∨ Joined (past ++ [event]) u.session ∨
      ∃ f, IsRefusal settings s.session.client f u.now u.session := by
  have hendpoint (side : Side) (g : Endpoint → Endpoint)
      (hg : ∀ e, HasAccepted settings [] e → HasAccepted settings [] (g e)) :
      Preparing settings (past ++ [event]) (s.session.onEndpoint side g) := by
    refine ⟨h.isPreparing, h.refusal, h.settings_eq, ?_, ?_⟩
    · exact (h.lines.concat event).congr rfl rfl rfl (labels_onEndpoint s.session side g)
    · exact h.dormant.onEndpoint hg fun _ _ _ => id
  cases event with
  | move m =>
    obtain ⟨v, hv, rfl⟩ := Option.map_eq_some_iff.mp hu
    rcases h.step hroom (step_of_perform hv) with h | h | h
    · exact Or.inl ⟨h.isPreparing, h.refusal, h.settings_eq, h.lines.concat _, h.dormant⟩
    · obtain ⟨hdistinct, hlabels, hdialed, hanswered⟩ := h.complete
      exact Or.inr (Or.inl ⟨h.notPreparing, h.refusal, hdistinct, hlabels, hdialed,
        fun hl => List.mem_append_left _ (hanswered hl)⟩)
    · exact Or.inr (Or.inr h)
  | arrive side a =>
    obtain rfl := Option.some.inj hu
    exact Or.inl (hendpoint side _ fun _ hp => hp.arrive a)
  | setFlow side flow =>
    obtain rfl := Option.some.inj hu
    exact Or.inl (hendpoint side _ fun _ hp => hp.setFlow flow)
  | answer reply =>
    obtain rfl := Option.some.inj hu
    have hlater := h.lines.concat (.answer reply)
    dsimp only
    unfold Session.answer
    split
    · next hs _ =>
      exact Or.inl ⟨h.isPreparing, h.refusal, h.settings_eq, hlater.congr rfl rfl rfl rfl, h.dormant⟩
    · exact Or.inl ⟨h.isPreparing, h.refusal, h.settings_eq, hlater, h.dormant⟩
  | answerDial label problem =>
    obtain rfl := Option.some.inj hu
    dsimp only
    rcases answerDial_cases s.session label problem with heq | ⟨l, hl, hringing, heq⟩
    · rw [heq]
      exact Or.inl ⟨h.isPreparing, h.refusal, h.settings_eq, h.lines.concat _, h.dormant⟩
    · rw [heq]
      obtain ⟨hmem, rfl⟩ := exists_line hl
      exact Or.inl ⟨h.isPreparing, h.refusal, h.settings_eq, h.lines.answer hmem hringing problem,
        h.dormant⟩
  | stop =>
    obtain rfl := Option.some.inj hu
    refine Or.inl ⟨h.isPreparing, h.refusal, h.settings_eq, ?_, ?_⟩
    · exact (h.lines.concat .stop).congr rfl rfl rfl (labels_cancel _ _)
    · exact dormant_cancel h.dormant fun _ _ hp => hp.cancel s.now
  | tick nanos =>
    obtain rfl := Option.some.inj hu
    exact Or.inl ⟨h.isPreparing, h.refusal, h.settings_eq, h.lines.concat _, h.dormant⟩

/-- A session whose exchange has begun stays complete. -/
theorem Joined.after {s u : Station} (h : Joined past s.session) {event : Event}
    (hu : s.after event = some u) : Joined (past ++ [event]) u.session := by
  obtain ⟨hdistinct, hlabels, hdialed, hanswered⟩ := h.complete
  obtain ⟨hpapers, hprep⟩ := papers_after hu h.notPreparing
  have hgate : u.session.gate = s.session.gate := congrArg Papers.gate hpapers
  have hcalls : u.session.dialed = s.session.dialed := congrArg Papers.dialed hpapers
  refine ⟨hprep, (congrArg Papers.refusal hpapers).trans h.refusal, ?_, ?_, ?_, ?_⟩
  · rwa [hgate]
  · rwa [hgate, labels_after hu h.notPreparing]
  · rwa [hgate, hcalls]
  · rw [hgate]
    exact fun hl => List.mem_append_left _ (hanswered hl)

end

/-! ### Every run -/

section

variable {settings : Settings} {frames : List Bytes} {limit now : Nat} {calm : Prop}
  {past events later : List Event} {r s t u : Station} {event : Event} {f : Failure}
  {c : Configuration} {gate : Gate} {headers : Http.Headers} {isStopping : Bool}

/-- The endpoints of a settled session are settled. -/
theorem Settled.exchange {s : Session} (h : Settled now s) : Exchange.Settled now s.exchange := by
  intro m
  have hnone := h (.exchange m)
  simpa [perform] using hnone

/-- A new session prepares. -/
theorem Preparing.start (hd : (gate.channels.map (·.1)).Nodup) :
    Preparing c.endpoint [] (start c gate headers isStopping now) := by
  refine ⟨rfl, rfl, rfl, .start c gate headers isStopping now hd, rfl, ?_⟩
  intro side p hp
  cases side with
  | client =>
    obtain rfl := Option.some.inj hp
    exact ⟨rfl, (HasAccepted.start c.endpoint now).act (.takeInbound : Act now _ _) rfl rfl⟩
  | channel label => cases hp

/-- Every event leads from a phase to the same or a later one. -/
theorem Phase.after (h : Phase settings past s) (hroom : hasRoom settings = true)
    (hu : s.after event = some u) : Phase settings (past ++ [event]) u := by
  cases h with
  | preparing h =>
    rcases h.after hroom hu with h | h | ⟨f, hf, frames, -, -, h⟩
    · exact .preparing h
    · exact .joined h
    · exact .refused hf (h.mono False.elim)
  | joined h => exact .joined (h.after hu)
  | @refused f frames limit t hf h =>
    have hpapers := (papers_after hu h.notPreparing).1
    exact .refused ((congrArg Papers.refusal hpapers).trans hf) (h.after hu fun h => h.elim)

/-- The phase of a session in a run. -/
theorem phase_of_run (hroom : hasRoom c.endpoint = true) (hd : (gate.channels.map (·.1)).Nodup)
    (hrun : Station.run ⟨now, start c gate headers isStopping now⟩ events = some s) :
    Phase c.endpoint events s := by
  have hstart : Phase c.endpoint [] ⟨now, start c gate headers isStopping now⟩ :=
    .preparing (.start hd)
  exact run_invariant (fun h hu => h.after hroom hu) hstart hrun

/-- A refused session stays refused. -/
theorem Refused.run {t : Session} : ∀ {s : Station},
    Refused settings frames limit calm t s.now s.session → s.run later = some u →
    (calm → ∀ flow, .setFlow .client flow ∈ later → flow = .open) →
    Refused settings frames limit calm t u.now u.session := by
  induction later with
  | nil =>
    intro s h hrun _
    obtain rfl := Option.some.inj hrun
    exact h
  | cons event later ih =>
    intro s h hrun hflow
    obtain ⟨v, hv, hrest⟩ := Option.bind_eq_some_iff.mp hrun
    refine ih (h.after hv ?_) hrest ?_
    · rintro hcalm flow rfl
      exact hflow hcalm flow List.mem_cons_self
    · intro hcalm flow hmem
      exact hflow hcalm flow (List.mem_cons_of_mem _ hmem)

/-- What is left of a refused session. -/
theorem Refused.abandoned (h : Refused settings frames limit calm t.session s.now s.session)
    (hf : t.session.refusal = some f) (hbegins : frames <+: [f.controlFrame]) :
    Abandoned f t s where
  refusal := (congrArg Papers.refusal h.papers).trans hf
  papers := h.papers
  labels := h.labels
  dropped := h.dropped
  notRunning := h.dormant.notRunning
  unwritten hp := List.prefix_nil.mp (h.dormant.party hp).2.accepted.framesWritten
  ended hp := by
    obtain ⟨-, haccepted, hdone, -⟩ := h.dormant.party hp
    refine ⟨hdone, ?_⟩
    intro hsettled
    have hmoves (m : Endpoint.Move) (hm : Exchange.isRelayed m = false) :=
      hsettled.exchange.endpoint hp hm
    exact ⟨reader_eq_stopped hdone (hmoves .stopReading rfl),
      haccepted.courteous.stopped_or_suspended haccepted.ledger.outgoing hdone
        (hmoves .stopWriting rfl) (hmoves .write rfl) (hmoves .expireWrite rfl)⟩
  told := by
    obtain ⟨said, closing, hspoken, hsaid, hclosing⟩ :=
      (h.dormant.party (s := .client) rfl).2.accepted.spoken
    exact ⟨said, closing, hspoken, hsaid.trans hbegins, hclosing⟩

/-- A client that is at ease is told everything before the time is over. -/
theorem Refused.spoken_eq {t : Session}
    (h : Refused settings frames limit calm t s.now s.session) (hcalm : calm)
    (hlimit : s.now < limit) (hsettled : Settled s.now s.session) :
    ∃ code, s.session.client.spoken = frames.map .ofFrame ++ [.closing code ""] := by
  have hclient : s.session.exchange.party? .client = some s.session.exchange.client := rfl
  obtain ⟨-, haccepted, hdone, hunhurried⟩ := h.dormant.party hclient
  have hu := hunhurried rfl hcalm hlimit
  have hmoves (m : Endpoint.Move) (hm : Exchange.isRelayed m = false) :=
    hsettled.exchange.endpoint hclient hm
  have hstopped : s.session.client.writer = .stopped := by
    rcases haccepted.courteous.stopped_or_suspended haccepted.ledger.outgoing hdone
      (hmoves .stopWriting rfl) (hmoves .write rfl) (hmoves .expireWrite rfl) with h | ⟨h, -⟩
    · exact h
    · simp [hu.flow] at h
  obtain ⟨code, hspoken⟩ := haccepted.courteous.spoken_of_stopped haccepted.ledger.outgoing
    hstopped hu.mishaps hu.pingPeriod
  have hframes : s.session.client.accepted.map (·.frame) = frames := haccepted.accepted_eq
  refine ⟨code, ?_⟩
  rw [← hframes, List.map_map]
  exact hspoken

/-- A session that is refused by an event has just been refused. -/
theorem Phase.isRefusal (h : Phase settings past r) (hroom : hasRoom settings = true)
    (hnone : r.session.refusal = none) (ht : r.after event = some t)
    (hf : t.session.refusal = some f) :
    IsRefusal settings r.session.client f t.now t.session := by
  cases h with
  | refused hf' => simp [hnone] at hf'
  | joined h => simp [(h.after ht).refusal] at hf
  | preparing h =>
    rcases h.after hroom ht with h | h | ⟨f', h⟩
    · simp [h.refusal] at hf
    · simp [h.refusal] at hf
    · obtain rfl : f' = f := Option.some.inj (h.refusal.symm.trans hf)
      exact h

/-- What is left of a session that has just been refused, and what its client is told. -/
theorem IsRefusal.abandoned {before : Endpoint}
    (h : IsRefusal settings before f t.now t.session) (hlater : t.run later = some s) :
    Abandoned f t s ∧
      (IsAlive before → before.flow = .open →
        (∀ flow, .setFlow .client flow ∈ later → flow = .open) → Settled s.now s.session →
        s.now < t.now + settings.writeWait.toNanos →
        ∃ code, s.session.client.spoken = [.ofFrame f.controlFrame, .closing code ""]) := by
  obtain ⟨frames, hbegins, htold, hrefused⟩ := h.told
  refine ⟨((hrefused.mono False.elim).run hlater False.elim).abandoned h.refusal hbegins, ?_⟩
  intro halive hopen hflow hsettled hlimit
  have hleft := hrefused.run hlater fun _ => hflow
  obtain ⟨code, hspoken⟩ := hleft.spoken_eq ⟨halive, hopen⟩ hlimit hsettled
  rw [htold halive] at hspoken
  exact ⟨code, hspoken⟩

/-- In every run the exchange goes on only when it is complete: every channel of the gate was dialed
once, was answered and has one endpoint, and no other. And when a session is refused, all that is
left of it from then on is abandoned: no channel is written anything, all end, none is added, and the
client is told at most the failure, before it is closed. It is told that failure if its endpoint was
alive before and its socket takes what is written: in every settled state within a write's time.

Without room in its queues no endpoint begins, and the labels of a gate that was read from a file
are different (`Registry.nodup_labels_of_parse`). -/
theorem refused_of_run (hroom : hasRoom c.endpoint = true)
    (hd : (gate.channels.map (·.1)).Nodup)
    (hrun : Station.run ⟨now, start c gate headers isStopping now⟩ events = some r) :
    (r.session.exchange.isRunning = true → IsComplete events r.session) ∧
    ∀ {event t f later s}, r.session.refusal = none → r.after event = some t →
      t.session.refusal = some f → t.run later = some s →
      Abandoned f t s ∧
      (IsAlive r.session.client → r.session.client.flow = .open →
        (∀ flow, .setFlow .client flow ∈ later → flow = .open) → Settled s.now s.session →
        s.now < t.now + c.endpoint.writeWait.toNanos →
        ∃ code, s.session.client.spoken = [.ofFrame f.controlFrame, .closing code ""]) := by
  have hphase := phase_of_run hroom hd hrun
  refine ⟨?_, ?_⟩
  · intro hrunning
    cases hphase with
    | preparing h => simp [h.dormant.notRunning] at hrunning
    | refused _ h => simp [h.dormant.notRunning] at hrunning
    | joined h => exact h.complete
  · intro event t f later s hnone ht hf hlater
    exact (hphase.isRefusal hroom hnone ht hf).abandoned hlater

/-- A gate with two channels. -/
def twoChannels : Gate := ⟨"gate", [("a", channelUrl), ("b", channelUrl)]⟩

/-- Both channels are dialed, the first one opens, and the second one is answered. -/
def bothDialed (problem : Option Wire.SocketError) : List Event :=
  admitted ++ [.move .dial, .answerDial "a" none, .move (.connect "a"), .answerDial "b" problem]

/-- The endpoints of the client and of the first channel end. -/
def bothEnd : List Event :=
  moves .client ([.stopReading, .stopWriting] ++ List.replicate 7 .write ++ [.join, .join]) ++
    moves (.channel "a") ([.stopReading, .stopWriting] ++ List.replicate 4 .write) ++
    [.move .finish]

/-- Two channels are there when both have opened. When the second one does not open, the client is
told, and the first one ends. -/
theorem refused_of_run_twoChannels :
    (∃ r, Station.run ⟨0, start localResolver twoChannels .empty false 0⟩
        (bothDialed none ++ [.move (.connect "b")]) = some r ∧
      IsComplete (bothDialed none ++ [.move (.connect "b")]) r.session) ∧
    ∃ r t f s, Station.run ⟨0, start localResolver twoChannels .empty false 0⟩
        (bothDialed (some .alreadyClosed)) = some r ∧
      r.after (.move (.connect "b")) = some t ∧ t.session.refusal = some f ∧
      t.run bothEnd = some s ∧ Abandoned f t s ∧
      ∃ code, s.session.client.spoken = [.ofFrame f.controlFrame, .closing code ""] := by
  have hroom : hasRoom localResolver.endpoint = true := by decide
  have hd : (twoChannels.channels.map (·.1)).Nodup := by decide
  constructor
  · have hjoined : ∃ r ∈ Station.run ⟨0, start localResolver twoChannels .empty false 0⟩
        (bothDialed none ++ [.move (.connect "b")]), r.session.exchange.isRunning = true := by
      decide +kernel
    obtain ⟨r, hr, hrunning⟩ := hjoined
    exact ⟨r, hr, (refused_of_run hroom hd hr).1 hrunning⟩
  · have hrefused : ∃ r ∈ Station.run ⟨0, start localResolver twoChannels .empty false 0⟩
        (bothDialed (some .alreadyClosed)), r.session.refusal.isNone = true ∧
          IsAlive r.session.client ∧ r.session.client.flow = .open ∧
          ∃ t ∈ r.after (.move (.connect "b")), t.session.refusal.isSome = true ∧
            ∃ s ∈ t.run bothEnd, Settled s.now s.session ∧
              s.now < t.now + localResolver.endpoint.writeWait.toNanos := by
      decide +kernel
    obtain ⟨r, hr, hnone, halive, hopen, t, ht, hsome, s, hs, hsettled, hlimit⟩ := hrefused
    obtain ⟨f, hf⟩ := Option.isSome_iff_exists.mp hsome
    obtain ⟨habandoned, htold⟩ :=
      (refused_of_run hroom hd hr).2 (Option.isNone_iff_eq_none.mp hnone) ht hf hs
    have hflow : ∀ flow, Event.setFlow .client flow ∈ bothEnd → flow = .open := by
      intro flow hmem
      simp [bothEnd, moves] at hmem
    exact ⟨r, t, f, s, hr, ht, hf, hs, habandoned, htold halive hopen hflow hsettled hlimit⟩

end

end Session

end Switchboard
