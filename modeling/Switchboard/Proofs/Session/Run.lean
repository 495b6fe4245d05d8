import Switchboard.Proofs.Exchange.Dormant
import Switchboard.Proofs.Exchange.Run
import Switchboard.Proofs.Session.Step
/-!
# Runs of a session

A run is any sequence of events: moves of the parts of a session in any order in which they are
possible, with anything between them that comes from outside. Messages arrive, sockets suspend or
fail or go on, the resolver and the channels answer or do not, the switchboard is shut down, and the
clock moves.

What a session does to its endpoints leaves its papers alone (`Papers`). Once it prepares no more
they stay as they are, apart from its lines, and it never prepares again (`papers_after`).
-/

namespace Switchboard.Session

open Exchange (Side Dormant)

/-! ### Events -/

/-- What happens to a session. -/
inductive Event
  /-- A part of the session moves. -/
  | move (m : Move)
  /-- Something arrives at a socket. -/
  | arrive (side : Side) (a : Wire.Arrival)
  /-- A socket changes how it takes what is written. -/
  | setFlow (side : Side) (flow : Wire.Flow)
  /-- The resolver's answer comes, or it is clear that none will. -/
  | answer (reply : Option Resolver.Reply)
  /-- The answer to a dial comes, or it is clear why none will. -/
  | answerDial (label : String) (problem : Option Wire.SocketError)
  /-- The switchboard is shut down. -/
  | stop
  /-- Time passes. -/
  | tick (nanos : Nat)
  deriving DecidableEq, Repr

/-- A session and a clock. -/
structure Station where
  now : Nat
  session : Session

/-- What an event makes of a session and its clock, where it is possible. -/
def Station.after (s : Station) : Event → Option Station
  | .move m => (s.session.perform s.now m).map fun t => { s with session := t }
  | .arrive side a => some { s with session := s.session.onEndpoint side (·.arrive a) }
  | .setFlow side flow => some { s with session := s.session.onEndpoint side (·.setFlow flow) }
  | .answer reply => some { s with session := s.session.answer reply }
  | .answerDial label problem => some { s with session := s.session.answerDial label problem }
  | .stop => some { s with session := s.session.stop s.now }
  | .tick nanos => some { s with now := s.now + nanos }

/-- What a sequence of events makes of a session and its clock. -/
def Station.run (s : Station) : List Event → Option Station
  | [] => some s
  | event :: events => (s.after event).bind (·.run events)

/-- The frames of the data messages that arrive from the client. -/
def arrived (events : List Event) : List Bytes :=
  events.flatMap fun
    | .arrive .client a => a.frame?.toList
    | _ => []

/-- Events after events. -/
theorem Station.run_append {s u : Station} {events later : List Event}
    (h : s.run (events ++ later) = some u) : ∃ t, s.run events = some t ∧ t.run later = some u := by
  induction events generalizing s with
  | nil => exact ⟨s, rfl, h⟩
  | cons event events ih =>
    obtain ⟨t, ht, hrest⟩ := Option.bind_eq_some_iff.mp h
    obtain ⟨v, hv, hlater⟩ := ih hrest
    exact ⟨v, Option.bind_eq_some_iff.mpr ⟨t, ht, hv⟩, hlater⟩

/-- Further events go on from where the first ones have led. -/
theorem Station.run_of_append {s t : Station} {events : List Event} (h : s.run events = some t)
    (later : List Event) : s.run (events ++ later) = t.run later := by
  induction events generalizing s with
  | nil =>
    obtain rfl := Option.some.inj h
    rfl
  | cons event events ih =>
    obtain ⟨u, hu, hrest⟩ := Option.bind_eq_some_iff.mp h
    rw [List.cons_append, Station.run, hu, Option.bind_some, ih hrest]

/-- What holds of the events so far and of the state they led to, and is kept by every event, holds
along every run. -/
theorem run_invariant {P : List Event → Station → Prop}
    (hafter : ∀ {past event s t}, P past s → s.after event = some t → P (past ++ [event]) t)
    {events : List Event} : ∀ {past : List Event} {s t : Station}, P past s →
      s.run events = some t → P (past ++ events) t := by
  induction events with
  | nil =>
    intro past s t h hrun
    obtain rfl := Option.some.inj hrun
    rwa [List.append_nil]
  | cons event events ih =>
    intro past s t h hrun
    obtain ⟨u, hu, hrest⟩ := Option.bind_eq_some_iff.mp hrun
    have hnext := ih (hafter h hu) hrest
    rwa [List.append_assoc] at hnext

/-- What every event keeps holds along every run. -/
theorem run_keeps {P : Station → Prop}
    (hafter : ∀ {s t event}, P s → s.after event = some t → P t) {events : List Event}
    {s t : Station} (hs : P s) (hrun : s.run events = some t) : P t := by
  induction events generalizing s with
  | nil =>
    obtain rfl := Option.some.inj hrun
    exact hs
  | cons event events ih =>
    obtain ⟨u, hu, hrest⟩ := Option.bind_eq_some_iff.mp hrun
    exact ih (hafter hs hu) hrest

/-- A session moves, or something comes from outside. -/
theorem step_or_outside {s t : Station} {event : Event} (h : s.after event = some t) :
    (∃ m u, event = .move m ∧ Step s.now s.session m u ∧ t = { s with session := u }) ∨
      ∀ m, event ≠ .move m := by
  by_cases hm : ∃ m, event = .move m
  · obtain ⟨m, rfl⟩ := hm
    obtain ⟨u, hu, rfl⟩ := Option.map_eq_some_iff.mp h
    exact Or.inl ⟨m, u, rfl, step_of_perform hu, rfl⟩
  · exact Or.inr fun m heq => hm ⟨m, heq⟩

/-! ### Settled states can be recognized -/

/-- The moves that may be possible. -/
def order (s : Session) : List Move :=
  s.exchange.order.map .exchange ++
    [.listen, .learn, .dial, .expire, .loseClient, .loseScope, .notify, .close, .finish] ++
    s.lines.map (.connect ·.label) ++ s.lines.map (.expireDial ·.label)

/-- A line is found under its label. -/
theorem exists_line {s : Session} {label : String} {l : Line} (h : s.line? label = some l) :
    l ∈ s.lines ∧ l.label = label :=
  ⟨List.mem_of_find?_eq_some h, by simpa using List.find?_some h⟩

/-- Every move that is possible is among those that may be. -/
theorem mem_order {s : Session} {now : Nat} {m : Move} (h : s.perform now m ≠ none) :
    m ∈ s.order := by
  unfold order
  cases m with
  | exchange move =>
    have hmove : s.exchange.perform now move ≠ none := by
      intro hnone
      simp [perform, hnone] at h
    simp [Exchange.mem_order hmove]
  | connect label =>
    cases hl : s.line? label with
    | none => simp [perform, hl] at h
    | some l =>
      obtain ⟨hmem, rfl⟩ := exists_line hl
      simp only [List.mem_append, List.mem_map]
      exact Or.inl (Or.inr ⟨l, hmem, rfl⟩)
  | expireDial label =>
    cases hl : s.line? label with
    | none => simp [perform, hl] at h
    | some l =>
      obtain ⟨hmem, rfl⟩ := exists_line hl
      simp only [List.mem_append, List.mem_map]
      exact Or.inr ⟨l, hmem, rfl⟩
  | _ => simp

/-- A session is settled when none of the moves that may be possible is. -/
theorem settled_iff {s : Session} {now : Nat} :
    Settled now s ↔ ∀ m ∈ s.order, (s.perform now m).isNone = true := by
  constructor
  · intro h m _
    rw [h m]
    rfl
  · intro h m
    by_contra hm
    exact hm (Option.isNone_iff_eq_none.mp (h m (mem_order hm)))

instance {now : Nat} {s : Session} : Decidable (Settled now s) := decidable_of_iff' _ settled_iff

/-! ### Papers -/

/-- What a session was given and what it has found out and done, apart from its endpoints. -/
structure Papers where
  configuration : Configuration
  gate : Gate
  headers : Http.Headers
  born : Nat
  lines : List Line
  asked : List String
  reply : Option (Option Resolver.Reply)
  forwarded : Option Http.Headers
  dialed : List Call
  refusal : Option Failure

/-- The papers of a session. -/
def papers (s : Session) : Papers :=
  ⟨s.configuration, s.gate, s.headers, s.born, s.lines, s.asked, s.reply, s.forwarded, s.dialed,
    s.refusal⟩

/-- A session that has sent the notice of a failure to its client. -/
def informed (s : Session) (f : Failure) : Session :=
  (s.note f.severity "session error").onClient fun _ => (s.client.send f.controlFrame).2

section

variable {s t : Session} {now : Nat} {f : Failure}

/-- The notice of a failure is accepted or refused, or it waits. -/
theorem tell_cases (s : Session) (f : Failure) (onward : Session → Session) (wait : Nat → Stage) :
    (∃ success, (s.client.send f.controlFrame).1 = .finished success ∧
      s.tell f onward wait = onward (s.informed f)) ∨
    ∃ ticket, (s.client.send f.controlFrame).1 = .waits ticket ∧
      s.tell f onward wait = { s.informed f with stage := wait ticket } := by
  unfold tell informed
  have hclient : (s.note f.severity "session error").client = s.client := rfl
  dsimp only
  rw [hclient]
  rcases s.client.send f.controlFrame with ⟨success | ticket, e⟩
  · exact Or.inl ⟨success, rfl, rfl⟩
  · exact Or.inr ⟨ticket, rfl, rfl⟩

/-- Papers that are the same hold the same lines. -/
theorem papers_lines (h : t.papers = s.papers) :
    t.papers = { s.papers with lines := t.lines } := by
  have hlines : t.lines = s.lines := congrArg Papers.lines h
  rw [h, hlines]
  rfl

/-- The client is told that the switchboard is shut down. -/
@[simp] theorem papers_announceStop (s : Session) (now : Nat) :
    (s.announceStop now).papers = s.papers := by
  unfold announceStop
  split_ifs <;> rfl

/-- The session begins to wait for the client's endpoint. -/
@[simp] theorem papers_dismiss (s : Session) (now : Nat) : (s.dismiss now).papers = s.papers :=
  papers_announceStop s now

/-- The session begins to wait for all endpoints. -/
@[simp] theorem papers_closeAll (s : Session) (now : Nat) : (s.closeAll now).papers = s.papers :=
  papers_announceStop s now

/-- A refusal lets go of the lines and says why. -/
theorem papers_refuse (s : Session) (now : Nat) (f : Failure) : (s.refuse now f).papers =
    { s.papers with lines := s.lines.map Line.dropPending, refusal := some f } := by
  rcases tell_cases { s.dropLines with refusal := some f } f (·.dismiss now) .notifying with
    ⟨success, -, h⟩ | ⟨ticket, -, h⟩
  · rw [refuse, h, papers_dismiss]
    rfl
  · rw [refuse, h]
    rfl

/-- A session that is refused prepares no more. -/
theorem isPreparing_refuse (s : Session) (now : Nat) (f : Failure) :
    (s.refuse now f).isPreparing = false := by
  rcases tell_cases { s.dropLines with refusal := some f } f (·.dismiss now) .notifying with
    ⟨success, -, h⟩ | ⟨ticket, -, h⟩ <;>
  · rw [refuse, h]
    rfl

/-- A session that finds everything closed prepares no more. -/
theorem isPreparing_of_isShutDown (h : s.isShutDown = true) : s.isPreparing = false := by
  unfold isShutDown at h
  unfold isPreparing
  cases hs : s.stage <;> simp_all

/-- The end of an exchange changes no papers. -/
theorem papers_leave (s : Session) (now : Nat) :
    (s.leave now).papers = s.papers ∧ (s.leave now).isPreparing = false := by
  unfold leave
  split
  · next f _ =>
    rcases tell_cases s f (·.closeAll now) .reporting with ⟨success, -, h⟩ | ⟨ticket, -, h⟩
    · rw [h, papers_closeAll]
      exact ⟨rfl, rfl⟩
    · rw [h]
      exact ⟨rfl, rfl⟩
  · exact ⟨papers_closeAll s now, rfl⟩

/-- The exchange begins, or a line is not open. -/
theorem joinWhenOpen_cases (s : Session) :
    ((∀ l ∈ s.lines, l.state = .open) ∧ s.joinWhenOpen =
      { s with stage := .joined, exchange := s.exchange.begin }.note .info "session routing") ∨
    (∃ l ∈ s.lines, l.state ≠ .open) ∧ s.joinWhenOpen = s := by
  unfold joinWhenOpen
  split_ifs with h
  · refine Or.inl ⟨?_, rfl⟩
    simpa using h
  · refine Or.inr ⟨?_, rfl⟩
    simpa using h

/-- A line that is answered changes the lines alone. -/
theorem answerDial_cases (s : Session) (label : String) (problem : Option Wire.SocketError) :
    s.answerDial label problem = s ∨ ∃ l, s.line? label = some l ∧ l.state = .ringing ∧
      s.answerDial label problem = s.setLine label (.answered problem) := by
  unfold answerDial
  split
  · next l hl =>
    split_ifs with hstate
    · exact Or.inr ⟨l, hl, hstate, rfl⟩
    · exact Or.inl rfl
  · exact Or.inl rfl

/-! ### After the preparations -/

/-- Only a session that prepares is refused. -/
theorem isPreparing_of_refuses {m : Move} (h : Refuses now s m t f) : s.isPreparing = true := by
  cases h with
  | clientLeft hs | shuttingDown hs => exact hs
  | notText hs | emptyToken hs | noAddress hs | noToken hs | noTokenInTime hs | rejected hs
  | unfit hs | noAnswerInTime hs | leadsNowhere hs | noConnection hs | noLineInTime hs =>
    simp [isPreparing, hs]

/-- An answer of the resolver is for a session that prepares. -/
theorem answer_eq_self (hs : s.isPreparing = false) (reply : Option Resolver.Reply) :
    s.answer reply = s := by
  unfold answer
  split
  · next u heq _ => simp [isPreparing, heq] at hs
  · rfl

/-- A move of a session that prepares no more. -/
theorem papers_step {m : Move} (h : Step now s m t) (hs : s.isPreparing = false) :
    t.papers = s.papers ∧ t.isPreparing = false := by
  cases h with
  | exchange => exact ⟨rfl, hs⟩
  | asked heq | learned heq | dialed heq | connected heq => simp [isPreparing, heq] at hs
  | refused h => simp [isPreparing_of_refuses h] at hs
  | notified =>
    rw [papers_dismiss]
    exact ⟨rfl, rfl⟩
  | reported =>
    rw [papers_closeAll]
    exact ⟨rfl, rfl⟩
  | left => exact papers_leave s now
  | finished => exact ⟨rfl, rfl⟩

end

/-- A session that prepares no more never does again, and its papers stay as they are, apart from
its lines. -/
theorem papers_after {s t : Station} {event : Event} (h : s.after event = some t)
    (hs : s.session.isPreparing = false) :
    t.session.papers = { s.session.papers with lines := t.session.lines } ∧
      t.session.isPreparing = false := by
  cases event with
  | move m =>
    obtain ⟨u, hu, rfl⟩ := Option.map_eq_some_iff.mp h
    obtain ⟨hpapers, hpreparing⟩ := papers_step (step_of_perform hu) hs
    exact ⟨papers_lines hpapers, hpreparing⟩
  | arrive | setFlow | stop | tick =>
    obtain rfl := Option.some.inj h
    exact ⟨rfl, hs⟩
  | answer reply =>
    obtain rfl := Option.some.inj h
    dsimp only
    rw [answer_eq_self hs]
    exact ⟨rfl, hs⟩
  | answerDial label problem =>
    obtain rfl := Option.some.inj h
    dsimp only
    rcases answerDial_cases s.session label problem with heq | ⟨l, -, -, heq⟩
    · rw [heq]
      exact ⟨rfl, hs⟩
    · rw [heq]
      exact ⟨rfl, hs⟩

/-! ### The channels -/

section

variable {s t : Session} {now : Nat}

/-- What is done to the client's endpoint is done in the exchange. -/
theorem exchange_onClient (s : Session) (f : Endpoint → Endpoint) :
    (s.onClient f).exchange = s.exchange.onEndpoint .client f := rfl

/-- The scope of a session whose exchange has not begun ends. -/
theorem dormant_cancel {Q : Side → Endpoint → Prop} (h : Dormant Q s.exchange)
    (hQ : ∀ side e, Q side e → Q side (e.cancel now)) : Dormant Q (s.cancel now).exchange := by
  unfold cancel
  rw [Exchange.onChannels_eq]
  exact Dormant.onSides _ hQ h.cancelled

@[simp] theorem labels_onEndpoint (s : Session) (side : Side) (f : Endpoint → Endpoint) :
    (s.onEndpoint side f).exchange.labels = s.exchange.labels :=
  Exchange.labels_onEndpoint s.exchange side f

@[simp] theorem labels_cancel (s : Session) (now : Nat) :
    (s.cancel now).exchange.labels = s.exchange.labels :=
  Exchange.labels_onChannels _ _

@[simp] theorem labels_announceStop (s : Session) (now : Nat) :
    (s.announceStop now).exchange.labels = s.exchange.labels := by
  unfold announceStop
  split_ifs
  · exact labels_onEndpoint s .client _
  · rfl

@[simp] theorem labels_dismiss (s : Session) (now : Nat) :
    (s.dismiss now).exchange.labels = s.exchange.labels := by
  unfold dismiss onClient
  simp

@[simp] theorem labels_closeAll (s : Session) (now : Nat) :
    (s.closeAll now).exchange.labels = s.exchange.labels := by
  unfold closeAll
  simp

@[simp] theorem labels_informed (s : Session) (f : Failure) :
    (s.informed f).exchange.labels = s.exchange.labels :=
  labels_onEndpoint (s.note f.severity "session error") .client _

@[simp] theorem labels_leave (s : Session) (now : Nat) :
    (s.leave now).exchange.labels = s.exchange.labels := by
  unfold leave
  split
  · next f _ =>
    rcases tell_cases s f (·.closeAll now) .reporting with ⟨success, -, h⟩ | ⟨ticket, -, h⟩ <;>
      rw [h] <;> simp
  · simp

/-- A session that prepares no more gets no channels. -/
theorem labels_step {m : Move} (h : Step now s m t) (hs : s.isPreparing = false) :
    t.exchange.labels = s.exchange.labels := by
  cases h with
  | exchange hx => exact Exchange.labels_eq (Exchange.shape_perform hx)
  | asked heq | learned heq | dialed heq | connected heq => simp [isPreparing, heq] at hs
  | refused h => simp [isPreparing_of_refuses h] at hs
  | notified | reported =>
    unfold onClient
    simp
  | left => exact labels_leave s now
  | finished => exact labels_onEndpoint s .client Endpoint.dropInbound

end

/-- A session that prepares no more keeps its channels. -/
theorem labels_after {s t : Station} {event : Event} (h : s.after event = some t)
    (hs : s.session.isPreparing = false) :
    t.session.exchange.labels = s.session.exchange.labels := by
  cases event with
  | move m =>
    obtain ⟨u, hu, rfl⟩ := Option.map_eq_some_iff.mp h
    exact labels_step (step_of_perform hu) hs
  | arrive side | setFlow side =>
    obtain rfl := Option.some.inj h
    exact labels_onEndpoint s.session side _
  | stop =>
    obtain rfl := Option.some.inj h
    exact labels_cancel _ s.now
  | tick =>
    obtain rfl := Option.some.inj h
    rfl
  | answer reply =>
    obtain rfl := Option.some.inj h
    dsimp only
    unfold answer
    split <;> rfl
  | answerDial label problem =>
    obtain rfl := Option.some.inj h
    dsimp only
    rcases answerDial_cases s.session label problem with heq | ⟨l, -, -, heq⟩ <;> rw [heq]
    rfl

end Switchboard.Session
