import Switchboard.Board
import Switchboard.Proofs.Session.Ending
/-!
# Runs of the switchboard

Clients enter, their sessions go on side by side, and the switchboard may be shut down, for all of
them at once. Whatever happens, each session is in a run of its own (`HasRun`), and the number of
those that are going on is the one that is counted (`Counted`).
-/

namespace Switchboard

namespace Front

/-- A client that is let in is let in to a gate of the registry. -/
theorem mem_gates_of_upgrade {registry : Registry} {active : Nat} {hasConnection : Bool}
    {r : Http.Request} {gate : Gate} (h : answer registry active hasConnection r = .upgrade gate) :
    gate ∈ registry.gates := by
  unfold answer at h
  split at h
  · cases h
  · cases h
  · split_ifs at h
    split at h
    · cases h
    · next name _ _ gate' hvisit =>
      obtain rfl := Outcome.upgrade.inj h
      unfold visit at hvisit
      split at hvisit
      · cases hvisit
      · split at hvisit
        · cases hvisit
        · next gate' hfound =>
          split at hvisit
          · cases hvisit
          · obtain rfl := Outcome.upgrade.inj hvisit
            unfold Registry.find at hfound
            split at hfound
            · next hgate =>
              obtain rfl := Except.ok.inj hfound
              exact List.mem_of_find?_eq_some hgate
            · cases hfound

end Front

namespace Board

/-! ### Events -/

/-- What happens to the switchboard. -/
inductive Event
  /-- A client asks for its connection to become a WebSocket. -/
  | enter (r : Http.Request)
  /-- Something happens to the session at a place. -/
  | session (i : Nat) (event : Session.Event)
  /-- The switchboard is shut down. -/
  | stop
  /-- Time passes. -/
  | tick (nanos : Nat)

/-- The switchboard and a clock. -/
structure Station where
  now : Nat
  board : Board

/-- What an event makes of the switchboard and its clock, where it is possible. No session has a
clock of its own, or is alone in learning that the switchboard is shut down. -/
def Station.after (s : Station) : Event → Option Station
  | .enter r =>
    match s.board.answer true r with
    | .upgrade gate => some { s with board := s.board.enter s.now gate r.headers }
    | .respond _ => none
  | .session i (.move m) => (s.board.perform s.now i m).map fun b => { s with board := b }
  | .session i (.arrive side a) =>
    some { s with board := s.board.onSession i (·.onEndpoint side (·.arrive a)) }
  | .session i (.setFlow side flow) =>
    some { s with board := s.board.onSession i (·.onEndpoint side (·.setFlow flow)) }
  | .session i (.answer reply) => some { s with board := s.board.onSession i (·.answer reply) }
  | .session i (.answerDial label problem) =>
    some { s with board := s.board.onSession i (·.answerDial label problem) }
  | .session _ .stop => none
  | .session _ (.tick _) => none
  | .stop => some { s with board := s.board.stop s.now }
  | .tick nanos => some { s with now := s.now + nanos }

/-- What a sequence of events makes of the switchboard and its clock. -/
def Station.run (s : Station) : List Event → Option Station
  | [] => some s
  | event :: events => (s.after event).bind (·.run events)

/-! ### Definitions -/

/-- The number of sessions that have begun and are not over. -/
def inProgress (b : Board) : Nat := b.sessions.countP (!·.isOver)

/-- A session at a gate of the registry is in a run of its own. -/
def HasRun (c : Configuration) (registry : Registry) (now : Nat) (s : Session) : Prop :=
  ∃ gate ∈ registry.gates, ∃ headers isStopping born events,
    Session.Station.run ⟨born, Session.start c gate headers isStopping born⟩ events = some ⟨now, s⟩

/-- The counter holds the number of sessions that are going on, each of them in a run of its own. -/
structure Counted (c : Configuration) (registry : Registry) (s : Station) : Prop where
  configuration_eq : s.board.configuration = c
  registry_eq : s.board.registry = registry
  active_eq : s.board.active = UInt64.ofNat s.board.inProgress
  hasRun {x : Session} : x ∈ s.board.sessions → HasRun c registry s.now x

/-- What an event makes of the switchboard. -/
inductive Change (s t : Station) : Prop
  | enters {gate : Gate} {headers : Http.Headers} (hg : gate ∈ s.board.registry.gates)
    (h : t = { s with board := s.board.enter s.now gate headers })
  | goesOn {i : Nat} {event : Session.Event} {old new : Session}
    (hi : s.board.sessions[i]? = some old)
    (he : Session.Station.after ⟨s.now, old⟩ event = some ⟨s.now, new⟩)
    (h : t = { s with board := s.board.setSession i old new })
  | stays (h : t = s)
  | stops (h : t = { s with board := s.board.stop s.now })
  | ticks {nanos : Nat} (h : t = { s with now := s.now + nanos })

section

variable {c : Configuration} {registry : Registry} {s t : Station} {event : Event} {now : Nat}
  {x y : Session} {b : Board} {i : Nat}

/-! ### Sessions of the switchboard -/

/-- An event of a session goes on with its run. -/
theorem HasRun.after (h : HasRun c registry now x) {event : Session.Event} {now' : Nat}
    (he : Session.Station.after ⟨now, x⟩ event = some ⟨now', y⟩) : HasRun c registry now' y := by
  obtain ⟨gate, hgate, headers, isStopping, born, events, hrun⟩ := h
  refine ⟨gate, hgate, headers, isStopping, born, events ++ [event], ?_⟩
  rw [Session.Station.run_of_append hrun, Session.Station.run, he]
  rfl

/-- What is done to a session from outside does not end it. -/
theorem onSession_eq {f : Session → Session} (hi : b.sessions[i]? = some x)
    (hf : (f x).stage = x.stage) : b.onSession i f = b.setSession i x (f x) := by
  have hover : ((f x).isOver && !x.isOver) = false := by
    rw [Session.isOver, Session.isOver, hf]
    simp
  unfold onSession setSession
  rw [hover, List.modify_eq_set_getElem?, hi]
  rfl

/-- What is done where there is no session is not done. -/
theorem onSession_of_none {f : Session → Session} (hi : b.sessions[i]? = none) :
    b.onSession i f = b := by
  unfold onSession
  rw [List.modify_eq_self (List.getElem?_eq_none_iff.mp hi)]

/-- Something is done to a session from outside, or there is none. -/
theorem change_onSession (event : Session.Event) {f : Session → Session}
    (hm : ∀ m, event ≠ .move m)
    (hf : ∀ x, Session.Station.after ⟨s.now, x⟩ event = some ⟨s.now, f x⟩) :
    Change s { s with board := s.board.onSession i f } := by
  cases hi : s.board.sessions[i]? with
  | none =>
    rw [onSession_of_none hi]
    exact .stays rfl
  | some x =>
    obtain ⟨-, hstage, -⟩ := Session.carries_of_outside (hf x) hm
    rw [onSession_eq hi hstage]
    exact .goesOn hi (hf x) rfl

/-- What an event makes of the switchboard is what the relation says. -/
theorem change_of_after (h : s.after event = some t) : Change s t := by
  cases event with
  | enter r =>
    simp only [Station.after] at h
    split at h
    · next gate hanswer =>
      obtain rfl := Option.some.inj h
      exact .enters (Front.mem_gates_of_upgrade hanswer) rfl
    · cases h
  | stop =>
    obtain rfl := Option.some.inj h
    exact .stops rfl
  | tick nanos =>
    obtain rfl := Option.some.inj h
    exact .ticks rfl
  | session i event =>
    cases event with
    | move m =>
      obtain ⟨b, hb, rfl⟩ := Option.map_eq_some_iff.mp h
      obtain ⟨old, hi, hmove⟩ := Option.bind_eq_some_iff.mp hb
      obtain ⟨new, hnew, rfl⟩ := Option.map_eq_some_iff.mp hmove
      have he : Session.Station.after ⟨s.now, old⟩ (.move m) = some ⟨s.now, new⟩ := by
        rw [Session.Station.after, hnew]
        rfl
      exact .goesOn hi he rfl
    | arrive side a =>
      obtain rfl := Option.some.inj h
      exact change_onSession (.arrive side a) (by simp) fun _ => rfl
    | setFlow side flow =>
      obtain rfl := Option.some.inj h
      exact change_onSession (.setFlow side flow) (by simp) fun _ => rfl
    | answer reply =>
      obtain rfl := Option.some.inj h
      exact change_onSession (.answer reply) (by simp) fun _ => rfl
    | answerDial label problem =>
      obtain rfl := Option.some.inj h
      exact change_onSession (.answerDial label problem) (by simp) fun _ => rfl
    | stop | tick => cases h

/-! ### Counting -/

/-- One more or one less, counted in a machine word. -/
theorem ofNat_pred {n : Nat} (h : 0 < n) : UInt64.ofNat n - 1 = UInt64.ofNat (n - 1) := by
  obtain ⟨m, rfl⟩ := Nat.exists_eq_succ_of_ne_zero h.ne'
  simp

/-- A session that takes the place of another one. -/
theorem inProgress_setSession (hi : b.sessions[i]? = some x) :
    (b.setSession i x y).inProgress =
      b.inProgress - (if x.isOver then 0 else 1) + if y.isOver then 0 else 1 := by
  obtain ⟨hlt, hx⟩ := List.getElem?_eq_some_iff.mp hi
  unfold inProgress setSession
  rw [List.countP_set hlt, hx]
  cases x.isOver <;> cases y.isOver <;> rfl

/-- A session that is going on is counted. -/
theorem inProgress_pos (hi : b.sessions[i]? = some x) (hx : x.isOver = false) :
    0 < b.inProgress := by
  unfold inProgress
  rw [List.countP_pos_iff]
  exact ⟨x, List.mem_of_getElem? hi, by simp [hx]⟩

/-- A session that goes on is counted until it is over. -/
theorem active_setSession (h : b.active = UInt64.ofNat b.inProgress)
    (hi : b.sessions[i]? = some x) (hkept : x.isOver = true → y.isOver = true) :
    (b.setSession i x y).active = UInt64.ofNat (b.setSession i x y).inProgress := by
  rw [inProgress_setSession hi]
  unfold setSession
  cases hx : x.isOver with
  | true =>
    rw [hkept hx]
    simpa using h
  | false =>
    have hpos := inProgress_pos hi hx
    cases hy : y.isOver with
    | true =>
      simp only [Bool.not_false, Bool.and_self, if_true, Bool.false_eq_true, if_false]
      rw [h, ofNat_pred hpos, Nat.add_zero]
    | false =>
      simp only [Bool.false_and, Bool.false_eq_true, if_false]
      rw [h, Nat.sub_add_cancel hpos]

/-- The counter counts. -/
theorem Counted.after (h : Counted c registry s) (ht : s.after event = some t) :
    Counted c registry t := by
  cases change_of_after ht with
  | @enters gate headers hg heq =>
    subst heq
    refine ⟨h.configuration_eq, h.registry_eq, ?_, ?_⟩
    · have hcount : (s.board.enter s.now gate headers).inProgress = s.board.inProgress + 1 := by
        simp [inProgress, enter, Session.start, Session.isOver]
      rw [hcount, UInt64.ofNat_add, ← h.active_eq]
      rfl
    · intro x hx
      rcases List.mem_append.mp hx with hx | hx
      · exact h.hasRun hx
      · obtain rfl := List.mem_singleton.mp hx
        rw [h.configuration_eq]
        exact ⟨gate, h.registry_eq ▸ hg, headers, s.board.isStopping, s.now, [], rfl⟩
  | @goesOn i event old new hi he heq =>
    subst heq
    refine ⟨h.configuration_eq, h.registry_eq, ?_, ?_⟩
    · refine active_setSession h.active_eq hi ?_
      intro hover
      have hold : old.stage = .over := of_decide_eq_true hover
      exact decide_eq_true (Session.isOver_after (s := ⟨s.now, old⟩) hold he)
    · intro x hx
      rcases List.mem_or_eq_of_mem_set hx with hx | rfl
      · exact h.hasRun hx
      · exact (h.hasRun (List.mem_of_getElem? hi)).after he
  | stays heq =>
    subst heq
    exact h
  | stops heq =>
    subst heq
    refine ⟨h.configuration_eq, h.registry_eq, ?_, ?_⟩
    · have hcount : (s.board.stop s.now).inProgress = s.board.inProgress := by
        simp only [inProgress, stop, List.countP_map]
        rfl
      rw [hcount, ← h.active_eq]
      rfl
    · intro x hx
      obtain ⟨y, hy, rfl⟩ := List.mem_map.mp hx
      have he : Session.Station.after ⟨s.now, y⟩ .stop = some ⟨s.now, y.stop s.now⟩ := rfl
      exact (h.hasRun hy).after he
  | @ticks nanos heq =>
    subst heq
    refine ⟨h.configuration_eq, h.registry_eq, h.active_eq, ?_⟩
    intro x hx
    have he : Session.Station.after ⟨s.now, x⟩ (.tick nanos) = some ⟨s.now + nanos, x⟩ := rfl
    exact (h.hasRun hx).after he

/-- The counter counts in every run. -/
theorem Counted.run {events : List Event} (h : Counted c registry s)
    (hrun : s.run events = some t) : Counted c registry t := by
  induction events generalizing s with
  | nil =>
    obtain rfl := Option.some.inj hrun
    exact h
  | cons event events ih =>
    obtain ⟨u, hu, hrest⟩ := Option.bind_eq_some_iff.mp hrun
    exact ih (h.after hu) hrest

end

/-! ### Every run -/

open Endpoint (IsRetired)
open Exchange (Retains Everywhere)

/-- In every run of a session that has come to some state, and in every run that goes on from there:

* Every endpoint that the session had then is still there.
* When the session is over all its endpoints have ended. The client's reader and writer have
  stopped, and those of all channels if the exchange had begun then.
* If the session was over it stays so, and an endpoint that had stopped writes nothing more.
* If the exchange was going on, the next event ends it and from then on the clock moves only when
  nothing else can, the session is over when one write's time has passed and nothing can move,
  whatever the sockets do.

And in every run of the switchboard the counter holds the number of sessions that have begun and are
not over, as far as a machine word can hold it; each of them is in such a run.

Without room in its queues no endpoint begins, and the labels of a gate that was read from a file
are different (`Registry.nodup_labels_of_parse`). -/
theorem torn_down_of_run {c : Configuration} {registry : Registry}
    (hroom : Endpoint.hasRoom c.endpoint = true)
    (hd : ∀ gate ∈ registry.gates, (gate.channels.map (·.1)).Nodup) :
    (∀ {gate headers isStopping born events r}, gate ∈ registry.gates →
      Session.Station.run ⟨born, Session.start c gate headers isStopping born⟩ events = some r →
      (∀ {later s}, r.run later = some s →
        Retains r.now s.now r.session.exchange s.session.exchange) ∧
      (∀ {later s}, r.run later = some s → s.session.stage = .over →
        Everywhere (fun e => e.isDone = true) s.session.exchange ∧
        s.session.client.IsRetired ∧
        (r.session.stage = .joined → Everywhere IsRetired s.session.exchange)) ∧
      (∀ {later s}, r.session.stage = .over → r.run later = some s →
        s.session.stage = .over ∧ ∀ {side p}, r.session.exchange.party? side = some p →
          p.endpoint.IsRetired → ∃ q, s.session.exchange.party? side = some q ∧
            q.endpoint.IsRetired ∧ q.endpoint.written = p.endpoint.written) ∧
      (∀ {event t later s}, r.session.stage = .joined → r.session.exchange.isRunning = true →
        r.after event = some t → t.session.exchange.isRunning = false →
        t.isPrompt later = true → t.run later = some s → Session.Settled s.now s.session →
        t.now + c.endpoint.writeWait.toNanos ≤ s.now → s.session.stage = .over)) ∧
    ∀ {now events b}, Station.run ⟨now, start c registry⟩ events = some b →
      b.board.active = UInt64.ofNat b.board.inProgress ∧
      (b.board.inProgress < 2 ^ 64 → b.board.active.toNat = b.board.inProgress) ∧
      ∀ x ∈ b.board.sessions, HasRun c registry b.now x := by
  constructor
  · intro gate headers isStopping born events r hgate hrun
    refine ⟨Session.retains_of_run, fun hlater hs => Session.over_of_run hrun hlater hs,
      fun hs hlater => Session.over_run hs hlater, ?_⟩
    intro event t later s hs hr ht hended hprompt hlater hsettled hlimit
    have hleaving := Session.leaving_of_after (c := c) hs hr ht hended
    have hcourse := (Session.course_of_run hrun).after ht
    have hall : r.run (event :: later) = some s := Option.bind_eq_some_iff.mpr ⟨t, ht, hlater⟩
    have hlabels := Session.nodup_labels_of_run hroom (hd gate hgate) hrun hs hall
    exact hleaving.over_of_run hcourse hprompt hlater hlabels hlimit hsettled
  · intro now events b hrun
    have hstart : Counted c registry ⟨now, start c registry⟩ :=
      ⟨rfl, rfl, rfl, fun hx => by cases hx⟩
    have hcounted := hstart.run hrun
    refine ⟨hcounted.active_eq, ?_, fun x hx => hcounted.hasRun hx⟩
    intro hlt
    rw [hcounted.active_eq]
    exact UInt64.toNat_ofNat_of_lt' hlt

/-- The exchange of a session goes on when neither socket takes what is written and the channel
closes. -/
def suspended : List Session.Event :=
  Session.admitted ++ [.answerDial "a" none, .move (.connect "a"), .setFlow .client .blocked,
    .setFlow (.channel "a") .blocked, .arrive (.channel "a") (.message (.close none)),
    .move (.exchange (.endpoint (.channel "a") .read)),
    .move (.exchange (.relay (.channel "a")))]

/-- Both writers begin their farewells and get no further, and are given up when the time has
come. -/
def givenUp : List Session.Event :=
  Session.moves (.channel "a") [.stopWriting, .write, .write] ++ [.move .close] ++
    Session.moves .client [.stopReading, .stopWriting, .write, .write] ++
    [.tick Session.localResolver.endpoint.writeWait.toNanos] ++
    Session.moves .client [.abort, .join] ++ Session.moves (.channel "a") [.abort, .join] ++
    [.move .finish]

/-- A client asks for the gate. -/
def visitor : Http.Request where
  method := "GET"
  target := Utf8.encode "/ws/gate"
  headers := ⟨[⟨Dial.connection, Utf8.encode "upgrade"⟩, ⟨Dial.upgrade, Utf8.encode "websocket"⟩,
    ⟨Dial.webSocketKey, Utf8.encode "key"⟩, ⟨Dial.webSocketVersion, Utf8.encode "13"⟩]⟩

/-- A session whose sockets take nothing is over after a write's time. Of two sessions one is
counted when the other one is over. -/
theorem torn_down_of_run_suspended :
    (∃ r t s, Session.Station.run
        ⟨0, Session.start Session.localResolver Session.oneChannel .empty false 0⟩ suspended
          = some r ∧
      r.after (.move (.exchange (.join (.channel "a")))) = some t ∧ t.run givenUp = some s ∧
      s.session.stage = .over ∧ Everywhere IsRetired s.session.exchange) ∧
    ∃ b, Station.run ⟨0, start Session.localResolver ⟨[Session.oneChannel]⟩⟩
        ([.enter visitor, .enter visitor] ++ Session.clientLeaves.map (.session 0)) = some b ∧
      b.board.sessions.length = 2 ∧ b.board.active.toNat = 1 := by
  have hroom : Endpoint.hasRoom Session.localResolver.endpoint = true := by decide
  have hd : ∀ gate ∈ (⟨[Session.oneChannel]⟩ : Registry).gates,
      (gate.channels.map (·.1)).Nodup := by decide
  obtain ⟨hsession, hboard⟩ := torn_down_of_run hroom hd
  constructor
  · have hrun : ∃ r ∈ Session.Station.run
        ⟨0, Session.start Session.localResolver Session.oneChannel .empty false 0⟩ suspended,
        r.session.stage = .joined ∧ r.session.exchange.isRunning = true ∧
        ∃ t ∈ r.after (.move (.exchange (.join (.channel "a")))),
          t.session.exchange.isRunning = false ∧ t.isPrompt givenUp = true ∧
          ∃ s ∈ t.run givenUp, Session.Settled s.now s.session ∧
            t.now + Session.localResolver.endpoint.writeWait.toNanos ≤ s.now := by
      decide +kernel
    obtain ⟨r, hr, hjoined, hrunning, t, ht, hended, hprompt, s, hs, hsettled, hlimit⟩ := hrun
    obtain ⟨-, hover, -, hleaves⟩ := hsession List.mem_cons_self hr
    have hstage := hleaves hjoined hrunning ht hended hprompt hs hsettled hlimit
    have hlater : r.run (.move (.exchange (.join (.channel "a"))) :: givenUp) = some s :=
      Option.bind_eq_some_iff.mpr ⟨t, ht, hs⟩
    exact ⟨r, t, s, hr, ht, hs, hstage, (hover hlater hstage).2.2 hjoined⟩
  · have hrun : ∃ b ∈ Station.run ⟨0, start Session.localResolver ⟨[Session.oneChannel]⟩⟩
        ([.enter visitor, .enter visitor] ++ Session.clientLeaves.map (.session 0)),
        b.board.sessions.length = 2 ∧ b.board.inProgress = 1 := by
      decide +kernel
    obtain ⟨b, hb, hlength, hone⟩ := hrun
    obtain ⟨-, hcount, -⟩ := hboard hb
    refine ⟨b, hb, hlength, ?_⟩
    rw [hcount (by rw [hone]; decide), hone]

end Board

end Switchboard
