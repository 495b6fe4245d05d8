import Switchboard.Proofs.Endpoint.CloseCode
import Switchboard.Proofs.Exchange.Carrying
import Switchboard.Proofs.Session.Refusal
/-!
# How a session closes its endpoints

A session lets its endpoints go on by themselves until it parts from them, and then again: they are
closed in one event, the same for all of them, and never besides (`Passage`, `passage_after`). So
what holds of an endpoint that nobody closes holds of the client's until then, whatever is done to
the scope, and what closing gives an endpoint it keeps (`Course`, `course_of_run`).
-/

namespace Switchboard.Session

open Endpoint
open Exchange (Side Carries Everywhere IsSound)

/-! ### Definitions -/

/-- Whether endpoints have been closed at a stage. -/
def Stage.isParting : Stage → Bool
  | .refusing => true
  | .closing => true
  | .over => true
  | _ => false

/-- Whether a session has closed its endpoints. -/
def isParting (s : Session) : Bool := s.stage.isParting

/-- What a session is given at its beginning. -/
structure Given where
  configuration : Configuration
  gate : Gate
  headers : Http.Headers
  born : Nat

/-- What a session was given. -/
def Papers.given (p : Papers) : Given := ⟨p.configuration, p.gate, p.headers, p.born⟩

/-- What every endpoint of a session has. -/
structure Proper (settings : Settings) (e : Endpoint) : Prop where
  settings_eq : e.settings = settings
  retires : Retires e
  done_of_requested : e.requested ≠ none → e.isDone = true

/-- What holds of a session's endpoints as long as they are not closed, and when they are. -/
structure Course (c : Configuration) (s : Station) : Prop where
  configuration_eq : s.session.configuration = c
  proper : Everywhere (Proper c.endpoint) s.session.exchange
  sound : s.session.isParting = false → IsSound s.session.exchange
  unclosed : s.session.isParting = false → Unclosed s.session.client
  avoids : s.session.isParting = false → Avoids Wire.CloseCode.goingAway s.session.client
  done : s.session.isParting = true → Everywhere (fun e => e.isDone = true) s.session.exchange

/-- What an event means for the endpoints of a session. -/
inductive Passage (now now' : Nat) (s t : Session) : Prop
  /-- The endpoints go on, and nobody closes them. -/
  | goesOn (hx : Carries now now' s.exchange t.exchange) (hp : t.isParting = s.isParting)
  /-- A line opens. -/
  | opens {label : String} (hs : s.isParting = false) (ht : t.isParting = false)
    (hx : Carries now now' (s.exchange.addChannel label (s.openEndpoint now)) t.exchange)
  /-- The session closes its endpoints. It may have told the client of a failure before. -/
  | parts {v : Session} (hs : s.isParting = false) (hx : Carries now now' s.exchange v.exchange)
    (he : v.client.ending = s.client.ending) (hv : v.isStopping = s.isStopping)
    (ht : t = v.dismiss now' ∨ t = v.closeAll now')

section

variable {s t u v : Session} {now now' : Nat} {f : Failure} {P : Nat → Endpoint → Prop}

/-! ### The client's endpoint -/

theorem client_onClient (s : Session) (f : Endpoint → Endpoint) :
    (s.onClient f).client = f s.client := rfl

@[simp] theorem client_dropLines (s : Session) : s.dropLines.client = s.client :=
  congrArg Exchange.Party.endpoint (Exchange.client_onChannels_eq _ _)

/-- The client's endpoint is replaced by what has become of it. -/
theorem carries_onClient {e : Endpoint} (he : Tacit now s.client false e) :
    Carries now now s.exchange (s.onClient fun _ => e).exchange := by
  have hclient : s.exchange.party? .client = some s.exchange.client := rfl
  rw [exchange_onClient]
  exact .replace hclient he

/-- What a session tells its client leaves the end of the lifetime as it is. -/
theorem carries_informed (s : Session) (f : Failure) (now : Nat) :
    Carries now now s.exchange (s.informed f).exchange ∧
      (s.informed f).client.ending = s.client.ending := by
  have hsent : Carries now now (s.note f.severity "session error").exchange
      (s.informed f).exchange := carries_onClient (.send f.controlFrame)
  exact ⟨(Carries.note s.exchange _).trans hsent, (Spares.send s.client f.controlFrame).ending⟩

/-! ### Steps -/

/-- What is read from the client's endpoint leaves the end of the lifetime as it is. -/
theorem carries_afterFrame {receipt : Receipt} {e : Endpoint}
    (hr : s.client.receive = (receipt, e)) (now : Nat) :
    Carries now now s.exchange (s.afterFrame e).exchange ∧
      (s.afterFrame e).client.ending = s.client.ending := by
  obtain rfl : s.client.receive.2 = e := congrArg Prod.snd hr
  exact ⟨carries_onClient .receive, (Spares.receive s.client).ending⟩

/-- A send that goes on leaves the end of the lifetime as it is. -/
theorem carries_resume {ticket : Nat} {success : Bool} {e : Endpoint}
    (hr : s.client.resumeSend ticket = some (success, e)) (now : Nat) :
    Carries now now s.exchange (s.onClient fun _ => e).exchange ∧
      (s.onClient fun _ => e).client.ending = s.client.ending := by
  have hstep : Endpoint.Step now s.client (.resume ticket) e := by
    apply Endpoint.step_of_perform
    rw [Endpoint.perform, hr]
    rfl
  refine ⟨carries_onClient (.step hstep), ?_⟩
  rw [client_onClient]
  cases hstep with
  | reader h => cases h
  | writer h => cases h
  | farewell _ h => cases h
  | accepted | refused => rfl

/-- A session tells its client of a failure and closes its endpoints, or waits to do so. -/
theorem Passage.tell (hs : s.isParting = false) (hx : Carries now now s.exchange u.exchange)
    (he : u.client.ending = s.client.ending) (hu : u.isStopping = s.isStopping) (f : Failure)
    {onward : Session → Session} (ho : onward = (·.dismiss now) ∨ onward = (·.closeAll now))
    {wait : Nat → Stage} (hw : ∀ ticket, (wait ticket).isParting = false) :
    Passage now now s (u.tell f onward wait) := by
  obtain ⟨hinformed, hending⟩ := carries_informed u f now
  rcases tell_cases u f onward wait with ⟨success, -, heq⟩ | ⟨ticket, -, heq⟩
  · rw [heq]
    refine .parts hs (hx.trans hinformed) (hending.trans he) hu ?_
    rcases ho with rfl | rfl
    · exact Or.inl rfl
    · exact Or.inr rfl
  · rw [heq]
    exact .goesOn (hx.trans hinformed) ((hw ticket).trans hs.symm)

/-- A session that prepares has not closed its endpoints. -/
theorem isParting_of_isPreparing (h : s.isPreparing = true) : s.isParting = false := by
  unfold isPreparing at h
  unfold isParting
  cases hs : s.stage <;> simp_all [Stage.isParting]

/-- What a session comes to before it is refused. -/
theorem carries_of_refuses {m : Move} (h : Refuses now s m u f) :
    Carries now now s.exchange u.exchange ∧ u.client.ending = s.client.ending ∧
      u.isStopping = s.isStopping := by
  have hcancelled : Carries now now s.exchange (s.exchange.onChannels (·.cancel now)) :=
    .onChannels s.exchange fun _ => .cancel
  have hclient : (s.exchange.onChannels (·.cancel now)).client.endpoint = s.client :=
    congrArg Exchange.Party.endpoint (Exchange.client_onChannels_eq _ _)
  cases h with
  | notText _ hr | emptyToken _ hr | noAddress _ hr =>
    obtain ⟨hx, he⟩ := carries_afterFrame hr now
    exact ⟨hx, he, rfl⟩
  | leadsNowhere | noConnection | noLineInTime =>
    exact ⟨hcancelled, congrArg Endpoint.ending hclient, rfl⟩
  | noToken | noTokenInTime | rejected | unfit | noAnswerInTime | clientLeft | shuttingDown =>
    exact ⟨.refl now _, rfl, rfl⟩

/-- A session is refused. -/
theorem passage_of_refuses {m : Move} (h : Refuses now s m u f) :
    Passage now now s (u.refuse now f) := by
  obtain ⟨hx, he, hu⟩ := carries_of_refuses h
  have hdropped : Carries now now u.exchange u.dropLines.exchange :=
    .onChannels u.exchange fun _ => .dropOwner
  have hending : u.dropLines.client.ending = s.client.ending := by
    rw [client_dropLines, he]
  exact .tell (u := { u.dropLines with refusal := some f })
    (isParting_of_isPreparing (isPreparing_of_refuses h)) (hx.trans hdropped) hending hu f
    (Or.inl rfl) fun _ => rfl

/-- A session whose lines are all open has its exchange begun. -/
theorem carries_joinWhenOpen (s : Session) (now : Nat) (hs : s.isParting = false) :
    Carries now now s.exchange s.joinWhenOpen.exchange ∧ s.joinWhenOpen.isParting = false := by
  rcases joinWhenOpen_cases s with ⟨-, heq⟩ | ⟨-, heq⟩ <;> rw [heq]
  · exact ⟨(Carries.begin s.exchange).trans (.note _ _), rfl⟩
  · exact ⟨.refl now _, hs⟩

/-- What a step means for the endpoints. -/
theorem passage_of_step {m : Move} (h : Step now s m t) : Passage now now s t := by
  cases h with
  | exchange hx => exact .goesOn (.perform hx) rfl
  | asked hs hr =>
    obtain ⟨hx, -⟩ := carries_afterFrame hr now
    refine .goesOn hx ?_
    rw [isParting, isParting, hs]
    rfl
  | @learned u reply token fields hs =>
    obtain ⟨hx, hp⟩ := carries_joinWhenOpen
      { s with stage := .dialing, forwarded := some fields } now rfl
    refine .goesOn hx (hp.trans ?_)
    rw [isParting, hs]
    rfl
  | dialed => exact .goesOn (.refl now _) rfl
  | @connected label l hs =>
    have hparting : s.isParting = false := by
      rw [isParting, hs]
      rfl
    obtain ⟨hx, hp⟩ := carries_joinWhenOpen
      ({ s with exchange := s.exchange.addChannel l.label (s.openEndpoint now) }.setLine l.label
        .open) now hparting
    exact .opens hparting hp hx
  | refused h => exact passage_of_refuses h
  | notified hs hr =>
    obtain ⟨hx, he⟩ := carries_resume hr now
    refine .parts ?_ hx he rfl (Or.inl rfl)
    rw [isParting, hs]
    rfl
  | reported hs hr =>
    obtain ⟨hx, he⟩ := carries_resume hr now
    refine .parts ?_ hx he rfl (Or.inr rfl)
    rw [isParting, hs]
    rfl
  | left hs =>
    have hparting : s.isParting = false := by
      rw [isParting, hs]
      rfl
    unfold leave
    split
    · next f _ => exact .tell hparting (.refl now _) rfl rfl f (Or.inr rfl) fun _ => rfl
    · exact .parts hparting (.refl now _) rfl rfl (Or.inr rfl)
  | finished hs =>
    have hdropped : Carries now now s.exchange (s.exchange.onEndpoint .client dropInbound) :=
      .onEndpoint s.exchange fun _ => .of_tacit .dropInbound
    refine .goesOn (hdropped.trans (.note _ _)) ?_
    have hparting : s.isParting = true := by
      unfold isShutDown at hs
      unfold isParting
      split at hs
      · next hstage => rw [hstage]; rfl
      · next hstage => rw [hstage]; rfl
      · cases hs
    exact hparting.symm

/-- What comes from outside changes neither the stage nor, but for answers, the papers. -/
theorem carries_of_outside {s t : Station} {event : Event} (h : s.after event = some t)
    (hm : ∀ m, event ≠ .move m) :
    Carries s.now t.now s.session.exchange t.session.exchange ∧ t.session.stage = s.session.stage ∧
      t.session.papers =
        { s.session.papers with lines := t.session.lines, reply := t.session.reply } := by
  cases event with
  | move m => exact absurd rfl (hm m)
  | arrive side a =>
    obtain rfl := Option.some.inj h
    exact ⟨.onEndpoint _ fun _ _ hP hp => hP.arrive a hp, rfl, rfl⟩
  | setFlow side flow =>
    obtain rfl := Option.some.inj h
    exact ⟨.onEndpoint _ fun _ _ hP hp => hP.setFlow flow hp, rfl, rfl⟩
  | answer reply =>
    obtain rfl := Option.some.inj h
    dsimp only
    unfold Session.answer
    split <;> exact ⟨.refl _ _, rfl, rfl⟩
  | answerDial label problem =>
    obtain rfl := Option.some.inj h
    dsimp only
    rcases answerDial_cases s.session label problem with heq | ⟨l, -, -, heq⟩ <;> rw [heq] <;>
      exact ⟨.refl _ _, rfl, rfl⟩
  | stop =>
    obtain rfl := Option.some.inj h
    have hscope : Carries s.now s.now s.session.exchange
        { s.session.exchange with isCancelled := true } := by
      refine .of_eq ?_ rfl
      funext side
      cases side <;> rfl
    exact ⟨hscope.trans (.onChannels _ fun _ => .cancel), rfl, rfl⟩
  | tick nanos =>
    obtain rfl := Option.some.inj h
    exact ⟨.later (Nat.le_add_right _ _) _, rfl, rfl⟩

/-- What an event means for the endpoints. -/
theorem passage_after {s t : Station} {event : Event} (h : s.after event = some t) :
    Passage s.now t.now s.session t.session := by
  rcases step_or_outside h with ⟨m, u, -, hstep, rfl⟩ | hm
  · exact passage_of_step hstep
  · obtain ⟨hx, hstage, -⟩ := carries_of_outside h hm
    refine .goesOn hx ?_
    rw [isParting, isParting, hstage]

/-! ### Closing -/

/-- The end of the scope ends the channels, and spoils nothing. -/
theorem forall_cancel (hP : IsStable P) (h : Everywhere (P now) s.exchange) {side : Side}
    {p : Exchange.Party} (hp : (s.cancel now).exchange.party? side = some p) :
    P now p.endpoint ∧ (side ≠ .client → p.endpoint.isDone = true) := by
  have hscope : Everywhere (P now) { s.exchange with isCancelled := true } := by
    intro side p hp
    have hparty : s.exchange.party? side = some p := by
      cases side <;> exact hp
    exact h side p hparty
  have hcancelled (e : Endpoint) (he : P now e) :
      P now (e.cancel now) ∧ (e.cancel now).isDone = true := by
    refine ⟨hP.act .cancel he, ?_⟩
    rw [Endpoint.cancel, finish_eq]
    rfl
  exact Exchange.forall_onChannels (Q := fun e => e.isDone = true) hcancelled hscope hp

/-- To tell the client that the switchboard is shut down spoils nothing. -/
theorem everywhere_announceStop (hP : IsStable P) (h : Everywhere (P now) s.exchange) :
    Everywhere (P now) (s.announceStop now).exchange := by
  unfold announceStop
  split_ifs
  · rw [exchange_onClient]
    exact h.onEndpoint fun e he => hP.act (.close _) he
  · exact h

/-- A shutdown ends the lifetime. -/
theorem isDone_shutDown (e : Endpoint) (now : Nat) : (e.shutDown now).isDone = true := by
  rw [Endpoint.shutDown, close_eq]
  rfl

/-- A session that is refused ends all its endpoints. -/
theorem everywhere_dismiss (hP : IsStable P) (h : Everywhere (P now) s.exchange) :
    Everywhere (fun e => P now e ∧ e.isDone = true) (s.dismiss now).exchange := by
  intro side p hp
  have hdismiss : (s.dismiss now).exchange
      = ((s.announceStop now).cancel now).exchange.onEndpoint .client (·.shutDown now) := rfl
  rw [hdismiss, Exchange.party?_onEndpoint] at hp
  obtain ⟨q, hq, rfl⟩ := Exchange.Parties.map_eq_some.mp hp
  obtain ⟨hkept, hdone⟩ := forall_cancel hP (everywhere_announceStop hP h) hq
  by_cases hs : side = .client
  · rw [if_pos hs]
    exact ⟨hP.act .shutDown hkept, isDone_shutDown _ now⟩
  · rw [if_neg hs]
    exact ⟨hkept, hdone hs⟩

/-- A session after its exchange shuts all its endpoints down. -/
theorem everywhere_closeAll {Q : Endpoint → Prop} (hP : IsStable P)
    (h : Everywhere (P now) s.exchange) (hQ : ∀ e, P now e → Q (e.shutDown now)) :
    Everywhere Q (s.closeAll now).exchange := by
  have hcancelled : Everywhere (P now) ((s.announceStop now).cancel now).exchange := by
    intro side p hp
    exact (forall_cancel hP (everywhere_announceStop hP h) hp).1
  exact Exchange.forall_onAll (fun e he => ⟨hP.act .shutDown he, hQ e he⟩) hcancelled

/-- A session that closes its endpoints ends all of them, and spoils nothing. -/
theorem everywhere_of_parts (hP : IsStable P) (h : Everywhere (P now) v.exchange)
    (ht : t = v.dismiss now ∨ t = v.closeAll now) :
    Everywhere (fun e => P now e ∧ e.isDone = true) t.exchange := by
  rcases ht with rfl | rfl
  · exact everywhere_dismiss hP h
  · refine everywhere_closeAll (Q := fun e => P now e ∧ e.isDone = true) hP h ?_
    intro e he
    exact ⟨hP.act .shutDown he, isDone_shutDown e now⟩

/-- A session that closes its endpoints loses none. -/
theorem retains_of_parts (ht : t = v.dismiss now ∨ t = v.closeAll now) :
    Exchange.Retains now now v.exchange t.exchange := by
  have hannounced : Exchange.Retains now now v.exchange (v.announceStop now).exchange := by
    unfold announceStop
    split_ifs
    · exact .onEndpoint v.exchange .client fun _ => .close _
    · exact .refl now v.exchange
  have hcancelled : Exchange.Retains now now (v.announceStop now).exchange
      ((v.announceStop now).cancel now).exchange := by
    unfold cancel
    rw [Exchange.onChannels_eq]
    have hscope : Carries now now (v.announceStop now).exchange
        { (v.announceStop now).exchange with isCancelled := true } := by
      refine .of_eq ?_ rfl
      funext side
      cases side <;> rfl
    exact hscope.retains.trans (.onSides _ (fun _ => .cancel) _)
  have hended := hannounced.trans hcancelled
  rcases ht with rfl | rfl
  · exact hended.trans (.onEndpoint _ .client fun _ => .shutDown)
  · exact hended.trans (.onSides _ (fun _ => .shutDown) _)

/-- A session that closes its endpoints has then closed them. -/
theorem isParting_of_parts (ht : t = v.dismiss now ∨ t = v.closeAll now) : t.isParting = true := by
  rcases ht with rfl | rfl <;> rfl

/-! ### The course of a session -/

/-- No move changes what a session was given. -/
theorem given_step {m : Move} (h : Step now s m t) : t.papers.given = s.papers.given := by
  have hjoined (s : Session) : s.joinWhenOpen.papers.given = s.papers.given := by
    rcases joinWhenOpen_cases s with ⟨-, heq⟩ | ⟨-, heq⟩ <;> rw [heq]
    rfl
  cases h with
  | learned | connected => exact hjoined _
  | @refused m u f h =>
    obtain ⟨calls, hpapers, -⟩ := papers_of_refuses h
    have hbefore : u.papers.given = s.papers.given := by
      rw [hpapers]
      rfl
    rw [papers_refuse]
    exact hbefore
  | notified => exact congrArg Papers.given (papers_dismiss _ _)
  | reported => exact congrArg Papers.given (papers_closeAll _ _)
  | left => exact congrArg Papers.given (papers_leave s now).1
  | exchange | asked | dialed | finished => rfl

/-- No event changes what a session was given. -/
theorem given_after {s t : Station} {event : Event} (h : s.after event = some t) :
    t.session.papers.given = s.session.papers.given := by
  rcases step_or_outside h with ⟨m, u, -, hstep, rfl⟩ | hm
  · exact given_step hstep
  · rw [(carries_of_outside h hm).2.2]
    rfl

/-- What every endpoint of a session has is stable. -/
theorem isStable_proper (settings : Settings) : IsStable fun _ e => Proper settings e where
  act h hp := ⟨(Follows.act h).settings.trans hp.settings_eq, hp.retires.act h,
    isStable_requested.act h hp.done_of_requested⟩
  arrive _ hp := ⟨hp.settings_eq, ⟨hp.retires.joining, hp.retires.finished⟩, hp.done_of_requested⟩
  setFlow _ hp := ⟨hp.settings_eq, ⟨hp.retires.joining, hp.retires.finished⟩, hp.done_of_requested⟩
  later _ := id

/-- A new endpoint has it. -/
theorem Proper.start (settings : Settings) (now : Nat) :
    Proper settings (Endpoint.start settings now) :=
  ⟨rfl, .start settings now, fun h => absurd rfl h⟩

/-- The endpoint of a line that opens has it. -/
theorem proper_openEndpoint (s : Session) (now : Nat) :
    Proper s.configuration.endpoint (s.openEndpoint now) := by
  have hnew : Proper s.configuration.endpoint (Endpoint.start s.configuration.endpoint now) :=
    .start _ now
  unfold openEndpoint
  dsimp only
  split_ifs
  · exact (isStable_proper _).act (.cancel : Act now _ _) hnew
  · exact hnew

/-- Of the going-away code nobody is told but by a shutdown of the switchboard. -/
theorem isSteady_goingAway (member : Bool) :
    IsSteady member fun _ e => Avoids Wire.CloseCode.goingAway e :=
  isSteady_avoids member (by decide) (by decide)

/-- Every event keeps the course. -/
theorem Course.after {c : Configuration} {s t : Station} (h : Course c s) {event : Event}
    (ht : s.after event = some t) : Course c t := by
  have hconfiguration := (congrArg Given.configuration (given_after ht)).trans h.configuration_eq
  have hproper := isStable_proper c.endpoint
  cases passage_after ht with
  | goesOn hx hp =>
    refine ⟨hconfiguration, hx.everywhere_stable hproper h.proper, ?_, ?_, ?_, ?_⟩ <;>
      rw [hp] <;> intro hs
    · exact hx.sound (h.sound hs)
    · exact hx.client _ isSteady_unclosed (h.unclosed hs)
    · exact hx.client _ (isSteady_goingAway false) (h.avoids hs)
    · exact hx.everywhere_stable isStable_isDone (h.done hs)
  | @opens label hs ht hx =>
    have hopened : Everywhere (Proper c.endpoint)
        (s.session.exchange.addChannel label (s.session.openEndpoint s.now)) := by
      intro side q hq
      rcases Exchange.party?_addChannel hq with hp | rfl
      · exact h.proper side q hp
      · rw [← h.configuration_eq]
        exact proper_openEndpoint _ _
    refine ⟨hconfiguration, hx.everywhere_stable hproper hopened, ?_, ?_, ?_, ?_⟩
    · exact fun _ => hx.sound ((h.sound hs).addChannel _ _)
    · exact fun _ => hx.client _ isSteady_unclosed (h.unclosed hs)
    · exact fun _ => hx.client _ (isSteady_goingAway false) (h.avoids hs)
    · simp [ht]
  | parts hs hx he hv ht =>
    have hclosed := everywhere_of_parts hproper (hx.everywhere_stable hproper h.proper) ht
    have hparting := isParting_of_parts ht
    refine ⟨hconfiguration, fun side p hp => (hclosed side p hp).1, by simp [hparting],
      by simp [hparting], by simp [hparting], fun _ side p hp => (hclosed side p hp).2⟩

/-- The course of a new session. -/
theorem Course.start (c : Configuration) (gate : Gate) (headers : Http.Headers)
    (isStopping : Bool) (now : Nat) : Course c ⟨now, start c gate headers isStopping now⟩ := by
  have htaken {member : Bool} : Tacit now (Endpoint.start c.endpoint now) member
      (Endpoint.start c.endpoint now).takeInbound.2 := .takeInbound
  have hproper : Proper c.endpoint (Endpoint.start c.endpoint now).takeInbound.2 :=
    ((isStable_proper c.endpoint).isSteady false).tacit htaken (.start c.endpoint now)
  refine ⟨rfl, ?_, ?_, ?_, ?_, fun h => absurd h Bool.false_ne_true⟩
  · intro side p hp
    cases side with
    | client =>
      obtain rfl := Option.some.inj hp
      exact hproper
    | channel label => cases hp
  · intro _
    refine ⟨?_, fun {f} hresult => by cases hresult⟩
    intro side p reason hp hbroken
    cases side with
    | client =>
      obtain rfl := Option.some.inj hp
      cases hbroken
    | channel label => cases hp
  · exact fun _ => isSteady_unclosed.tacit htaken (.start c.endpoint now)
  · exact fun _ => (isSteady_goingAway false).tacit htaken (.start _ c.endpoint now)

/-- Every run keeps the course. -/
theorem Course.run {c : Configuration} {s t : Station} (h : Course c s) {later : List Event}
    (hlater : s.run later = some t) : Course c t :=
  run_keeps (P := Course c) (fun h ht => h.after ht) h hlater

/-- The course of a session in every run. -/
theorem course_of_run {c : Configuration} {gate : Gate} {headers : Http.Headers}
    {isStopping : Bool} {events : List Event} {s : Station}
    (hrun : Station.run ⟨now, start c gate headers isStopping now⟩ events = some s) :
    Course c s :=
  (Course.start c gate headers isStopping now).run hrun

end

end Switchboard.Session
