import Switchboard.Proofs.Session.Teardown
/-!
# The end of a session

A session that was refused waits for its client's endpoint, one whose exchange has ended for all of
its endpoints (`Standing`). When it is over, those that were waited for have stopped for good
(`standing_of_run`), and it stays so (`isOver_after`).

If the clock moves only when nothing else can, a session whose exchange has ended closes everything
at once, and then has one write's time (`Leaving`). When that has passed it is over, whatever the
sockets do (`Leaving.over_of_settled`).
-/

namespace Switchboard.Session

open Endpoint
open Exchange (Side Carries Retains Everywhere IsSound)

/-! ### Definitions -/

/-- Whether a session was refused, and what is left of its endpoints once it is over. -/
inductive Standing (s : Session) : Prop
  | preparing (hs : s.isPreparing = true) (hr : s.refusal = none)
  | refused (hs : s.stage = .refusing ∨ ∃ ticket, s.stage = .notifying ticket)
    (hr : s.refusal ≠ none)
  | routed (hs : s.stage = .joined ∨ s.stage = .closing) (hr : s.refusal = none)
  | gone (hs : s.stage = .over) (hclient : s.client.IsRetired)
    (hall : s.refusal = none → Everywhere IsRetired s.exchange)

/-- Whether the clock of a run moves only when nothing else can. -/
def Station.isPrompt (s : Station) : List Event → Bool
  | [] => true
  | event :: events =>
    (match event with
    | .tick _ => decide (Settled s.now s.session)
    | _ => true) && (s.after event).all (·.isPrompt events)

/-- A session whose exchange has ended, and which is to be over at some time. -/
inductive Leaving (settings : Settings) (limit : Nat) (s : Station) : Prop
  | ended (hs : s.session.stage = .joined) (hr : s.session.exchange.isRunning = false)
    (hlimit : s.now + settings.writeWait.toNanos = limit)
  | closing (hs : s.session.stage = .closing) (hd : Everywhere (Departs limit) s.session.exchange)
  | gone (hs : s.session.stage = .over)

section

variable {c : Configuration} {s t : Session} {now now' limit : Nat} {m : Move}

/-! ### What a session waits for -/

/-- After an exchange every endpoint is waited for. -/
theorem everywhere_finished (hs : s.stage = .closing) (h : s.isShutDown = true) :
    Everywhere (fun e => e.shutdown = .finished) s.exchange := by
  simp only [isShutDown, hs, Bool.and_eq_true, decide_eq_true_eq, List.all_eq_true] at h
  intro side p hp
  cases side with
  | client =>
    obtain rfl := Option.some.inj hp
    exact h.1
  | channel label =>
    obtain ⟨entry, hentry, rfl⟩ := Option.map_eq_some_iff.mp hp
    exact h.2 entry (List.mem_of_find?_eq_some hentry)

/-- Nothing but the endpoints is waited for. -/
theorem isShutDown_of_everywhere (hs : s.stage = .closing) (hn : s.exchange.labels.Nodup)
    (h : Everywhere (fun e => e.shutdown = .finished) s.exchange) : s.isShutDown = true := by
  simp only [isShutDown, hs, Bool.and_eq_true, decide_eq_true_eq, List.all_eq_true]
  refine ⟨h .client _ rfl, ?_⟩
  rintro ⟨label, p⟩ hmem
  exact h (.channel label) p (Exchange.party?_of_mem hn hmem)

/-- A session whose endpoints are all shut down was refused or is after its exchange. -/
theorem stage_of_isShutDown (h : s.isShutDown = true) :
    s.stage = .refusing ∧ s.client.shutdown = .finished ∨ s.stage = .closing := by
  unfold isShutDown at h
  split at h
  · next hs => exact Or.inl ⟨hs, of_decide_eq_true h⟩
  · next hs => exact Or.inr hs
  · cases h

/-- An exchange none of whose relays has broken off has not failed. -/
theorem leave_eq_closeAll (h : IsSound s.exchange) (now : Nat) : s.leave now = s.closeAll now := by
  unfold leave
  split
  · next f hresult => exact absurd hresult h.result
  · rfl

/-! ### How a session stands -/

/-- A session that prepares was not refused. -/
theorem Standing.refusal_of_isPreparing (h : Standing s) (hs : s.isPreparing = true) :
    s.refusal = none := by
  cases h with
  | preparing _ hr => exact hr
  | refused hs' => rcases hs' with hs' | ⟨ticket, hs'⟩ <;> simp [isPreparing, hs'] at hs
  | routed hs' => rcases hs' with hs' | hs' <;> simp [isPreparing, hs'] at hs
  | gone hs' => simp [isPreparing, hs'] at hs

/-- A session whose exchange has begun was not refused. -/
theorem Standing.refusal_of_joined (h : Standing s) (hs : s.stage = .joined) :
    s.refusal = none := by
  cases h with
  | preparing _ hr => exact hr
  | refused hs' => rcases hs' with hs' | ⟨ticket, hs'⟩ <;> simp [hs'] at hs
  | routed _ hr => exact hr
  | gone hs' => simp [hs'] at hs

/-- Endpoints that go on by themselves change nothing in this. -/
theorem Standing.carries (h : Standing s) (hx : Carries now now' s.exchange t.exchange)
    (hstage : t.stage = s.stage) (hr : t.refusal = s.refusal) : Standing t := by
  cases h with
  | preparing hs hnone =>
    refine .preparing ?_ (hr.trans hnone)
    rwa [isPreparing, hstage]
  | refused hs hsome => exact .refused (hstage ▸ hs) (hr ▸ hsome)
  | routed hs hnone => exact .routed (hstage ▸ hs) (hr.trans hnone)
  | gone hs hclient hall =>
    refine .gone (hstage.trans hs) (hx.client.stable isStable_isRetired hclient) ?_
    intro hnone
    exact hx.everywhere_stable isStable_isRetired (hall (hr.symm.trans hnone))

/-- The exchange begins, or the session goes on preparing. -/
theorem standing_joinWhenOpen (hs : s.isPreparing = true) (hr : s.refusal = none) :
    Standing s.joinWhenOpen := by
  rcases joinWhenOpen_cases s with ⟨-, heq⟩ | ⟨-, heq⟩ <;> rw [heq]
  · exact .routed (Or.inl rfl) hr
  · exact .preparing hs hr

/-- A session that is refused waits for its client's endpoint, or to tell the client. -/
theorem standing_refuse (s : Session) (now : Nat) (f : Failure) : Standing (s.refuse now f) := by
  have hrefusal : (s.refuse now f).refusal = some f :=
    congrArg Papers.refusal (papers_refuse s now f)
  refine .refused ?_ (by simp [hrefusal])
  unfold refuse
  rcases tell_cases { s.dropLines with refusal := some f } f (·.dismiss now) .notifying with
    ⟨success, -, heq⟩ | ⟨ticket, -, heq⟩ <;> rw [heq]
  · exact Or.inl rfl
  · exact Or.inr ⟨ticket, rfl⟩

/-- When everything that is waited for is shut down, it has stopped. -/
theorem Standing.finish (h : Standing s) (hproper : Everywhere (Proper c.endpoint) s.exchange)
    (hs : s.isShutDown = true) : Standing
      ({ s.onClient Endpoint.dropInbound with stage := .over }.note .info s.farewell) := by
  -- The time does not matter here.
  have hdropped : Carries 0 0 s.exchange (s.exchange.onEndpoint .client dropInbound) :=
    .onEndpoint s.exchange fun _ => .of_tacit .dropInbound
  have hclient : s.exchange.party? .client = some s.exchange.client := rfl
  rcases stage_of_isShutDown hs with ⟨hstage, hfinished⟩ | hstage
  · have hretired : s.client.IsRetired := (hproper .client _ hclient).retires.finished hfinished
    refine .gone rfl (hdropped.client.stable isStable_isRetired hretired) ?_
    intro hnone
    cases h with
    | refused _ hr => exact absurd hnone hr
    | preparing hs' => simp [isPreparing, hstage] at hs'
    | routed hs' => simp [hstage] at hs'
    | gone hs' => simp [hstage] at hs'
  · have hretired : Everywhere IsRetired s.exchange := by
      intro side p hp
      exact (hproper side p hp).retires.finished (everywhere_finished hstage hs side p hp)
    have hall := hdropped.everywhere_stable isStable_isRetired hretired
    exact .gone rfl (hall .client _ rfl) fun _ => hall

/-- What a move makes of this. -/
theorem Standing.step (h : Standing s) (hc : Course c ⟨now, s⟩) (hstep : Step now s m t) :
    Standing t := by
  cases hstep with
  | exchange hx => exact h.carries (.perform hx) rfl rfl
  | asked hs =>
    have hprep : s.isPreparing = true := by simp [isPreparing, hs]
    exact .preparing rfl (h.refusal_of_isPreparing hprep)
  | learned hs =>
    have hprep : s.isPreparing = true := by simp [isPreparing, hs]
    exact standing_joinWhenOpen rfl (h.refusal_of_isPreparing hprep)
  | dialed hs =>
    have hprep : s.isPreparing = true := by simp [isPreparing, hs]
    exact .preparing hprep (h.refusal_of_isPreparing hprep)
  | connected hs =>
    have hprep : s.isPreparing = true := by simp [isPreparing, hs]
    exact standing_joinWhenOpen hprep (h.refusal_of_isPreparing hprep)
  | refused => exact standing_refuse _ _ _
  | @notified ticket success e hs =>
    refine .refused (Or.inl rfl) ?_
    have hrefusal : ((s.onClient fun _ => e).dismiss now).refusal = s.refusal :=
      congrArg Papers.refusal (papers_dismiss _ now)
    rw [hrefusal]
    cases h with
    | refused _ hr => exact hr
    | preparing hs' => simp [isPreparing, hs] at hs'
    | routed hs' => simp [hs] at hs'
    | gone hs' => simp [hs] at hs'
  | reported hs =>
    cases h with
    | refused hs' => simp [hs] at hs'
    | preparing hs' => simp [isPreparing, hs] at hs'
    | routed hs' => simp [hs] at hs'
    | gone hs' => simp [hs] at hs'
  | left hs =>
    have hsound : IsSound s.exchange := hc.sound (by simp [isParting, hs, Stage.isParting])
    rw [leave_eq_closeAll hsound]
    refine .routed (Or.inr rfl) ?_
    have hrefusal : (s.closeAll now).refusal = s.refusal :=
      congrArg Papers.refusal (papers_closeAll s now)
    exact hrefusal.trans (h.refusal_of_joined hs)
  | finished hs => exact h.finish hc.proper hs

/-- What an event makes of this. -/
theorem Standing.after {s t : Station} {event : Event} (h : Standing s.session) (hc : Course c s)
    (ht : s.after event = some t) : Standing t.session := by
  rcases step_or_outside ht with ⟨m, u, -, hstep, rfl⟩ | hm
  · exact h.step hc hstep
  · obtain ⟨hx, hstage, hpapers⟩ := carries_of_outside ht hm
    exact h.carries hx hstage (congrArg Papers.refusal hpapers)

/-- A session that is over stays so. -/
theorem isOver_after {s t : Station} {event : Event} (hs : s.session.stage = .over)
    (ht : s.after event = some t) : t.session.stage = .over := by
  rcases step_or_outside ht with ⟨m, u, -, hstep, rfl⟩ | hm
  · cases hstep with
    | exchange => exact hs
    | finished => rfl
    | refused h =>
      have hprep := isPreparing_of_refuses h
      simp [isPreparing, hs] at hprep
    | _ => simp_all
  · obtain ⟨-, hstage, -⟩ := carries_of_outside ht hm
    exact hstage.trans hs

/-! ### When a session is over -/

/-- The clock moves when time passes, and only then. -/
theorem now_after {s t : Station} {event : Event} (h : s.after event = some t)
    (hne : ∀ nanos, event ≠ .tick nanos) : t.now = s.now := by
  cases event with
  | tick nanos => exact absurd rfl (hne nanos)
  | move m =>
    obtain ⟨u, -, rfl⟩ := Option.map_eq_some_iff.mp h
    rfl
  | _ =>
    obtain rfl := Option.some.inj h
    rfl

/-- What comes from outside does not end an exchange. -/
theorem isRunning_of_outside {s t : Station} {event : Event} (h : s.after event = some t)
    (hm : ∀ m, event ≠ .move m) :
    t.session.exchange.isRunning = s.session.exchange.isRunning := by
  cases event with
  | move m => exact absurd rfl (hm m)
  | arrive side | setFlow side =>
    obtain rfl := Option.some.inj h
    exact congrArg Prod.fst (Exchange.outcome_onEndpoint s.session.exchange side _)
  | answer reply =>
    obtain rfl := Option.some.inj h
    dsimp only
    unfold Session.answer
    split <;> rfl
  | answerDial label problem =>
    obtain rfl := Option.some.inj h
    dsimp only
    rcases answerDial_cases s.session label problem with heq | ⟨l, -, -, heq⟩ <;> rw [heq]
    rfl
  | stop =>
    obtain rfl := Option.some.inj h
    exact Exchange.isRunning_onChannels _ _
  | tick =>
    obtain rfl := Option.some.inj h
    rfl

/-- A session whose exchange has ended closes everything while no time passes, and is then left to
its endpoints. -/
theorem Leaving.after {s t : Station} {event : Event} (h : Leaving c.endpoint limit s)
    (hc : Course c s) (hprompt : ∀ {nanos}, event = .tick nanos → Settled s.now s.session)
    (ht : s.after event = some t) : Leaving c.endpoint limit t := by
  rcases step_or_outside ht with ⟨m, u, -, hstep, rfl⟩ | hm
  · cases h with
    | ended hs hr hlimit =>
      cases hstep with
      | exchange hx => exact .ended hs (Exchange.isRunning_perform hx hr) hlimit
      | left =>
        have hsound : IsSound s.session.exchange :=
          hc.sound (by simp [isParting, hs, Stage.isParting])
        rw [leave_eq_closeAll hsound]
        refine .closing rfl ?_
        refine everywhere_closeAll (Q := Departs limit) (isStable_proper c.endpoint) hc.proper ?_
        intro e he
        rw [← hlimit, ← he.settings_eq]
        exact .shutDown e s.now
      | refused h =>
        have hprep := isPreparing_of_refuses h
        simp [isPreparing, hs] at hprep
      | finished h => rcases stage_of_isShutDown h with ⟨hs', -⟩ | hs' <;> simp [hs] at hs'
      | _ => simp_all
    | closing hs hd =>
      cases hstep with
      | exchange hx =>
        have hcarries : Carries s.now s.now s.session.exchange _ := .perform hx
        exact .closing hs (hcarries.everywhere (fun member => isSteady_departs member limit) hd)
      | refused h =>
        have hprep := isPreparing_of_refuses h
        simp [isPreparing, hs] at hprep
      | finished => exact .gone rfl
      | _ => simp_all
    | gone hs => exact .gone (isOver_after hs ht)
  · obtain ⟨hx, hstage, -⟩ := carries_of_outside ht hm
    cases h with
    | ended hs hr hlimit =>
      refine .ended (hstage.trans hs) ((isRunning_of_outside ht hm).trans hr) ?_
      rw [← hlimit, now_after ht]
      intro nanos htick
      have hclose := hprompt htick .close
      simp [perform, hs, hr] at hclose
    | closing hs hd =>
      exact .closing (hstage.trans hs)
        (hx.everywhere (fun member => isSteady_departs member limit) hd)
    | gone hs => exact .gone (hstage.trans hs)

/-- When one write's time has passed and nothing can move, a session whose exchange has ended is
over. -/
theorem Leaving.over_of_settled {s : Station} (h : Leaving c.endpoint limit s) (hc : Course c s)
    (hn : s.session.exchange.labels.Nodup) (hlimit : limit ≤ s.now)
    (hsettled : Settled s.now s.session) : s.session.stage = .over := by
  cases h with
  | ended hs hr =>
    have hclose := hsettled .close
    simp [perform, hs, hr] at hclose
  | gone hs => exact hs
  | closing hs hd =>
    have hparting : s.session.isParting = true := by simp [isParting, hs, Stage.isParting]
    have hfinished : Everywhere (fun e => e.shutdown = .finished) s.session.exchange := by
      intro side p hp
      have hmoves (m : Endpoint.Move) (hm : Exchange.isRelayed m = false) :=
        hsettled.exchange.endpoint hp hm
      exact (hd side p hp).finished_of_settled (hc.done hparting side p hp) hlimit
        (hmoves .stopReading rfl) (hmoves .join rfl) (hmoves .abort rfl)
    have hfinish := hsettled .finish
    simp [perform, isShutDown_of_everywhere hs hn hfinished] at hfinish

end

/-! ### Every run -/

section

variable {c : Configuration} {gate : Gate} {headers : Http.Headers} {isStopping : Bool}
  {born limit : Nat} {events later : List Event} {event : Event} {r s t : Station}

/-- What a run makes of how a session stands. -/
theorem Standing.run (h : Standing r.session) (hc : Course c r) (hlater : r.run later = some s) :
    Standing s.session := by
  have hall := run_keeps (P := fun s => Course c s ∧ Standing s.session)
    (fun h ht => ⟨h.1.after ht, h.2.after h.1 ht⟩) ⟨hc, h⟩ hlater
  exact hall.2

/-- How a session stands in every run. -/
theorem standing_of_run
    (hrun : Station.run ⟨born, start c gate headers isStopping born⟩ events = some s) :
    Standing s.session := by
  have hstart : Standing (start c gate headers isStopping born) := .preparing rfl rfl
  exact hstart.run (.start c gate headers isStopping born) hrun

/-- No event takes an endpoint away. -/
theorem retains_after (h : r.after event = some t) :
    Retains r.now t.now r.session.exchange t.session.exchange := by
  cases passage_after h with
  | goesOn hx => exact hx.retains
  | opens _ _ hx => exact (Retains.addChannel _ _ _).trans hx.retains
  | parts _ hx _ _ ht => exact hx.retains.trans (retains_of_parts ht)

/-- No run takes an endpoint away. -/
theorem retains_of_run (hlater : r.run later = some s) :
    Retains r.now s.now r.session.exchange s.session.exchange := by
  refine run_keeps (P := fun s => Retains r.now s.now r.session.exchange s.session.exchange) ?_
    (.refl r.now r.session.exchange) hlater
  intro s t event h ht
  exact h.trans (retains_after ht)

/-- When a session is over, all endpoints it ever had have ended, and the client's has stopped. If
its exchange had begun, all have stopped. -/
theorem over_of_run
    (hrun : Station.run ⟨born, start c gate headers isStopping born⟩ events = some r)
    (hlater : r.run later = some s) (hs : s.session.stage = .over) :
    Everywhere (fun e => e.isDone = true) s.session.exchange ∧
    s.session.client.IsRetired ∧
    (r.session.stage = .joined → Everywhere IsRetired s.session.exchange) := by
  have hcourse := course_of_run hrun
  have hstanding := standing_of_run hrun
  have hparting : s.session.isParting = true := by simp [isParting, hs, Stage.isParting]
  refine ⟨(hcourse.run hlater).done hparting, ?_⟩
  cases hstanding.run hcourse hlater with
  | gone _ hclient hretired =>
    refine ⟨hclient, ?_⟩
    intro hjoined
    apply hretired
    have hkept := run_keeps
      (P := fun s => s.session.isPreparing = false ∧ s.session.refusal = none)
      (fun h ht => ⟨(papers_after ht h.1).2,
        (congrArg Papers.refusal (papers_after ht h.1).1).trans h.2⟩)
      ⟨by simp [isPreparing, hjoined], hstanding.refusal_of_joined hjoined⟩ hlater
    exact hkept.2
  | preparing hs' => simp [isPreparing, hs] at hs'
  | refused hs' => rcases hs' with hs' | ⟨ticket, hs'⟩ <;> simp [hs] at hs'
  | routed hs' => rcases hs' with hs' | hs' <;> simp [hs] at hs'

/-- A session that is over stays so, and an endpoint of it that has stopped writes nothing more. -/
theorem over_run (hs : r.session.stage = .over) (hlater : r.run later = some s) :
    s.session.stage = .over ∧ ∀ {side p}, r.session.exchange.party? side = some p →
      p.endpoint.IsRetired → ∃ q, s.session.exchange.party? side = some q ∧
        q.endpoint.IsRetired ∧ q.endpoint.written = p.endpoint.written := by
  refine ⟨run_keeps (P := fun s => s.session.stage = .over) isOver_after hs hlater, ?_⟩
  intro side p hp hretired
  obtain ⟨q, hq, houtlasts⟩ := (retains_of_run hlater).party hp
  exact ⟨q, hq, houtlasts _ isStable_isRetired hretired,
    (houtlasts _ (isStable_writer p.endpoint.written) ⟨hretired.2, rfl⟩).2⟩

/-- A session whose exchange has ended is over when one write's time has passed and nothing can
move, if the clock moves only when nothing else can. -/
theorem Leaving.over_of_run (h : Leaving c.endpoint limit t) (hc : Course c t)
    (hprompt : t.isPrompt later = true) (hlater : t.run later = some s)
    (hn : s.session.exchange.labels.Nodup) (hlimit : limit ≤ s.now)
    (hsettled : Settled s.now s.session) : s.session.stage = .over := by
  induction later generalizing t with
  | nil =>
    obtain rfl := Option.some.inj hlater
    exact h.over_of_settled hc hn hlimit hsettled
  | cons event later ih =>
    obtain ⟨u, hu, hrest⟩ := Option.bind_eq_some_iff.mp hlater
    obtain ⟨htick, hprompt⟩ := (Bool.and_eq_true _ _).mp hprompt
    rw [hu, Option.all_some] at hprompt
    refine ih (h.after hc ?_ hu) (hc.after hu) hprompt hrest
    rintro nanos rfl
    exact of_decide_eq_true htick

/-- A session whose exchange has just ended has one write's time. -/
theorem leaving_of_after (hs : r.session.stage = .joined)
    (hr : r.session.exchange.isRunning = true) (ht : r.after event = some t)
    (hended : t.session.exchange.isRunning = false) :
    Leaving c.endpoint (t.now + c.endpoint.writeWait.toNanos) t := by
  refine .ended ?_ hended rfl
  rcases step_or_outside ht with ⟨m, u, -, hstep, rfl⟩ | hm
  · cases hstep with
    | exchange => exact hs
    | left _ hr' => simp [hr] at hr'
    | refused h =>
      have hprep := isPreparing_of_refuses h
      simp [isPreparing, hs] at hprep
    | finished h => rcases stage_of_isShutDown h with ⟨hs', -⟩ | hs' <;> simp [hs] at hs'
    | _ => simp_all
  · obtain ⟨-, hstage, -⟩ := carries_of_outside ht hm
    exact hstage.trans hs

/-- The labels of the channels of a session whose exchange has begun stay different. -/
theorem nodup_labels_of_run (hroom : hasRoom c.endpoint = true)
    (hd : (gate.channels.map (·.1)).Nodup)
    (hrun : Station.run ⟨born, start c gate headers isStopping born⟩ events = some r)
    (hs : r.session.stage = .joined) (hlater : r.run later = some s) :
    s.session.exchange.labels.Nodup := by
  have hjoined : Joined events r.session := by
    cases phase_of_run hroom hd hrun with
    | preparing h =>
      have hprep := h.isPreparing
      simp [isPreparing, hs] at hprep
    | joined h => exact h
    | refused _ h => rcases h.stage with hs' | hs' <;> simp [hs] at hs'
  obtain ⟨hdistinct, hlabels, -, -⟩ :=
    (run_invariant (P := fun past s => Joined past s.session) (fun h ht => h.after ht) hjoined
      hlater).complete
  exact hlabels.nodup_iff.mpr hdistinct

end

end Switchboard.Session
