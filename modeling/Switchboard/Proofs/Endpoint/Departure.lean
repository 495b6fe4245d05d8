import Switchboard.Proofs.Endpoint.Ending
import Switchboard.Proofs.Endpoint.Retirement
/-!
# How long an end takes

Once the lifetime of an endpoint has ended, its writer finishes the write that it has begun and then
says its farewell; each has one write's time. So on a clock that stops wherever something is due
(`Station.isOnTime`) the writer has stopped after two (`Hurries`). A shutdown, which its owner can
ask for once, has one write's time and then gives up waiting, whatever the writer does and whatever
the clock does (`stopped_of_run`).

The writer looks for the end of the lifetime and for its next frame at once, and may take up the
frame. If the socket takes what is written then this costs no time. It costs one more write's time
each time that the socket suspends what is written in the midst of that. So the time that the writer
may take grows with the number of these, or with that of what it takes up, whichever is less, and
two writes' time alone are not enough (`writer_relapsed`). Where all that comes from outside is held
back until nothing can move, as on a virtual clock, every socket is calm (`Station.lapses_isCalm`);
and a writer that heeds the end takes up nothing more, whatever its socket does
(`Station.isHeeding`).
-/

namespace Switchboard.Endpoint

open Wire

/-! ### Definitions -/

/-- Whether an event keeps to the clock: time passes only when nothing can move, and not past a time
at which something is due. -/
def Station.isOnTime (s : Station) : Event → Bool
  | .tick nanos => decide (Settled s.now s.endpoint) &&
      (s.endpoint.nextDue s.now).all (s.now + nanos ≤ ·)
  | _ => true

/-- Whether an event from outside is held back until nothing can move. -/
def Station.isHeldBack (s : Station) : Event → Bool
  | .move _ => true
  | _ => decide (Settled s.now s.endpoint)

/-- Whether the socket is calm at an event: after the end it suspends what is written only when
nothing can move. -/
def Station.isCalm (s : Station) : Event → Bool
  | .setFlow .blocked => !s.endpoint.isDone || decide (Settled s.now s.endpoint)
  | _ => true

/-- Whether the writer heeds the end at an event: it takes up nothing more. -/
def Station.isHeeding (s : Station) : Event → Bool
  | .move .take => !s.endpoint.isDone
  | .move .ping => !s.endpoint.isDone
  | _ => true

/-- Whether the socket is calm at an event, or else the writer heeds the end. -/
def Station.isFair (calm : Bool) (s : Station) (event : Event) : Bool :=
  cond calm (s.isCalm event) (s.isHeeding event)

/-- The writer has time for what it writes, for one write at most. -/
def IsTimely (now : Nat) (e : Endpoint) : Prop :=
  ∀ deadline, e.writer.deadline? = some deadline → now ≤ deadline ∧ deadline ≤ now + e.writeWait

/-- A writer that will have stopped at some time, if the socket is calm or it heeds the end. -/
structure Hurries (calm : Bool) (limit now : Nat) (e : Endpoint) : Prop where
  idle : e.writer = .idle → now + e.writeWait ≤ limit ∧
    (calm = true → e.flow = .blocked → now + 2 * e.writeWait ≤ limit)
  writing {deadline : Nat} : e.writer = .writing deadline → now + e.writeWait ≤ limit ∧
    ((calm = true → e.flow = .blocked) → deadline + e.writeWait ≤ limit)
  leaving {code : CloseCode} {stage : Farewell} {deadline : Nat} :
    e.writer = .leaving code stage deadline → deadline ≤ limit

/-- What holds of an endpoint on a clock: its writer will have stopped two writes' time after the
end of the lifetime, and one more for each delay. -/
structure Departing (calm : Bool) (delays : Nat) (s : Station) : Prop where
  courteous : Ledger s.endpoint ∧ Courteous s.endpoint
  timely : IsTimely s.now s.endpoint
  hurries {ending : Ending} : s.endpoint.ending = some ending →
    Hurries calm (ending.time + (2 + delays) * s.endpoint.writeWait) s.now s.endpoint

section

variable {e e' : Endpoint} {now now' limit limit' deadline delays : Nat} {m : Move} {calm : Bool}
  {s s' : Station} {event : Event} {events : List Event}

/-! ### Settled states -/

/-- When nothing can move the writer's deadline is still to come. -/
theorem Settled.now_lt_deadline (h : Settled now e) (hd : e.writer.deadline? = some deadline) :
    now < deadline := by
  have hnone : e.goOn now = none := h .write
  have hexpire := h .expireWrite
  cases hw : e.writer with
  | idle | stopped =>
    rw [hw] at hd
    cases hd
  | writing d | leaving code stage d =>
    rw [hw] at hd
    obtain rfl := Option.some.inj hd
    simpa [perform, hw, hnone] using hexpire

/-- When nothing can move and the lifetime has ended, the writer has stopped or its socket suspends
what is written. -/
theorem Settled.stopped_or_blocked (h : Settled now e) (hc : Ledger e ∧ Courteous e)
    (hd : e.isDone = true) :
    e.writer = .stopped ∨ e.flow = .blocked ∧ e.writer ≠ .idle := by
  rcases hc.2.stopped_or_suspended hc.1.outgoing hd (h _) (h _) (h _) with
    hw | ⟨hflow, deadline, hw, -⟩
  · exact Or.inl hw
  · refine Or.inr ⟨hflow, fun hidle => ?_⟩
    rw [hidle] at hw
    cases hw

/-- A socket whose events are held back is calm. -/
theorem Station.lapses_isCalm (h : s.always Station.isHeldBack events = true) :
    s.lapses Station.isCalm events = [] := by
  refine Station.lapses_eq_nil (Station.always_mono (fun t event hevent => ?_) h)
  cases event with
  | setFlow flow =>
    cases flow with
    | blocked => exact Bool.or_eq_true_iff.mpr (Or.inr hevent)
    | _ => rfl
  | _ => rfl

/-- The writer's deadline is among the times at which something is due. -/
theorem nextDue_le (hd : e.writer.deadline? = some deadline) (hn : now < deadline) :
    ∃ due ≤ deadline, e.nextDue now = some due := by
  unfold nextDue
  lift_lets
  intro reading writing ending
  have hwriting : deadline ∈ writing := by
    unfold writing
    cases hw : e.writer with
    | idle | stopped =>
      rw [hw] at hd
      cases hd
    | writing | leaving =>
      rw [hw] at hd
      exact List.mem_singleton.mpr (Option.some.inj hd).symm
  have hmem : deadline ∈ (reading ++ writing ++ ending).filter (now < ·) := by
    simp [hwriting, hn]
  obtain ⟨due, hdue⟩ := Option.isSome_iff_exists.mp (List.isSome_min?_of_mem hmem)
  exact ⟨due, (List.min?_eq_some_iff.mp hdue).2 deadline hmem, hdue⟩

/-! ### Deadlines -/

/-- The writer has a deadline that it had, or one that is one write's time from now. -/
theorem deadline_act (h : Act now e e') (hd : e'.writer.deadline? = some deadline) :
    e.writer.deadline? = some deadline ∨ deadline = now + e.writeWait := by
  cases writerAct_of_act h with
  | work h =>
    cases h with
    | take | ping => exact Or.inr (Option.some.inj hd).symm
    | wrote => cases hd
    | _ =>
      rw [beginFarewell_eq] at hd
      exact Or.inr (Option.some.inj hd).symm
  | farewell hw h =>
    left
    cases h with
    | clear => exact hd
    | hungUp | failed | late => cases hd
    | _ =>
      rw [hw]
      exact hd
  | aborted => cases hd
  | rests h => exact Or.inl (h.writer ▸ hd)

/-- Every act leaves the writer time. -/
theorem IsTimely.act (h : Act now e e') (ht : IsTimely now e) : IsTimely now e' := by
  intro deadline hd
  rw [writeWait, (Follows.act h).settings, ← writeWait]
  rcases deadline_act h hd with hkept | rfl
  · exact ht deadline hkept
  · omega

/-- Whatever leaves the writer and the settings alone leaves the writer time. -/
theorem IsTimely.of_eq (ht : IsTimely now e) (hw : e'.writer = e.writer)
    (hs : e'.settings = e.settings) : IsTimely now e' := by
  unfold IsTimely writeWait at ht ⊢
  rwa [hw, hs]

/-- The writer has time at every time before something is due. -/
theorem IsTimely.tick (ht : IsTimely now e) (h : Settled now e)
    (hnext : ∀ due, e.nextDue now = some due → now' ≤ due) (hle : now ≤ now') :
    IsTimely now' e := by
  intro deadline hd
  obtain ⟨due, hdue, hnextDue⟩ := nextDue_le hd (h.now_lt_deadline hd)
  have hlate := hnext due hnextDue
  have htimely := ht deadline hd
  omega

/-! ### A writer that hurries -/

/-- A writer that has time will have stopped after two writes' time. -/
theorem Hurries.of_isTimely (ht : IsTimely now e) :
    Hurries calm (now + 2 * e.writeWait) now e := by
  constructor
  · intro hw
    omega
  · intro deadline hw
    have htimely := ht deadline (by rw [hw]; rfl)
    omega
  · intro code stage deadline hw
    have htimely := ht deadline (by rw [hw]; rfl)
    omega

/-- A writer that will have stopped at some time will have at a later one. -/
theorem Hurries.mono (hu : Hurries calm limit now e) (hle : limit ≤ limit') :
    Hurries calm limit' now e where
  idle hw := ⟨(hu.idle hw).1.trans hle, fun hcalm hflow => ((hu.idle hw).2 hcalm hflow).trans hle⟩
  writing hw := ⟨(hu.writing hw).1.trans hle, fun hflow => ((hu.writing hw).2 hflow).trans hle⟩
  leaving hw := (hu.leaving hw).trans hle

/-- Whatever leaves the writer, the socket and the settings alone does not delay the writer. -/
theorem Hurries.of_eq (hu : Hurries calm limit now e) (hw : e'.writer = e.writer)
    (hf : e'.flow = e.flow) (hs : e'.settings = e.settings) : Hurries calm limit now e' := by
  obtain ⟨hidle, hwriting, hleaving⟩ := hu
  constructor
  · rwa [hw, hf, writeWait, hs, ← writeWait]
  · intro deadline
    rw [hw, hf, writeWait, hs, ← writeWait]
    exact hwriting
  · intro code stage deadline
    rw [hw]
    exact hleaving

/-- A farewell is over at its deadline. -/
theorem Hurries.of_leaving {code : CloseCode} {stage : Farewell}
    (hw : e.writer = .leaving code stage deadline) (hd : deadline ≤ limit) :
    Hurries calm limit now e := by
  constructor
  · intro h
    cases hw.symm.trans h
  · intro d h
    cases hw.symm.trans h
  · intro c st d h
    cases hw.symm.trans h
    exact hd

/-- A writer that has stopped does not delay the end. -/
theorem Hurries.of_stopped (hw : e.writer = .stopped) : Hurries calm limit now e := by
  constructor
  · intro h
    cases hw.symm.trans h
  · intro d h
    cases hw.symm.trans h
  · intro c st d h
    cases hw.symm.trans h

/-- The writer hurries while it does its work. -/
theorem Hurries.writerStep (h : WriterStep now e m e') (hu : Hurries calm limit now e)
    (hm : calm = true ∨ m ≠ .take ∧ m ≠ .ping) : Hurries calm limit now e' := by
  cases h with
  | take hw | ping hw =>
    obtain ⟨hnow, hblocked⟩ := hu.idle hw
    have hcalm : calm = true := by simpa using hm
    constructor
    · rintro ⟨⟩
    · rintro d hd
      obtain rfl := Writer.writing.inj hd
      refine ⟨hnow, fun hflow => ?_⟩
      have hlimit := hblocked hcalm (hflow hcalm)
      change now + e.writeWait + e.writeWait ≤ limit
      omega
    · rintro code stage d ⟨⟩
  | ended hw | abandoned hw =>
    rw [beginFarewell_eq]
    exact .of_leaving rfl (hu.idle hw).1
  | wrote hw _ hf =>
    constructor
    · intro _
      refine ⟨(hu.writing hw).1, fun _ hblocked => ?_⟩
      cases hf.symm.trans hblocked
    · rintro d ⟨⟩
    · rintro code stage d ⟨⟩
  | failed hw | late hw =>
    rw [beginFarewell_eq]
    exact .of_leaving rfl (hu.writing hw).1

/-- The writer hurries in its farewell. -/
theorem Hurries.farewellStep {code : CloseCode} {stage : Farewell}
    (hw : e.writer = .leaving code stage deadline)
    (h : FarewellStep now e code deadline stage m e') (hu : Hurries calm limit now e) :
    Hurries calm limit now e' := by
  have hlimit := hu.leaving hw
  cases h with
  | clear => exact .of_leaving (e := e.writeSlot now _) hw hlimit
  | hungUp | failed | late => exact .of_stopped rfl
  | _ => exact .of_leaving rfl hlimit

/-- The writer hurries whatever part of the endpoint moves. -/
theorem Hurries.step (h : Step now e m e') (hu : Hurries calm limit now e)
    (hm : calm = true ∨ m ≠ .take ∧ m ≠ .ping) : Hurries calm limit now e' := by
  have hrests {x : Endpoint} (hr : Rests e x) : Hurries calm limit now x :=
    hu.of_eq hr.writer hr.flow hr.settings
  cases h with
  | reader h => exact hrests (.readerStep h)
  | writer h => exact hu.writerStep h hm
  | farewell hw h => exact hu.farewellStep hw h
  | accepted | refused | writerGone => exact hu.of_eq rfl rfl rfl
  | readerGone =>
    have hr : Hurries calm limit now e.dropOwner := hrests (.dropOwner e)
    exact hr.of_eq rfl rfl rfl
  | aborted => exact .of_stopped rfl

/-- When something happens after the end, on a clock that stops wherever something is due, the
writer hurries. -/
theorem Hurries.after (h : s.after event = some s') (hu : Hurries calm limit s.now s.endpoint)
    (hc : Ledger s.endpoint ∧ Courteous s.endpoint) (hd : s.endpoint.isDone = true)
    (ht : IsTimely s'.now s'.endpoint) (htime : s.isOnTime event = true)
    (hfair : s.isFair calm event = true) :
    Hurries calm limit s'.now s'.endpoint := by
  cases Station.turn h with
  | @move m _ hstep =>
    refine hu.step hstep ?_
    cases calm with
    | true => exact Or.inl rfl
    | false =>
      right
      constructor
      · rintro rfl
        simp [Station.isFair, Station.isHeeding, hd] at hfair
      · rintro rfl
        simp [Station.isFair, Station.isHeeding, hd] at hfair
  | use huse => exact hu.of_eq huse.rests.writer huse.rests.flow huse.rests.settings
  | handles | arrive => exact hu.of_eq rfl rfl rfl
  | setFlow flow =>
    -- A calm socket that suspends what is written has done so before, unless the writer stopped.
    have hblocked (hcalm : calm = true) (hflow : flow = .blocked) :
        s.endpoint.writer = .stopped ∨
          s.endpoint.flow = .blocked ∧ s.endpoint.writer ≠ .idle := by
      rw [hcalm, hflow] at hfair
      have hsettled : Settled s.now s.endpoint := by
        simpa [Station.isFair, Station.isCalm, hd] using hfair
      exact hsettled.stopped_or_blocked hc hd
    constructor
    · intro hw
      refine ⟨(hu.idle hw).1, fun hcalm hflow => ?_⟩
      rcases hblocked hcalm hflow with hstopped | ⟨-, hidle⟩
      · cases hw.symm.trans hstopped
      · exact absurd hw hidle
    · intro deadline hw
      refine ⟨(hu.writing hw).1, fun hflow => (hu.writing hw).2 fun hcalm => ?_⟩
      rcases hblocked hcalm (hflow hcalm) with hstopped | ⟨hflow, -⟩
      · cases hw.symm.trans hstopped
      · exact hflow
    · exact hu.leaving
  | tick nanos =>
    obtain ⟨hsettled, -⟩ := Bool.and_eq_true_iff.mp htime
    rcases (of_decide_eq_true hsettled).stopped_or_blocked hc hd with hw | ⟨hflow, hidle⟩
    · exact .of_stopped hw
    · constructor
      · intro hw
        exact absurd hw hidle
      · intro deadline hw
        have hlimit := (hu.writing hw).2 fun _ => hflow
        have htimely := ht deadline (by rw [hw]; rfl)
        exact ⟨(Nat.add_le_add_right htimely.1 _).trans hlimit, fun _ => hlimit⟩
      · exact hu.leaving

/-- A message that is taken up after the end delays the writer by one write's time. -/
theorem Hurries.taken (h : WriterStep now e m e') (hu : Hurries calm limit now e)
    (hm : m = .take ∨ m = .ping) : Hurries calm (limit + e.writeWait) now e' := by
  cases h with
  | take hw | ping hw =>
    have hnow := (hu.idle hw).1
    constructor
    · rintro ⟨⟩
    · rintro d hd
      obtain rfl := Writer.writing.inj hd
      change now + e.writeWait ≤ _ ∧ (_ → now + e.writeWait + e.writeWait ≤ _)
      omega
    · rintro code stage d ⟨⟩
  | _ => simp at hm

/-- A socket that changes delays the writer by one write's time at most. -/
theorem Hurries.setFlow (hu : Hurries calm limit now e) (ht : IsTimely now e) (flow : Flow) :
    Hurries calm (limit + e.writeWait) now (e.setFlow flow) := by
  constructor
  · intro hw
    have hnow := (hu.idle hw).1
    change now + e.writeWait ≤ _ ∧ (_ → _ → now + 2 * e.writeWait ≤ _)
    omega
  · intro deadline hw
    have hnow := (hu.writing hw).1
    have htimely := ht deadline (by rw [show e.writer = _ from hw]; rfl)
    change now + e.writeWait ≤ _ ∧ (_ → deadline + e.writeWait ≤ _)
    omega
  · intro code stage deadline hw
    exact (hu.leaving hw).trans (Nat.le_add_right _ _)

/-- Where the socket is not calm, or the writer does not heed the end, this costs one write's time
at most. -/
theorem Hurries.delayed (h : s.after event = some s') (hu : Hurries calm limit s.now s.endpoint)
    (ht : IsTimely s.now s.endpoint) (hfair : s.isFair calm event = false) :
    Hurries calm (limit + s.endpoint.writeWait) s'.now s'.endpoint := by
  have hlater : limit ≤ limit + s.endpoint.writeWait := Nat.le_add_right _ _
  cases Station.turn h with
  | @move m e hstep =>
    have hm : m = .take ∨ m = .ping := by
      cases calm with
      | true => cases hfair
      | false => cases m <;> simp [Station.isFair, Station.isHeeding] at hfair ⊢
    have hwriter : WriterStep s.now s.endpoint m e := by
      rcases hm with rfl | rfl <;> cases hstep with
      | writer hstep => exact hstep
      | reader hstep => cases hstep
      | farewell _ hstep => cases hstep
    exact hu.taken hwriter hm
  | setFlow flow => exact hu.setFlow ht flow
  | use huse =>
    exact (hu.of_eq huse.rests.writer huse.rests.flow huse.rests.settings).mono hlater
  | handles | arrive =>
    have hkept := hu.mono hlater
    exact hkept.of_eq rfl rfl rfl
  | tick => cases calm <;> cases hfair

/-! ### Every event -/

/-- Every event on the clock leaves the writer time. -/
theorem IsTimely.after (h : s.after event = some s') (ht : IsTimely s.now s.endpoint)
    (htime : s.isOnTime event = true) : IsTimely s'.now s'.endpoint := by
  cases Station.turn h with
  | move hstep => exact ht.act (.step hstep)
  | use huse => exact ht.act huse.act
  | handles | arrive | setFlow => exact ht.of_eq rfl rfl
  | tick nanos =>
    obtain ⟨hsettled, hnext⟩ := Bool.and_eq_true_iff.mp htime
    refine ht.tick (of_decide_eq_true hsettled) ?_ (Nat.le_add_right _ _)
    intro due hdue
    rw [hdue] at hnext
    exact of_decide_eq_true hnext

/-- The lifetime ends at the time of an event. -/
theorem Station.Ends.now_eq {cause : Cause} (he : s.Ends event cause)
    (h : s.after event = some s') : s'.now = s.now := by
  cases Station.turn h with
  | tick => cases he
  | _ => rfl

/-- At the beginning the writer has time. -/
theorem Departing.start (settings : Settings) (now : Nat) :
    Departing calm 0 (Station.opening settings now) where
  courteous := ⟨.start settings now, .start settings now⟩
  timely := by
    intro deadline hd
    rcases writer_start settings now with ⟨hw, -⟩ | ⟨hw, -⟩
    · rw [show (Station.opening settings now).endpoint.writer = _ from hw] at hd
      cases hd
    · rw [show (Station.opening settings now).endpoint.writer = _ from hw] at hd
      cases hd
  hurries he := by cases he

/-- Every event on the clock leaves the writer to stop in time, with one more delay if it is not
fair. -/
theorem Departing.after (h : s.after event = some s') (hp : Departing calm delays s)
    (htime : s.isOnTime event = true) :
    Departing calm (delays + if s.isFair calm event then 0 else 1) s' := by
  have htimely := hp.timely.after h htime
  have hwait : s'.endpoint.writeWait = s.endpoint.writeWait := by
    rw [writeWait, writeWait, Station.settings_after h]
  refine ⟨isStable_courteous.after (fun handles hc => courteous_handles hc handles) h hp.courteous,
    htimely, ?_⟩
  intro ending he
  rw [hwait]
  -- The lifetime had ended, or it ends now and the writer has one write's time.
  have hbefore (hended : s.endpoint.ending = some ending) :
      Hurries calm (ending.time + (2 + (delays + if s.isFair calm event then 0 else 1))
        * s.endpoint.writeWait) s'.now s'.endpoint := by
    have hu := hp.hurries hended
    have hd : s.endpoint.isDone = true := by
      rw [isDone, hended]
      rfl
    split_ifs with hfair
    · exact hu.after h hp.courteous hd htimely htime hfair
    · refine (hu.delayed h hp.timely (Bool.of_not_eq_true hfair)).mono ?_
      rw [Nat.add_assoc, ← Nat.succ_mul]
      exact Nat.le_refl _
  rcases Station.ending_after h with hkept | ⟨cause, hends, hended⟩
  · exact hbefore (hkept.symm.trans he)
  · rcases endedBy_or s.endpoint s.now cause with hkept | ⟨-, hnow⟩
    · exact hbefore (hkept.symm.trans (hended.symm.trans he))
    · obtain rfl := Option.some.inj (he.symm.trans (hended.trans hnow))
      rw [← hends.now_eq h, ← hwait]
      refine (Hurries.of_isTimely htimely).mono ?_
      exact Nat.add_le_add_left (Nat.mul_le_mul_right _ (Nat.le_add_right _ _)) _

/-- In every run on the clock the writer will have stopped in time. -/
theorem departing_run {settings : Settings} (calm : Bool)
    (hrun : (Station.opening settings now).run events = some s)
    (htime : (Station.opening settings now).always Station.isOnTime events = true) :
    Departing calm ((Station.opening settings now).lapses (Station.isFair calm) events).length s := by
  refine Station.always_observe (R := fun s delays => Departing calm delays.length s) ?_ hrun htime
    (l := []) (.start settings now)
  intro t u event delays h hevent hp
  rw [List.length_append]
  have hafter := hp.after h hevent
  split_ifs at hafter ⊢ <;> exact hafter

/-- When nothing can move, the writer has stopped if its time is over. -/
theorem Departing.stopped_of_settled {ending : Ending} (hp : Departing calm delays s)
    (h : Settled s.now s.endpoint) (he : s.endpoint.ending = some ending)
    (hlimit : ending.time + (2 + delays) * s.endpoint.writeWait ≤ s.now) :
    s.endpoint.writer = .stopped := by
  have hd : s.endpoint.isDone = true := by
    rw [isDone, he]
    rfl
  have hu := hp.hurries he
  rcases h.stopped_or_blocked hp.courteous hd with hw | ⟨hflow, hidle⟩
  · exact hw
  · cases hw : s.endpoint.writer with
    | stopped => rfl
    | idle => exact absurd hw hidle
    | writing deadline =>
      have hlater : s.now < deadline := h.now_lt_deadline (by rw [hw]; rfl)
      have hover := (hu.writing hw).2 fun _ => hflow
      omega
    | leaving code stage deadline =>
      have hlater : s.now < deadline := h.now_lt_deadline (by rw [hw]; rfl)
      have hover := hu.leaving hw
      omega

/-! ### Shutdowns -/

/-- The time that a shutdown may take stays what it is until another one is asked for. -/
theorem Departs.after (h : s.after event = some s') (hne : event ≠ .shutDown)
    (hd : Departs limit s.endpoint) : Departs limit s'.endpoint := by
  have hkept (hs : s'.endpoint.shutdown = s.endpoint.shutdown) : Departs limit s'.endpoint :=
    ⟨hs ▸ hd.isAsked, fun hw => hd.waiting (hs ▸ hw)⟩
  cases event with
  | move m =>
    obtain ⟨e, he, rfl⟩ := Option.map_eq_some_iff.mp h
    exact (isSteady_departs false limit).tacit (.step (step_of_perform he)) hd
  | close code =>
    cases h
    apply hkept
    rw [close_eq]
  | cancel =>
    cases h
    apply hkept
    rw [Endpoint.cancel, finish_eq]
  | shutDown => exact absurd rfl hne
  | _ => exact hkept (Undisturbed.of_isQuiet h rfl).shutdown

/-- So it does in every run. -/
theorem Departs.run (hrun : s.run events = some s') (hne : .shutDown ∉ events)
    (hd : Departs limit s.endpoint) : Departs limit s'.endpoint := by
  induction events generalizing s with
  | nil =>
    obtain rfl := Option.some.inj hrun
    exact hd
  | cons event events ih =>
    obtain ⟨t, ht, hrest⟩ := Option.bind_eq_some_iff.mp hrun
    rw [List.mem_cons, not_or] at hne
    exact ih hrest hne.2 (hd.after ht (Ne.symm hne.1))

/-- A shutdown that is finished only when both parts have stopped is stable. -/
theorem isStable_retires : IsStable fun _ e => Retires e where
  act := Retires.act
  arrive _ h := ⟨h.joining, h.finished⟩
  setFlow _ h := ⟨h.joining, h.finished⟩
  later _ := id

end

/-! ### Main result -/

section

variable {settings : Settings} {now : Nat} {events : List Event} {s : Station}

/-- In every run, a shutdown is finished when nothing can move one write's time after it was last
asked for, or later: both parts have stopped. And on a clock that stops wherever something is due,
the writer has stopped when nothing can move two writes' time after the end of the lifetime, or
later, with one more for each time that its socket was not calm, or for each message that it took up
after the end, whichever are fewer. Whatever happens then, nothing more is written. -/
theorem stopped_of_run (hrun : (Station.opening settings now).run events = some s)
    (hsettled : Settled s.now s.endpoint) :
    (∀ {first last : List Event} {t : Station}, events = first ++ .shutDown :: last →
      .shutDown ∉ last → (Station.opening settings now).run first = some t →
      t.now + settings.writeWait.toNanos ≤ s.now →
      s.endpoint.shutdown = .finished ∧ s.endpoint.IsRetired ∧
        ∀ {later : List Event} {u : Station}, s.run later = some u →
          u.endpoint.IsRetired ∧ u.endpoint.written = s.endpoint.written) ∧
    ((Station.opening settings now).always Station.isOnTime events = true →
      ∀ ending ∈ s.endpoint.ending,
        ending.time + (2 + min ((Station.opening settings now).lapses Station.isCalm events).length
          ((Station.opening settings now).lapses Station.isHeeding events).length)
            * settings.writeWait.toNanos ≤ s.now →
        s.endpoint.writer = .stopped ∧
          ∀ {later : List Event} {u : Station}, s.run later = some u →
            u.endpoint.writer = .stopped ∧ u.endpoint.written = s.endpoint.written) := by
  have hwait : s.endpoint.writeWait = settings.writeWait.toNanos := by
    rw [writeWait, Station.settings_run hrun]
    rfl
  have hsilent {later : List Event} {u : Station} (hw : s.endpoint.writer = .stopped)
      (hlater : s.run later = some u) :
      u.endpoint.writer = .stopped ∧ u.endpoint.written = s.endpoint.written :=
    (isStable_writer s.endpoint.written).run (fun _ => id) hlater ⟨hw, rfl⟩
  constructor
  · rintro first last t rfl hlast ht hlimit
    obtain ⟨u, hu, hrest⟩ := Option.bind_eq_some_iff.mp (Station.run_of_prefix ht hrun)
    cases hu
    have htwait : t.endpoint.writeWait = settings.writeWait.toNanos := by
      rw [writeWait, Station.settings_run ht]
      rfl
    have hdeparts := (Departs.shutDown t.endpoint t.now).run hrest hlast
    rw [htwait] at hdeparts
    have hdone := (closes_run hrun).1.1.done_of_shutdown hdeparts.isAsked
    have hfinished := hdeparts.finished_of_settled hdone hlimit (hsettled _) (hsettled _)
      (hsettled _)
    have hretires : Retires s.endpoint :=
      isStable_retires.run (fun _ h => ⟨h.joining, h.finished⟩) hrun (.start settings now)
    have hretired := hretires.finished hfinished
    refine ⟨hfinished, hretired, fun hlater => ⟨?_, (hsilent hretired.2 hlater).2⟩⟩
    exact isStable_isRetired.run (fun _ => id) hlater hretired
  · intro htime ending he hlimit
    rw [← hwait] at hlimit
    have hw : s.endpoint.writer = .stopped := by
      rcases min_choice ((Station.opening settings now).lapses Station.isCalm events).length
        ((Station.opening settings now).lapses Station.isHeeding events).length with hmin | hmin
      · rw [hmin] at hlimit
        exact (departing_run true hrun htime).stopped_of_settled hsettled he hlimit
      · rw [hmin] at hlimit
        exact (departing_run false hrun htime).stopped_of_settled hsettled he hlimit
    exact ⟨hw, fun hlater => hsilent hw hlater⟩

/-- A write that is suspended. -/
def stuck : List Event := [.setFlow .blocked, .send [0x61], .move .take]

/-- The shutdown gives up waiting for a writer that is suspended. -/
def givenUp : List Event :=
  [.move .stopReading, .tick (16 * nanosPerSecond), .move .abort, .move .join]

/-- The endpoint is closed while a write is suspended and another frame is queued. After fifteen
seconds the socket takes the first one; the writer takes up the second one, and the socket suspends
that before the writer sees that the lifetime has ended. -/
def relapse : List Event :=
  [.send [0x62], .close CloseCode.normal, .move .stopReading, .tick (15 * nanosPerSecond),
    .setFlow .open, .move .write, .move .take, .setFlow .blocked, .tick (16 * nanosPerSecond),
    .move .expireWrite, .move .write, .tick nanosPerSecond]

/-- The farewell is given up too. -/
def relapseEnd : List Event :=
  [.tick (15 * nanosPerSecond), .move .expireWrite, .tick nanosPerSecond]

/-- A socket that suspends what is written for ever holds up a shutdown for sixteen seconds. One
that is not calm once has held up a writer for less than forty-eight. -/
theorem stopped_of_run_stuck :
    (∃ s t, (Station.opening .standard 0).run (stuck ++ .shutDown :: givenUp) = some s ∧
      Settled s.now s.endpoint ∧ (Station.opening .standard 0).run stuck = some t ∧
      t.now + Settings.standard.writeWait.toNanos ≤ s.now ∧
      s.endpoint.shutdown = .finished ∧ s.endpoint.IsRetired) ∧
    ∃ s ending, (Station.opening .standard 0).run (stuck ++ relapse ++ relapseEnd) = some s ∧
      Settled s.now s.endpoint ∧
      (Station.opening .standard 0).always Station.isOnTime (stuck ++ relapse ++ relapseEnd) = true ∧
      s.endpoint.ending = some ending ∧
      ending.time + 3 * Settings.standard.writeWait.toNanos = s.now ∧
      s.endpoint.writer = .stopped := by
  constructor
  · have hrun : ∃ s ∈ (Station.opening .standard 0).run (stuck ++ .shutDown :: givenUp),
        Settled s.now s.endpoint ∧ s.now = 16 * nanosPerSecond := by
      decide +kernel
    have hbegin : ∃ t ∈ (Station.opening .standard 0).run stuck, t.now = 0 := by
      decide +kernel
    obtain ⟨s, hs, hsettled, hnow⟩ := hrun
    obtain ⟨t, ht, htime⟩ := hbegin
    have hlimit : t.now + Settings.standard.writeWait.toNanos ≤ s.now := by
      rw [htime, hnow]
      decide
    obtain ⟨hshutdown, -⟩ := stopped_of_run hs hsettled
    obtain ⟨hfinished, hretired, -⟩ := hshutdown rfl (by decide) ht hlimit
    exact ⟨s, t, hs, hsettled, ht, hlimit, hfinished, hretired⟩
  · have hrun : ∃ s ∈ (Station.opening .standard 0).run (stuck ++ relapse ++ relapseEnd),
        Settled s.now s.endpoint ∧ s.now = 48 * nanosPerSecond ∧
          s.endpoint.ending = some ⟨0, .closed CloseCode.normal⟩ := by
      decide +kernel
    have htime : (Station.opening .standard 0).always Station.isOnTime
        (stuck ++ relapse ++ relapseEnd) = true := by
      decide +kernel
    have honce : ((Station.opening .standard 0).lapses Station.isCalm
        (stuck ++ relapse ++ relapseEnd)).length = 1 ∧
        ((Station.opening .standard 0).lapses Station.isHeeding
          (stuck ++ relapse ++ relapseEnd)).length = 1 := by
      decide +kernel
    obtain ⟨s, hs, hsettled, hnow, hending⟩ := hrun
    have hlimit : 0 + 3 * Settings.standard.writeWait.toNanos = s.now := by
      rw [hnow]
      decide
    obtain ⟨-, hwriter⟩ := stopped_of_run hs hsettled
    rw [honce.1, honce.2] at hwriter
    obtain ⟨hstopped, -⟩ := hwriter htime _ hending (Nat.le_of_eq hlimit)
    exact ⟨s, _, hs, hsettled, htime, hending, hlimit, hstopped⟩

/-- A clock that does not stop where the write is due to be given up. -/
def overslept : List Event :=
  [.close CloseCode.normal, .move .stopReading, .tick (32 * nanosPerSecond), .move .expireWrite,
    .move .write]

/-- Two writes' time after the end of the lifetime, when nothing can move, the writer goes on if the
socket was not calm or if the clock did not stop in time, and there is more that it writes then. -/
theorem writer_relapsed :
    (∃ s ∈ (Station.opening .standard 0).run (stuck ++ relapse), Settled s.now s.endpoint ∧
      (Station.opening .standard 0).always Station.isOnTime (stuck ++ relapse) = true ∧
      (∃ ending ∈ s.endpoint.ending,
        ending.time + 2 * Settings.standard.writeWait.toNanos ≤ s.now) ∧
      s.endpoint.writer ≠ .stopped ∧
      ∃ u ∈ s.run [.setFlow .open, .move .write], u.endpoint.written ≠ s.endpoint.written) ∧
    ∃ s ∈ (Station.opening .standard 0).run (stuck ++ overslept), Settled s.now s.endpoint ∧
      (Station.opening .standard 0).always Station.isHeldBack (stuck ++ overslept) = true ∧
      (∃ ending ∈ s.endpoint.ending,
        ending.time + 2 * Settings.standard.writeWait.toNanos ≤ s.now) ∧
      s.endpoint.writer ≠ .stopped ∧
      ∃ u ∈ s.run [.setFlow .open, .move .write], u.endpoint.written ≠ s.endpoint.written := by
  decide +kernel

end

end Switchboard.Endpoint
