import Switchboard.Proofs.Endpoint.Receipt
import Switchboard.Proofs.Endpoint.Ending
/-!
# What an ended lifetime means

A lifetime has ended exactly when one of its causes has come (`Station.Ends`), and then for good:
both parts of the endpoint stop, every send fails that waits or is made later (`outcome?_of_isDone`),
and the reader stops when nothing can move otherwise, just as it does not stop before. A writer that
could begin does not stop before either (`ended_of_run`).

Two things may seem to go against this. A frame that arrived while somebody held the inbound queue
can end the lifetime, when it found no room and the queue is dropped then
(`isDone_heldBack`). And a writer without a time between pings has stopped from the
beginning, which ends nothing.
-/

namespace Switchboard.Endpoint

open Wire

/-! ### Definitions -/

/-- The time at which the writer begins a write by an event. -/
def Station.begun? (s : Station) : Event → Option Nat
  | .move .take => some s.now
  | .move .ping => some s.now
  | _ => none

/-- The times at which the writer begins writes in a run. -/
def Station.begun (s : Station) (events : List Event) : List Nat :=
  s.observe Station.begun? events

/-- One of the causes for which a lifetime ends has come in a run. A write that is given up has been
suspended for a write's time since it began. -/
def Station.HasCause (s : Station) (events : List Event) : Prop :=
  ∃ first event last t cause, events = first ++ event :: last ∧ s.run first = some t ∧
    t.Ends event cause ∧
    (cause = .writeLate → ∃ began ∈ (s.begun first).getLast?, began + s.endpoint.writeWait ≤ t.now)

section

variable {e e' : Endpoint} {now deadline : Nat} {m : Move} {s s' : Station} {event : Event}
  {events : List Event} {cause : Cause} {w : Waiting}

/-! ### Writes -/

/-- A write in hand was in hand before, or it begins now. -/
theorem writing_step (h : Step now e m e') (hw : e'.writer = .writing deadline) :
    e.writer = .writing deadline ∧ m ≠ .take ∧ m ≠ .ping ∨
      (m = .take ∨ m = .ping) ∧ deadline = now + e.writeWait := by
  cases h with
  | reader h =>
    have hrests := Rests.readerStep h
    refine Or.inl ⟨hrests.writer ▸ hw, ?_⟩
    cases h <;> simp
  | writer h =>
    cases h with
    | take => exact Or.inr ⟨Or.inl rfl, (Writer.writing.inj hw).symm⟩
    | ping => exact Or.inr ⟨Or.inr rfl, (Writer.writing.inj hw).symm⟩
    | wrote => cases hw
    | _ =>
      rw [beginFarewell_eq] at hw
      cases hw
  | farewell hleaving h =>
    cases h with
    | clear => cases hleaving.symm.trans hw
    | _ => cases hw
  | accepted | refused | writerGone => exact Or.inl ⟨hw, by simp, by simp⟩
  | readerGone => exact Or.inl ⟨(Rests.dropOwner e).writer ▸ hw, by simp, by simp⟩
  | aborted => cases hw

/-- An event begins a write when it makes the writer take something up. -/
theorem Station.begun?_eq_none (htake : event ≠ .move .take) (hping : event ≠ .move .ping) :
    s.begun? event = none := by
  unfold begun?
  split
  · exact absurd rfl htake
  · exact absurd rfl hping
  · rfl

/-- A write in hand was in hand before, or the event begins it. -/
theorem Station.writing_after (h : s.after event = some s')
    (hw : s'.endpoint.writer = .writing deadline) :
    s.endpoint.writer = .writing deadline ∧ s.begun? event = none ∨
      s.begun? event = some s.now ∧ deadline = s.now + s.endpoint.writeWait := by
  cases Station.turn h with
  | move hstep =>
    rcases writing_step hstep hw with ⟨hbefore, htake, hping⟩ | ⟨rfl | rfl, hdeadline⟩
    · exact Or.inl ⟨hbefore, begun?_eq_none (by simpa using htake) (by simpa using hping)⟩
    · exact Or.inr ⟨rfl, hdeadline⟩
    · exact Or.inr ⟨rfl, hdeadline⟩
  | use huse ha =>
    refine Or.inl ⟨huse.rests.writer ▸ hw, begun?_eq_none ?_ ?_⟩ <;> rintro rfl <;> cases ha
  | handles _ ha =>
    refine Or.inl ⟨hw, begun?_eq_none ?_ ?_⟩ <;> rintro rfl <;> cases ha
  | arrive | setFlow | tick => exact Or.inl ⟨hw, rfl⟩

/-- A write in hand is the one that began last, and it has one write's time from then. -/
theorem Station.writing_run (hrun : s.run events = some s')
    (hnone : ∀ deadline, s.endpoint.writer ≠ .writing deadline)
    (hw : s'.endpoint.writer = .writing deadline) :
    ∃ began ∈ (s.begun events).getLast?, deadline = began + s.endpoint.writeWait := by
  have hinvariant : s'.endpoint.writeWait = s.endpoint.writeWait ∧
      ∀ deadline, s'.endpoint.writer = .writing deadline →
        ∃ began ∈ (s.begun events).getLast?, deadline = began + s.endpoint.writeWait := by
    refine Station.observe_run (l := []) (R := fun t times =>
      t.endpoint.writeWait = s.endpoint.writeWait ∧ ∀ deadline, t.endpoint.writer = .writing deadline →
        ∃ began ∈ times.getLast?, deadline = began + s.endpoint.writeWait) ?_ hrun
      ⟨rfl, fun deadline h => absurd h (hnone deadline)⟩
    rintro t u event times ht ⟨hwait, hbegan⟩
    refine ⟨?_, fun deadline hdeadline => ?_⟩
    · rw [← hwait, writeWait, writeWait, Station.settings_after ht]
    · rcases Station.writing_after ht hdeadline with ⟨hbefore, hquiet⟩ | ⟨hbegins, rfl⟩
      · rw [hquiet, Option.toList_none, List.append_nil]
        exact hbegan deadline hbefore
      · rw [hbegins, Option.toList_some, List.getLast?_concat]
        exact ⟨t.now, rfl, by rw [hwait]⟩
  exact hinvariant.2 deadline hw

/-! ### Causes -/

/-- For each of its causes the lifetime ends. -/
theorem Station.Ends.done (h : s.Ends event cause) (hl : Ledger s.endpoint)
    (hl' : Ledger s'.endpoint) (hafter : s.after event = some s') : s'.endpoint.isDone = true := by
  have hmeets (hm : s.Meets event) : s'.endpoint.isDone = true :=
    hl'.incoming.done_of_stopped (Holds.of_meets hl.incoming hm hafter).stopped
  cases h with
  | closed code =>
    cases hafter
    rw [close_eq]
    rfl
  | shutDown =>
    cases hafter
    rw [Endpoint.shutDown, close_eq]
    rfl
  | scopeEnded =>
    cases hafter
    rw [Endpoint.cancel, finish_eq]
    rfl
  | remoteClosed hr ha hclose =>
    exact hmeets (.arrival hr ha (Or.inl (isEnd_message.mpr ⟨_, hclose⟩)))
  | remoteFinished hr ha => exact hmeets (.arrival hr ha (Or.inl rfl))
  | readFailed hr ha => exact hmeets (.arrival hr ha (Or.inl rfl))
  | tooLarge hr ha hs => exact hmeets (.arrival hr ha (Or.inr hs))
  | silent hr ha hd => exact hmeets (.silence hr ha hd)
  | unwanted hr hc =>
    obtain ⟨e, he, rfl⟩ := Option.map_eq_some_iff.mp hafter
    simp only [perform, hr, hc, if_true] at he
    obtain rfl := Option.some.inj he
    rw [stopReader_eq]
    rfl
  | writeFailed hw hf =>
    obtain ⟨e, he, rfl⟩ := Option.map_eq_some_iff.mp hafter
    cases step_of_perform he with
    | reader hstep => cases hstep
    | writer hstep =>
      cases hstep with
      | wrote _ _ hopen => cases hf.symm.trans hopen
      | failed =>
        rw [beginFarewell_eq]
        rfl
    | farewell hleaving => cases hw.symm.trans hleaving
  | writeLate hw hg hd =>
    obtain ⟨e, he, rfl⟩ := Option.map_eq_some_iff.mp hafter
    cases step_of_perform he with
    | reader hstep => cases hstep
    | writer hstep =>
      cases hstep
      rw [beginFarewell_eq]
      rfl
    | farewell hleaving => cases hw.symm.trans hleaving
  | abandoned ho hs =>
    obtain ⟨e, he, rfl⟩ := Option.map_eq_some_iff.mp hafter
    cases step_of_perform he with
    | reader hstep => cases hstep
    | writer hstep =>
      cases hstep <;>
      · rw [beginFarewell_eq]
        rfl
    | farewell _ hstep => cases hstep

/-! ### Sends -/

/-- A send that waits goes on waiting, comes to an end by the event, or is given up. -/
theorem Sends.Step.mem_waiting {s s' : Sends} {outcome : Option (Waiting × Bool)}
    (h : Sends.Step s outcome s') (ht : s.IsTallied) (hw : w ∈ s.waiting) :
    w ∈ s'.waiting ∨ (∃ success, outcome = some (w, success)) ∨ w ∈ s'.withdrawn := by
  have hother {x : Waiting} (hx : x ∈ s.waiting) :
      w ∈ s.waiting.filter (·.ticket ≠ x.ticket) ∨ w = x := by
    rcases List.mem_cons.mp ((ht.waiting_perm hx).mem_iff.mpr hw) with rfl | hmem
    · exact Or.inr rfl
    · exact Or.inl hmem
  cases h with
  | rests | refused | accepted => exact Or.inl hw
  | waits => exact Or.inl (List.mem_append_left _ hw)
  | granted hx =>
    rcases hother hx with hmem | rfl
    · exact Or.inl hmem
    · exact Or.inr (Or.inl ⟨true, rfl⟩)
  | denied hx =>
    rcases hother hx with hmem | rfl
    · exact Or.inl hmem
    · exact Or.inr (Or.inl ⟨false, rfl⟩)
  | withdrawn ticket =>
    by_cases hticket : w.ticket = ticket
    · exact Or.inr (Or.inr (List.mem_append_right _ (by simp [hw, hticket])))
    · exact Or.inl (by simp [hw, hticket])

/-- A send that was given up stays so. -/
theorem Sends.Step.mem_withdrawn {s s' : Sends} {outcome : Option (Waiting × Bool)}
    (h : Sends.Step s outcome s') (hw : w ∈ s.withdrawn) : w ∈ s'.withdrawn := by
  cases h with
  | withdrawn => exact List.mem_append_left _ hw
  | _ => exact hw

/-- A send that was given up in a run stays so. -/
theorem Station.mem_withdrawn_run (hrun : s.run events = some s')
    (hw : w ∈ s.endpoint.withdrawn) : w ∈ s'.endpoint.withdrawn := by
  induction events generalizing s with
  | nil =>
    obtain rfl := Option.some.inj hrun
    exact hw
  | cons event events ih =>
    obtain ⟨t, ht, hrest⟩ := Option.bind_eq_some_iff.mp hrun
    exact ih hrest ((Station.sends_after ht).mem_withdrawn hw)

/-- A send that waits still waits after a run, has come to an end in it, or was given up. -/
theorem Station.mem_waiting_run (hrun : s.run events = some s') (ht : s.endpoint.sends.IsTallied)
    (hw : w ∈ s.endpoint.waiting) :
    w ∈ s'.endpoint.waiting ∨ (∃ success, (w, success) ∈ s.returned events) ∨
      w ∈ s'.endpoint.withdrawn := by
  induction events generalizing s with
  | nil =>
    obtain rfl := Option.some.inj hrun
    exact Or.inl hw
  | cons event events ih =>
    obtain ⟨t, hafter, hrest⟩ := Option.bind_eq_some_iff.mp hrun
    have hstep := Station.sends_after hafter
    have hreturned : s.returned (event :: events)
        = (s.outcome? event).toList ++ t.returned events := by
      rw [returned, hafter]
    rw [hreturned]
    rcases hstep.mem_waiting ht hw with hwaits | ⟨success, houtcome⟩ | hgiven
    · rcases ih hrest (ht.step hstep) hwaits with hlater | ⟨success, hmem⟩ | hgiven
      · exact Or.inl hlater
      · exact Or.inr (Or.inl ⟨success, List.mem_append_right _ hmem⟩)
      · exact Or.inr (Or.inr hgiven)
    · refine Or.inr (Or.inl ⟨success, List.mem_append_left _ ?_⟩)
      rw [houtcome]
      exact List.mem_singleton_self _
    · exact Or.inr (Or.inr (Station.mem_withdrawn_run hrest hgiven))

/-- Once the lifetime has ended a send fails at once. -/
theorem send_of_isDone (hd : e.isDone = true) (frame : Bytes) :
    (e.send frame).1 = .finished false := by
  have hs := sent_send e frame
  generalize e.send frame = sent at hs
  cases hs with
  | refused => rfl
  | accepted hopen | waits hopen =>
    rw [hd] at hopen
    cases hopen

/-- Once the lifetime has ended no event makes a send succeed. -/
theorem Station.outcome?_of_isDone (hd : s.endpoint.isDone = true) {outcome : Waiting × Bool}
    (h : s.outcome? event = some outcome) : outcome.2 = false := by
  unfold outcome? at h
  split at h
  · next frame =>
    rw [send_of_isDone hd] at h
    cases h
    rfl
  · next ticket =>
    obtain ⟨place, hplace, hresumed⟩ := Option.bind_eq_some_iff.mp h
    obtain ⟨resumed, hresume, rfl⟩ := Option.map_eq_some_iff.mp hresumed
    simp only [resumeSend, hplace, hd, Bool.true_or, if_true] at hresume
    obtain rfl := Option.some.inj hresume
    rfl
  · cases h

/-- Once the lifetime has ended all sends fail. -/
theorem Station.returned_of_isDone (hd : s.endpoint.isDone = true) :
    ∀ outcome ∈ s.returned events, outcome.2 = false := by
  induction events generalizing s with
  | nil => simp [returned]
  | cons event events ih =>
    intro outcome hmem
    rw [returned, List.mem_append] at hmem
    rcases hmem with hnow | hlater
    · exact Station.outcome?_of_isDone hd (Option.mem_toList.mp hnow)
    · split at hlater
      · next t ht =>
        exact ih (isStable_isDone.after (fun _ => id) ht hd) outcome hlater
      · cases hlater

/-- When nothing can move and the lifetime has ended, no send waits. -/
theorem Settled.waiting_eq (h : Settled now e) (hd : e.isDone = true) : e.waiting = [] := by
  by_contra hne
  obtain ⟨w, rest, hwaiting⟩ := List.exists_cons_of_ne_nil hne
  have hresume : e.resumeSend w.ticket = none := Option.map_eq_none_iff.mp (h (.resume w.ticket))
  simp [resumeSend, place?_head hwaiting, hd] at hresume

end

/-! ### Main result -/

section

variable {settings : Settings} {now : Nat} {events : List Event} {s : Station}

/-- At the beginning no write is in hand. -/
theorem Station.opening_not_writing (deadline : Nat) :
    (Station.opening settings now).endpoint.writer ≠ .writing deadline := by
  intro hw
  rcases writer_start settings now with ⟨hstart, -⟩ | ⟨hstart, -⟩ <;> cases hstart.symm.trans hw

/-- A lifetime that has ended in a run has a cause in it. -/
theorem Station.hasCause_of_isDone (hrun : (Station.opening settings now).run events = some s)
    (hd : s.endpoint.isDone = true) : (Station.opening settings now).HasCause events := by
  obtain ⟨ending, he⟩ := Option.isSome_iff_exists.mp hd
  obtain ⟨first, event, last, t, rfl, ht, -, hends⟩ := Station.ended_run hrun rfl he
  refine ⟨first, event, last, t, ending.cause, rfl, ht, hends, fun hlate => ?_⟩
  rw [hlate] at hends
  cases hends with
  | writeLate hw hg hdue =>
    obtain ⟨began, hbegan, rfl⟩ := Station.writing_run ht Station.opening_not_writing hw
    exact ⟨began, hbegan, hdue⟩

/-- When a cause has come in a run, the lifetime has ended. -/
theorem Station.HasCause.isDone (hcause : (Station.opening settings now).HasCause events)
    (hrun : (Station.opening settings now).run events = some s) : s.endpoint.isDone = true := by
  obtain ⟨first, event, last, t, cause, rfl, ht, hends, -⟩ := hcause
  obtain ⟨t', ht', hlast⟩ := Option.bind_eq_some_iff.mp (Station.run_of_prefix ht hrun)
  have hledger := (closes_run ht).1
  have hledger' := isStable_courteous.after (fun handles hc => courteous_handles hc handles) ht'
    hledger
  exact isStable_isDone.run (fun _ => id) hlast (hends.done hledger.1 hledger'.1 ht')

/-- In every run, the lifetime of an endpoint has ended exactly when one of its causes has come. An
end that has come stays: every send that is made later fails, every send that waits then has failed
or was given up when nothing can move any more, and no send succeeds. When nothing can move, the
lifetime has ended exactly when the reader has stopped; and where there is a time between pings it
has ended when the writer has stopped. -/
theorem ended_of_run (hrun : (Station.opening settings now).run events = some s) :
    (s.endpoint.isDone = true ↔ (Station.opening settings now).HasCause events) ∧
    (∀ {first last : List Event} {t : Station}, events = first ++ last →
      (Station.opening settings now).run first = some t → t.endpoint.isDone = true →
        s.endpoint.isDone = true ∧ (∀ frame, (s.endpoint.send frame).1 = .finished false) ∧
        (∀ outcome ∈ t.returned last, outcome.2 = false) ∧
        (Settled s.now s.endpoint → s.endpoint.waiting = [] ∧ ∀ w ∈ t.endpoint.waiting,
          (w, false) ∈ t.returned last ∨ w ∈ s.endpoint.withdrawn)) ∧
    (Settled s.now s.endpoint → (s.endpoint.isDone = true ↔ s.endpoint.reader = .stopped)) ∧
    (settings.pingPeriod.toNanos ≠ 0 → s.endpoint.writer = .stopped →
      s.endpoint.isDone = true) := by
  have hledger := (closes_run hrun).1.1
  refine ⟨⟨Station.hasCause_of_isDone hrun, fun hcause => hcause.isDone hrun⟩, ?_, ?_, ?_⟩
  · rintro first last t rfl ht hd
    have hlast := Station.run_of_prefix ht hrun
    have hdone := isStable_isDone.run (fun _ => id) hlast hd
    have hfailed : ∀ outcome ∈ t.returned last, outcome.2 = false := Station.returned_of_isDone hd
    refine ⟨hdone, send_of_isDone hdone, hfailed, fun hsettled => ?_⟩
    have hnone := hsettled.waiting_eq hdone
    refine ⟨hnone, fun w hw => ?_⟩
    obtain ⟨-, -, htallied⟩ := Station.returned_opening ht
    rcases Station.mem_waiting_run hlast htallied hw with hwaits | ⟨success, hmem⟩ | hgiven
    · rw [hnone] at hwaits
      cases hwaits
    · obtain rfl := hfailed _ hmem
      exact Or.inl hmem
    · exact Or.inr hgiven
  · intro hsettled
    exact ⟨fun hd => reader_eq_stopped hd (hsettled .stopReading), hledger.incoming.done_of_stopped⟩
  · intro hperiod hw
    have hstopped := hledger.outgoing.done_of_stopped hw
    rw [Station.settings_run hrun] at hstopped
    exact hstopped.resolve_right hperiod

/-- A write begins after a second and is suspended, one frame is queued and one send waits; after a
write's time the write is given up. -/
def suspended : List Event :=
  [.setFlow .blocked, .tick nanosPerSecond, .send [0x61], .move .take, .send [0x62], .send [0x63],
    .tick Settings.standard.writeWait.toNanos]

/-- The send that waits fails, and so does one that is made after the end. -/
def forsaken : List Event :=
  [.move .expireWrite, .move (.resume 2), .send [0x64], .move .stopReading, .move .write]

/-- The lifetime ends for a cause, and all sends fail that have not succeeded by then. -/
theorem ended_of_run_suspended :
    ∃ s t, (Station.opening narrow 0).run (suspended ++ forsaken) = some s ∧
      (Station.opening narrow 0).run (suspended ++ [.move .expireWrite]) = some t ∧
      t.endpoint.isDone = true ∧ t.endpoint.waiting = [⟨2, [0x63]⟩] ∧
      Settled s.now s.endpoint ∧ s.endpoint.isDone = true ∧ s.endpoint.reader = .stopped ∧
      (Station.opening narrow 0).HasCause (suspended ++ forsaken) ∧
      (∀ outcome ∈ t.returned (forsaken.drop 1), outcome.2 = false) ∧
      (∀ frame, (s.endpoint.send frame).1 = .finished false) ∧ s.endpoint.waiting = [] ∧
      (⟨2, [0x63]⟩, false) ∈ t.returned (forsaken.drop 1) := by
  have hrun : ∃ s ∈ (Station.opening narrow 0).run (suspended ++ forsaken),
      Settled s.now s.endpoint ∧ s.endpoint.withdrawn = [] := by
    decide +kernel
  have hend : ∃ t ∈ (Station.opening narrow 0).run (suspended ++ [.move .expireWrite]),
      t.endpoint.isDone = true ∧ t.endpoint.waiting = [⟨2, [0x63]⟩] := by
    decide +kernel
  obtain ⟨s, hs, hsettled, hwithdrawn⟩ := hrun
  obtain ⟨t, ht, hdone, hwaiting⟩ := hend
  obtain ⟨hcause, hafter, hreader, -⟩ := ended_of_run hs
  have hsplit : suspended ++ forsaken
      = (suspended ++ [.move .expireWrite]) ++ forsaken.drop 1 := rfl
  obtain ⟨hdone', hsend, hfailed, hends⟩ := hafter hsplit ht hdone
  obtain ⟨hnone, hwaited⟩ := hends hsettled
  refine ⟨s, t, hs, ht, hdone, hwaiting, hsettled, hdone', (hreader hsettled).mp hdone',
    hcause.mp hdone', hfailed, hsend, hnone, ?_⟩
  rcases hwaited ⟨2, [0x63]⟩ (by simp [hwaiting]) with hmem | hgiven
  · exact hmem
  · rw [hwithdrawn] at hgiven
    cases hgiven

/-! ### What else ends a lifetime, and what does not -/

/-- Whether by an event something comes for which one may expect a lifetime to end: someone asks for
that, the reader meets an end, an error, a message that is too large or its deadline, a frame
arrives or is taken when the inbound queue was dropped, a write fails or is given up, or the writer
finds that nothing is left that could send. -/
def Station.isOccasion (s : Station) : Event → Bool
  | .close _ => true
  | .cancel => true
  | .shutDown => true
  | .arrive a => a.frame?.isSome && s.endpoint.consumer = .gone
  | .move .read => s.endpoint.arrivals.head?.any fun a =>
      a.isEnd || a.isTooLarge s.endpoint.settings.maxMessageSize || s.endpoint.consumer = .gone
  | .move .expireRead => true
  | .move .write => s.endpoint.flow = .failing
  | .move .expireWrite => true
  | .move .stopWriting => !s.endpoint.hasSender
  | _ => false

/-- Two frames arrive; the second one finds no room in the inbound queue, which is dropped then. -/
def heldBack : List Event :=
  [.takeInbound, .arrive (.message (.text "a")), .arrive (.message (.text "b")), .move .read,
    .move .deliver, .move .read, .dropInbound, .move .deliver]

/-- Settings without a time between pings. -/
def pingless : Settings := { Settings.standard with pingPeriod := .ofSecs 0 }

/-- The frame that was held when the queue was dropped ends the lifetime, although none arrived
later. Without a time between pings the writer has stopped from the beginning, and when nothing can
move the lifetime has not ended. -/
theorem isDone_heldBack :
    (∃ s, (Station.opening shallow 0).run heldBack = some s ∧
      (Station.opening shallow 0).always (fun s event => !s.isOccasion event) heldBack = true ∧
      s.endpoint.isDone = true) ∧
    ∃ s, (Station.opening pingless 0).run [] = some s ∧ Settled s.now s.endpoint ∧
      s.endpoint.writer = .stopped ∧ s.endpoint.isDone = false := by
  have hheld : ∃ s ∈ (Station.opening shallow 0).run heldBack,
      (Station.opening shallow 0).always (fun s event => !s.isOccasion event) heldBack = true ∧
      s.endpoint.isDone = true := by
    decide +kernel
  have hstopped : ∃ s ∈ (Station.opening pingless 0).run [], Settled s.now s.endpoint ∧
      s.endpoint.writer = .stopped ∧ s.endpoint.isDone = false := by
    decide +kernel
  obtain ⟨s, hs, hstate⟩ := hheld
  obtain ⟨s', hs', hstate'⟩ := hstopped
  exact ⟨⟨s, hs, hstate⟩, s', hs', hstate'⟩

end

end Switchboard.Endpoint
