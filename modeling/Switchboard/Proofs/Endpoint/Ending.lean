import Switchboard.Proofs.Endpoint.Observation
/-!
# How a lifetime ends

A lifetime that ends in a run ends by an event, for a cause that was there (`Station.Ends`). One of
these causes is silence: the reader gives up when no pong has come for the time that it waits. It
counts this time from the last pong that it has taken, or from its beginning (`heard_run`), so a
listening reader is settled only before the deadline, and does not meet it as long as each pong is
taken before that time is over (`readDeadline_of_run`).
-/

namespace Switchboard

/-- Whether a pong arrives. -/
def Wire.Arrival.isPong : Wire.Arrival → Bool
  | .message m => m.content = .pong
  | .failure _ => false
  | .finish => false

namespace Endpoint

open Wire

/-! ### Definitions -/

/-- By an event a lifetime ends, for a cause. -/
inductive Station.Ends (s : Station) : Event → Cause → Prop
  | closed (code : CloseCode) : s.Ends (.close code) (.closed code)
  | shutDown : s.Ends .shutDown (.closed CloseCode.normal)
  | scopeEnded : s.Ends .cancel .scopeEnded
  | remoteClosed {m : Message} {code : Option CloseCode} {rest : List Arrival}
    (hr : s.endpoint.reader = .listening) (ha : s.endpoint.arrivals = .message m :: rest)
    (hm : m.content = .close code) : s.Ends (.move .read) .remoteClosed
  | remoteFinished {rest : List Arrival} (hr : s.endpoint.reader = .listening)
    (ha : s.endpoint.arrivals = .finish :: rest) : s.Ends (.move .read) .remoteFinished
  | readFailed {err : SocketError} {rest : List Arrival} (hr : s.endpoint.reader = .listening)
    (ha : s.endpoint.arrivals = .failure err :: rest) (he : err.isTooLarge = false) :
    s.Ends (.move .read) .readFailed
  | tooLarge {a : Arrival} {rest : List Arrival} (hr : s.endpoint.reader = .listening)
    (ha : s.endpoint.arrivals = a :: rest)
    (hs : a.isTooLarge s.endpoint.settings.maxMessageSize = true) : s.Ends (.move .read) .tooLarge
  | silent (hr : s.endpoint.reader = .listening) (ha : s.endpoint.arrivals = [])
    (hd : s.endpoint.readDeadline ≤ s.now) : s.Ends (.move .expireRead) .silent
  /-- A frame is held that nobody will take. -/
  | unwanted {frame : Bytes} (hr : s.endpoint.reader = .offering frame)
    (hc : s.endpoint.consumer = .gone) : s.Ends (.move .deliver) .unwanted
  | writeFailed {deadline : Nat} (hw : s.endpoint.writer = .writing deadline)
    (hf : s.endpoint.flow = .failing) : s.Ends (.move .write) .writeFailed
  | writeLate {deadline : Nat} (hw : s.endpoint.writer = .writing deadline)
    (hg : s.endpoint.goOn s.now = none) (hd : deadline ≤ s.now) :
    s.Ends (.move .expireWrite) .writeLate
  /-- Nothing is left that could send. -/
  | abandoned (ho : s.endpoint.outbound = []) (hs : s.endpoint.hasSender = false) :
    s.Ends (.move .stopWriting) .abandoned

/-- The time at which the reader takes a pong by an event. -/
def Station.pong? (s : Station) : Event → Option Nat
  | .move .read => if s.endpoint.arrivals.head?.any Arrival.isPong then some s.now else none
  | _ => none

/-- The times at which the reader takes pongs in a run. -/
def Station.pongs (s : Station) (events : List Event) : List Nat := s.observe Station.pong? events

/-- The reader holds a frame for which the inbound queue has no room. -/
def IsHeldUp (e : Endpoint) : Prop :=
  ∃ frame, e.reader = .offering frame ∧ e.settings.inboundCapacity ≤ e.inbound.length

section

variable {e e' : Endpoint} {now : Nat} {m : Move} {s s' : Station} {event : Event}
  {events : List Event} {cause : Cause} {ending : Ending}

/-! ### The end of a lifetime -/

/-- A lifetime that would end now ends now, or has ended. -/
theorem endedBy_or (e : Endpoint) (now : Nat) (cause : Cause) : e.endedBy now cause = e.ending ∨
    e.ending = none ∧ e.endedBy now cause = some ⟨now, cause⟩ := by
  cases he : e.ending with
  | none => exact Or.inr ⟨rfl, by rw [endedBy, he, Option.getD_none]⟩
  | some ending => exact Or.inl (endedBy_of_ending he now cause)

/-- A step that ends the lifetime has a cause. -/
theorem Station.ending_step (h : Step s.now s.endpoint m e) : e.ending = s.endpoint.ending ∨
    ∃ cause, s.Ends (.move m) cause ∧ e.ending = s.endpoint.endedBy s.now cause := by
  cases h with
  | reader h =>
    cases h with
    | data | pong | other | delivered => exact Or.inl rfl
    | ended _ he =>
      rw [stopReader_eq]
      exact Or.inl ((endedBy_of_ending he _ _).trans he.symm)
    | oversized hr ha hm hs =>
      rw [stopReader_eq]
      exact Or.inr ⟨.tooLarge, .tooLarge hr ha (isTooLarge_message.mpr ⟨_, hm, hs⟩), rfl⟩
    | closed hr ha hm =>
      rw [stopReader_eq]
      exact Or.inr ⟨.remoteClosed, .remoteClosed hr ha hm, rfl⟩
    | refused hr ha he =>
      rw [stopReader_eq]
      exact Or.inr ⟨.tooLarge, .tooLarge hr ha he, rfl⟩
    | failed hr ha he =>
      rw [stopReader_eq]
      exact Or.inr ⟨.readFailed, .readFailed hr ha he, rfl⟩
    | finished hr ha =>
      rw [stopReader_eq]
      exact Or.inr ⟨.remoteFinished, .remoteFinished hr ha, rfl⟩
    | expired hr ha hd =>
      rw [stopReader_eq]
      exact Or.inr ⟨.silent, .silent hr ha hd, rfl⟩
    | unwanted hr hc =>
      rw [stopReader_eq]
      exact Or.inr ⟨.unwanted, .unwanted hr hc, rfl⟩
  | writer h =>
    cases h with
    | take | ping | wrote => exact Or.inl rfl
    | ended _ he =>
      rw [beginFarewell_eq]
      exact Or.inl ((endedBy_of_ending he _ _).trans he.symm)
    | abandoned _ _ ho hs =>
      rw [beginFarewell_eq]
      exact Or.inr ⟨.abandoned, .abandoned ho hs, rfl⟩
    | failed hw _ hf =>
      rw [beginFarewell_eq]
      exact Or.inr ⟨.writeFailed, .writeFailed hw hf, rfl⟩
    | late hw hg hd =>
      rw [beginFarewell_eq]
      exact Or.inr ⟨.writeLate, .writeLate hw hg hd, rfl⟩
  | farewell _ h => cases h <;> exact Or.inl rfl
  | accepted | refused | writerGone | aborted => exact Or.inl rfl
  | readerGone => exact Or.inl (Undisturbed.dropOwner _).ending

/-- An event that ends the lifetime has a cause. -/
theorem Station.ending_after (h : s.after event = some s') :
    s'.endpoint.ending = s.endpoint.ending ∨
      ∃ cause, s.Ends event cause ∧ s'.endpoint.ending = s.endpoint.endedBy s.now cause := by
  cases event with
  | move m =>
    obtain ⟨e, he, rfl⟩ := Option.map_eq_some_iff.mp h
    exact Station.ending_step (step_of_perform he)
  | close code =>
    cases h
    exact Or.inr ⟨_, .closed code, by rw [close_eq]⟩
  | shutDown =>
    cases h
    exact Or.inr ⟨_, .shutDown, by rw [Endpoint.shutDown, close_eq]⟩
  | cancel =>
    cases h
    exact Or.inr ⟨_, .scopeEnded, by rw [Endpoint.cancel, finish_eq]⟩
  | _ => exact Or.inl (Undisturbed.of_isQuiet h rfl).ending

/-- A lifetime that has ended in a run has ended by one of its events. -/
theorem Station.ended_run (hrun : s.run events = some s') (hnone : s.endpoint.ending = none)
    (he : s'.endpoint.ending = some ending) :
    ∃ first event last t, events = first ++ event :: last ∧ s.run first = some t ∧
      t.now = ending.time ∧ t.Ends event ending.cause := by
  induction events generalizing s with
  | nil =>
    obtain rfl := Option.some.inj hrun
    cases hnone.symm.trans he
  | cons event events ih =>
    obtain ⟨t, ht, hrest⟩ := Option.bind_eq_some_iff.mp hrun
    -- As long as nothing has ended the lifetime the rest of the run does.
    have hlater (htnone : t.endpoint.ending = none) : ∃ first x last u,
        event :: events = first ++ x :: last ∧ s.run first = some u ∧ u.now = ending.time ∧
          u.Ends x ending.cause := by
      obtain ⟨first, x, last, u, rfl, hu, htime, hends⟩ := ih hrest htnone
      exact ⟨event :: first, x, last, u, rfl, Option.bind_eq_some_iff.mpr ⟨t, ht, hu⟩, htime, hends⟩
    rcases Station.ending_after ht with hkept | ⟨cause, hends, hended⟩
    · exact hlater (hkept.trans hnone)
    · rcases endedBy_or s.endpoint s.now cause with hkept | ⟨-, hnow⟩
      · exact hlater (hended.trans (hkept.trans hnone))
      · have hstays : s'.endpoint.ending = some ⟨s.now, cause⟩ := by
          have hstable : IsStable fun _ e => e.ending = some ⟨s.now, cause⟩ :=
            ⟨fun h hp => (Follows.act h).ending hp, fun _ => id, fun _ => id, fun _ => id⟩
          exact hstable.run (fun _ => id) hrest (hended.trans hnow)
        obtain rfl := Option.some.inj (he.symm.trans hstays)
        exact ⟨[], event, events, s, rfl, rfl, rfl, hends⟩

/-- A settled endpoint whose lifetime has ended has a reader that has stopped. -/
theorem reader_eq_stopped (hd : e.isDone = true) (hs : e.perform now .stopReading = none) :
    e.reader = .stopped := by
  obtain ⟨ending, he⟩ := Option.isSome_iff_exists.mp hd
  by_contra hr
  simp [perform, he, hr] at hs

/-! ### Pongs -/

/-- The reader hears by taking a pong. -/
theorem heard_readerStep (h : ReaderStep now e m e') :
    e'.heard = if m = .read ∧ e.arrivals.head?.any Arrival.isPong = true then now else e.heard := by
  cases h with
  | data _ ha hm => simp [took, ha, Arrival.isPong, hm]
  | pong _ ha hm => simp [ha, Arrival.isPong, hm]
  | other _ ha hm => rcases hm with hm | hm <;> simp [took, ha, Arrival.isPong, hm]
  | oversized _ ha hm => simp [stopReader_eq, took, ha, Arrival.isPong, hm]
  | closed _ ha hm => simp [stopReader_eq, took, ha, Arrival.isPong, hm]
  | refused _ ha | failed _ ha | finished _ ha => simp [stopReader_eq, took, ha, Arrival.isPong]
  | expired | unwanted | ended => simp [stopReader_eq]
  | delivered => simp

/-- Nothing else is heard by a step. -/
theorem heard_step (h : Step now e m e') :
    e'.heard = if m = .read ∧ e.arrivals.head?.any Arrival.isPong = true then now else e.heard := by
  cases h with
  | reader h => exact heard_readerStep h
  | writer h =>
    cases h with
    | take | ping | wrote => simp [writeSlot, record]
    | _ => simp [beginFarewell_eq]
  | farewell _ h => cases h <;> simp [writeSlot, record, stopWriter]
  | accepted | refused | writerGone => simp
  | readerGone =>
    rw [if_neg (by simp)]
    exact (Undisturbed.dropOwner e).heard
  | aborted => simp [stopWriter]

/-- A pong is taken now. -/
theorem Station.pong?_eq {time : Nat} (h : s.pong? event = some time) : time = s.now := by
  unfold pong? at h
  split at h
  · split_ifs at h
    exact (Option.some.inj h).symm
  · cases h

/-- What was heard last was heard by an event, or before. -/
theorem Station.heard_after (h : s.after event = some s') :
    s'.endpoint.heard = (s.pong? event).getD s.endpoint.heard := by
  cases event with
  | move m =>
    obtain ⟨e, he, rfl⟩ := Option.map_eq_some_iff.mp h
    rw [heard_step (step_of_perform he)]
    cases m with
    | read => by_cases hpong : s.endpoint.arrivals.head?.any Arrival.isPong <;> simp [pong?, hpong]
    | _ => simp [pong?]
  | close code =>
    cases h
    rw [close_eq]
    rfl
  | cancel =>
    cases h
    rw [Endpoint.cancel, finish_eq]
    rfl
  | shutDown =>
    cases h
    rw [Endpoint.shutDown, close_eq]
    rfl
  | _ => exact (Undisturbed.of_isQuiet h rfl).heard

/-- What was heard last in a run is the last pong that the reader took. -/
theorem Station.heard_run (hrun : s.run events = some s') :
    s'.endpoint.heard = (s.pongs events).getLastD s.endpoint.heard := by
  refine Station.observe_run (l := [])
    (R := fun t times => t.endpoint.heard = times.getLastD s.endpoint.heard) ?_ hrun rfl
  intro t u event times hafter ht
  rw [Station.heard_after hafter]
  cases hpong : t.pong? event with
  | none => rw [Option.getD_none, Option.toList_none, List.append_nil, ht]
  | some time => rw [Option.getD_some, Option.toList_some, List.getLastD_concat]

/-! ### The read deadline -/

/-- While the lifetime lasts the reader goes on. -/
theorem Incoming.reader_ne (hl : Incoming e) (hd : e.isDone = false) : e.reader ≠ .stopped := by
  intro hr
  rw [hl.done_of_stopped hr] at hd
  cases hd

/-- A reader that goes on and cannot move has taken all that has arrived, or it waits for room. -/
theorem reader_cases (hr : e.reader ≠ .stopped) (hread : e.perform now .read = none)
    (hdeliver : e.perform now .deliver = none) :
    e.reader = .listening ∧ e.arrivals = [] ∨ e.IsHeldUp := by
  cases hreader : e.reader with
  | stopped => exact absurd hreader hr
  | listening =>
    cases ha : e.arrivals with
    | nil => exact Or.inl ⟨rfl, rfl⟩
    | cons a rest => simp [perform, hreader, ha] at hread
  | offering frame =>
    refine Or.inr ⟨frame, hreader, Nat.le_of_not_lt fun hroom => ?_⟩
    by_cases hc : e.consumer = .gone <;> simp [perform, hreader, hc, hroom] at hdeliver

/-- When nothing can move, a reader that goes on and does not wait for room listens, and its
deadline has not come. -/
theorem Settled.now_lt_readDeadline (h : Settled now e) (hl : Incoming e) (hd : e.isDone = false)
    (hheld : ¬ e.IsHeldUp) : now < e.readDeadline := by
  obtain ⟨hr, ha⟩ := (reader_cases (hl.reader_ne hd) (h .read) (h .deliver)).resolve_right hheld
  have hexpire := h .expireRead
  simpa [perform, hr, ha] using hexpire

/-- Time does not go back. -/
theorem Station.now_after (h : s.after event = some s') : s.now ≤ s'.now := by
  cases Station.turn h with
  | tick nanos => exact Nat.le_add_right _ _
  | _ => exact Nat.le_refl _

/-- The reader gives up only when its deadline has come. -/
theorem Station.readDeadline_le (h : s.after (.move .expireRead) = some s') :
    s.endpoint.readDeadline ≤ s.now := by
  cases Station.turn h with
  | move hstep =>
    cases hstep with
    | reader hstep =>
      cases hstep with
      | expired _ _ hd => exact hd
    | writer hstep => cases hstep
    | farewell _ hstep => cases hstep
  | use _ ha => cases ha
  | handles _ ha => cases ha

/-- A reader that takes each pong before its time to wait is over is before its deadline, and does
not give up. -/
theorem Station.expireRead_notMem {window : Nat} (hrun : s.run events = some s')
    (hwindow : s.endpoint.settings.pongWait.toNanos = window)
    (hpongs : (s.endpoint.heard :: s.pongs events ++ [s'.now]).IsChain
      fun earlier later => later < earlier + window) :
    s.now < s.endpoint.heard + window ∧ .move .expireRead ∉ events := by
  induction events generalizing s with
  | nil =>
    obtain rfl := Option.some.inj hrun
    exact ⟨(List.isChain_cons_cons.mp hpongs).1, List.not_mem_nil⟩
  | cons event events ih =>
    obtain ⟨t, ht, hrest⟩ := Option.bind_eq_some_iff.mp hrun
    have hsettings : t.endpoint.settings.pongWait.toNanos = window := by
      rw [Station.settings_after ht, hwindow]
    have hheard := Station.heard_after ht
    rw [pongs, Station.observe_cons ht] at hpongs
    -- The reader is before its deadline, and the rest of the run begins with what it heard last.
    obtain ⟨hbefore, hchain⟩ : s.now < s.endpoint.heard + window ∧
        (t.endpoint.heard :: t.pongs events ++ [s'.now]).IsChain
          fun earlier later => later < earlier + window := by
      cases hpong : s.pong? event with
      | none =>
        rw [hpong, Option.getD_none] at hheard
        rw [hpong, Option.toList_none, List.nil_append, ← hheard] at hpongs
        obtain ⟨hnext, -⟩ := ih hrest hsettings hpongs
        rw [hheard] at hnext
        exact ⟨(Station.now_after ht).trans_lt hnext, hpongs⟩
      | some time =>
        rw [hpong, Option.getD_some] at hheard
        rw [hpong, Option.toList_some] at hpongs
        obtain ⟨hfirst, hlater⟩ := List.isChain_cons_cons.mp hpongs
        rw [Station.pong?_eq hpong] at hfirst
        exact ⟨hfirst, hheard ▸ hlater⟩
    refine ⟨hbefore, List.not_mem_cons_of_ne_of_not_mem ?_ (ih hrest hsettings hchain).2⟩
    rintro rfl
    have hdeadline := Station.readDeadline_le ht
    rw [readDeadline, hwindow] at hdeadline
    exact absurd hbefore (Nat.not_lt.mpr hdeadline)

end

/-! ### Main result -/

section

variable {settings : Settings} {now : Nat} {events : List Event} {s : Station}

/-- In every run, when nothing can move, the lifetime lasts and the reader does not wait for room,
the clock is before the deadline that the last pong has set, or the beginning if there was none. As
long as each pong is taken before the deadline that the one before it has set, and the clock stays
before that of the last one, the deadline does not end the lifetime. -/
theorem readDeadline_of_run (hrun : (Station.opening settings now).run events = some s) :
    (Settled s.now s.endpoint → s.endpoint.isDone = false → ¬ s.endpoint.IsHeldUp →
      s.now < ((Station.opening settings now).pongs events).getLastD now
        + settings.pongWait.toNanos) ∧
    ((now :: (Station.opening settings now).pongs events ++ [s.now]).IsChain
        (fun earlier later => later < earlier + settings.pongWait.toNanos) →
      .move .expireRead ∉ events ∧
        ∀ ending ∈ s.endpoint.ending, ending.cause ≠ .silent) := by
  constructor
  · intro hsettled hdone hheld
    have hdeadline := hsettled.now_lt_readDeadline (closes_run hrun).1.1.incoming hdone hheld
    rwa [readDeadline, Station.heard_run hrun, Station.settings_run hrun] at hdeadline
  · intro hpongs
    obtain ⟨-, hmem⟩ := Station.expireRead_notMem hrun rfl hpongs
    refine ⟨hmem, ?_⟩
    rintro ending he hsilent
    obtain ⟨first, event, last, t, rfl, -, -, hends⟩ := Station.ended_run hrun rfl he
    rw [hsilent] at hends
    cases hends
    simp at hmem

/-- A pong is taken after four seconds; a ping is written after nine, and a frame arrives. -/
def answered : List Event :=
  [.arrive (.message (.pong [])), .tick (4 * nanosPerSecond), .move .read,
    .tick (5 * nanosPerSecond), .move .ping, .move .write, .arrive (.message (.text "a")),
    .move .read, .move .deliver, .tick (4 * nanosPerSecond)]

/-- After thirteen seconds the deadline is still to come: it is ten seconds after the pong. -/
theorem readDeadline_of_run_answered :
    ∃ s, (Station.opening .standard 0).run answered = some s ∧ Settled s.now s.endpoint ∧
      s.endpoint.isDone = false ∧ ¬ s.endpoint.IsHeldUp ∧
      (Station.opening .standard 0).pongs answered = [4 * nanosPerSecond] ∧
      13 * nanosPerSecond < 4 * nanosPerSecond + Settings.standard.pongWait.toNanos ∧
      ([0, 4 * nanosPerSecond, 13 * nanosPerSecond].IsChain
        fun earlier later => later < earlier + Settings.standard.pongWait.toNanos) ∧
      .move .expireRead ∉ answered ∧ ∀ ending ∈ s.endpoint.ending, ending.cause ≠ .silent := by
  have hrun : ∃ s ∈ (Station.opening .standard 0).run answered, Settled s.now s.endpoint ∧
      s.endpoint.isDone = false ∧ s.endpoint.reader = .listening ∧
      s.now = 13 * nanosPerSecond := by
    decide +kernel
  have hpongs : (Station.opening .standard 0).pongs answered = [4 * nanosPerSecond] := by
    decide +kernel
  obtain ⟨s, hs, hsettled, hdone, hr, hnow⟩ := hrun
  have hheld : ¬ s.endpoint.IsHeldUp := by
    rintro ⟨frame, hoffering, -⟩
    cases hr.symm.trans hoffering
  have hchain : ([0, 4 * nanosPerSecond, 13 * nanosPerSecond] : List Nat).IsChain
      fun earlier later => later < earlier + Settings.standard.pongWait.toNanos := by
    decide
  obtain ⟨hdeadline, hsilent⟩ := readDeadline_of_run hs
  have hbefore := hdeadline hsettled hdone hheld
  rw [hpongs, hnow] at hbefore hsilent
  obtain ⟨hmem, hcause⟩ := hsilent hchain
  exact ⟨s, hs, hsettled, hdone, hheld, hpongs, hbefore, hchain, hmem, hcause⟩

end

end Endpoint

end Switchboard
