import Switchboard.Proofs.Endpoint.Effort
/-!
# The cadence of pings

A ping is due whenever one more time between pings is over. The writer takes up each of them once,
and not before it is due, so the pings that it has taken up never outnumber those that were due
(`Paced`). It may be late: while a write is suspended no ping is taken up, and those that have come
due meanwhile are made up for afterwards. But it is never behind for long. As long as the lifetime
lasts and no write is suspended, a writer that is behind can go on at once, either with the message
in its hands or with the next ping, whatever else is queued; and since an endpoint comes to rest
after a bounded number of moves, it then has written as many pings as were due (`pings_of_run`).
-/

namespace Switchboard

namespace Wire

/-- Whether a message is a ping. -/
def Message.isPing : Message → Bool
  | .ping _ => true
  | _ => false

/-- Whether a ping was written. -/
def Output.isPing : Output → Bool
  | .message m => m.isPing
  | .hangUp => false

/-- A frame's message is no ping. -/
@[simp] theorem isPing_ofFrame (f : Bytes) : (Message.ofFrame f).isPing = false := by
  unfold Message.ofFrame
  split <;> rfl

end Wire

namespace Endpoint

open Wire

/-! ### Definitions -/

/-- The times at which pings were written. -/
def pingTimes (e : Endpoint) : List Nat := (e.written.filter (·.2.isPing)).map (·.1)

/-- How many pings are being written. -/
def pingsHeld (e : Endpoint) : Nat := (e.slot.filter Message.isPing).toList.length

/-- The socket suspends the message that is being written. -/
def IsWriteSuspended (e : Endpoint) : Prop := e.slot ≠ none ∧ e.flow = .blocked

/-- An endpoint that began at a time keeps its pace: no ping was taken up or written before it was
due, none was written that was not taken up, and while the queue is open none of these is lost. -/
structure Paced (born now : Nat) (e : Endpoint) : Prop where
  born_eq : e.born = born
  due : born + e.pings * e.settings.pingPeriod.toNanos ≤ now
  timed : ∀ k time, e.pingTimes[k]? = some time →
    born + (k + 1) * e.settings.pingPeriod.toNanos ≤ time ∧ time ≤ now
  counted : e.pingTimes.length + e.pingsHeld ≤ e.pings
  whole : e.isClosed = false → e.pingTimes.length + e.pingsHeld = e.pings

section

variable {e e' : Endpoint} {born now : Nat} {m : Move}

/-! ### Times -/

/-- What each time meets at its place, and one more at the end, they all meet. -/
theorem forall_concat {P : Nat → Nat → Prop} {times : List Nat} {last : Nat}
    (h : ∀ k time, times[k]? = some time → P k time) (hlast : P times.length last) :
    ∀ k time, (times ++ [last])[k]? = some time → P k time := by
  intro k time hk
  rcases Nat.lt_trichotomy k times.length with hlt | rfl | hgt
  · rw [List.getElem?_append_left hlt] at hk
    exact h k time hk
  · obtain rfl : last = time := by simpa using hk
    exact hlast
  · rw [List.getElem?_eq_none (by simpa using hgt)] at hk
    cases hk

/-- Of times that are each one period later than the one before, only so many have come. -/
theorem countP_le_div {times : List Nat} {base period t : Nat} (hp : period ≠ 0)
    (h : ∀ k time, times[k]? = some time → base + (k + 1) * period ≤ time) :
    times.countP (· ≤ t) ≤ (t - base) / period := by
  induction times using List.reverseRecOn with
  | nil => exact Nat.zero_le _
  | append_singleton times last ih =>
    have hearlier := ih fun k time hk =>
      h k time (by rw [List.getElem?_append_left (List.getElem?_eq_some_iff.mp hk).1, hk])
    rw [List.countP_append, List.countP_singleton]
    split_ifs with hlast
    · have hdue := h times.length last (by simp)
      have hcount : times.countP (· ≤ t) ≤ times.length := List.countP_le_length
      have hall : times.length + 1 ≤ (t - base) / period := by
        rw [Nat.le_div_iff_mul_le (Nat.pos_of_ne_zero hp)]
        have hcome := of_decide_eq_true hlast
        omega
      omega
    · exact hearlier

/-- No more pings were taken up than were due. -/
theorem Paced.pings_le (h : Paced born now e) (hp : e.settings.pingPeriod.toNanos ≠ 0) :
    e.pings ≤ (now - born) / e.settings.pingPeriod.toNanos := by
  rw [Nat.le_div_iff_mul_le (Nat.pos_of_ne_zero hp)]
  have hdue := h.due
  omega

/-! ### Every step -/

/-- The fields that say how many pings there were. -/
theorem Paced.of_eq (h : Paced born now e) (hborn : e'.born = e.born) (hpings : e'.pings = e.pings)
    (hheld : e'.pingsHeld = e.pingsHeld) (htimes : e'.pingTimes = e.pingTimes)
    (hsettings : e'.settings = e.settings) (hc : e'.isClosed = false → e.isClosed = false) :
    Paced born now e' := by
  constructor
  · exact hborn.trans h.born_eq
  · rw [hpings, hsettings]
    exact h.due
  · rw [htimes, hsettings]
    exact h.timed
  · rw [htimes, hheld, hpings]
    exact h.counted
  · rw [htimes, hheld, hpings]
    exact fun hopen => h.whole (hc hopen)

/-- What is written from the slot comes last. -/
theorem pingTimes_writeSlot (e : Endpoint) (now : Nat) (m : Message) :
    (e.writeSlot now m).pingTimes = e.pingTimes ++ if m.isPing then [now] else [] := by
  split_ifs with hm <;> simp [pingTimes, writeSlot, record, Output.isPing, hm]

/-- A ping that is written was held, and it was due. -/
theorem Paced.writeSlot (h : Paced born now e) {m : Message} (hs : e.slot = some m) :
    Paced born now (e.writeSlot now m) := by
  have hempty : (e.writeSlot now m).pingsHeld = 0 := rfl
  have htimes := pingTimes_writeSlot e now m
  cases hm : m.isPing with
  | false =>
    have hheld : e.pingsHeld = 0 := by simp [pingsHeld, hs, hm]
    rw [if_neg (by simp [hm]), List.append_nil] at htimes
    exact h.of_eq rfl rfl (hempty.trans hheld.symm) htimes rfl id
  | true =>
    have hheld : e.pingsHeld = 1 := by simp [pingsHeld, hs, hm]
    rw [if_pos hm] at htimes
    have hlength : (e.writeSlot now m).pingTimes.length = e.pingTimes.length + 1 := by
      rw [htimes, List.length_append, List.length_singleton]
    have hcounted := h.counted
    refine ⟨h.born_eq, h.due, ?_, ?_, fun hopen => ?_⟩
    · have hless : (e.pingTimes.length + 1) * e.settings.pingPeriod.toNanos
          ≤ e.pings * e.settings.pingPeriod.toNanos := Nat.mul_le_mul_right _ (by omega)
      rw [htimes]
      exact forall_concat h.timed ⟨(Nat.add_le_add_left hless born).trans h.due, Nat.le_refl _⟩
    · change _ ≤ e.pings
      omega
    · have hwhole : e.pingTimes.length + e.pingsHeld = e.pings := h.whole hopen
      change _ = e.pings
      omega

/-- Whatever a writer that stops has held, it has written no more. -/
theorem Paced.stopWriter (h : Paced born now e) : Paced born now e.stopWriter := by
  refine ⟨h.born_eq, h.due, h.timed, ?_, ?_⟩
  · exact (Nat.le_add_right _ _).trans h.counted
  · rintro ⟨⟩

/-- The end of a connection is no ping. -/
theorem Paced.hangUp (h : Paced born now e) : Paced born now (e.record now .hangUp) := by
  have htimes : (e.record now .hangUp).pingTimes = e.pingTimes := by
    simp [pingTimes, record, Output.isPing]
  exact h.of_eq rfl rfl rfl htimes rfl id

/-- A writer keeps its pace while the lifetime lasts: it takes up a ping that is due. -/
theorem Paced.writerStep (h : WriterStep now e m e') (hl : Outgoing e) (hp : Paced born now e) :
    Paced born now e' := by
  cases h with
  | take hw ho =>
    have hslot := hl.slot_of_idle hw
    refine hp.of_eq rfl rfl ?_ rfl rfl fun _ => by rw [isClosed, hw]
    simp [pingsHeld, hslot]
  | ping hw hd =>
    have hheld : e.pingsHeld = 0 := by simp [pingsHeld, hl.slot_of_idle hw]
    have hwhole := hp.whole (by rw [isClosed, hw])
    rw [nextPing, hp.born_eq] at hd
    refine ⟨hp.born_eq, hd, hp.timed, ?_, fun _ => ?_⟩
    · change e.pingTimes.length + 1 ≤ e.pings + 1
      omega
    · change e.pingTimes.length + 1 = e.pings + 1
      omega
  | wrote hw hs =>
    exact (hp.writeSlot hs).of_eq rfl rfl rfl rfl rfl fun _ => by
      rw [isClosed, show (e.writeSlot now _).writer = _ from hw]
  | ended | abandoned | failed | late =>
    rw [beginFarewell_eq]
    exact hp.of_eq rfl rfl rfl rfl rfl (by rintro ⟨⟩)

/-- A writer keeps its pace in its farewell: it takes up no ping. -/
theorem Paced.farewellStep {code : CloseCode} {stage : Farewell} {deadline : Nat}
    (h : FarewellStep now e code deadline stage m e') (hp : Paced born now e) :
    Paced born now e' := by
  cases h with
  | fetch | drained | failedClose => exact hp.of_eq rfl rfl rfl rfl rfl (by rintro ⟨⟩)
  | load hs =>
    refine hp.of_eq rfl rfl ?_ rfl rfl (by rintro ⟨⟩)
    simp [pingsHeld, hs]
  | loadClose hs =>
    refine hp.of_eq rfl rfl ?_ rfl rfl (by rintro ⟨⟩)
    simp [pingsHeld, hs, Message.closing, Message.isPing]
  | clear hs => exact hp.writeSlot hs
  | flushed hs | flushedClose hs =>
    exact (hp.writeSlot hs).of_eq rfl rfl rfl rfl rfl (by rintro ⟨⟩)
  | hungUp => exact hp.hangUp.stopWriter
  | failed | late => exact (hp.stopWriter).of_eq rfl rfl rfl rfl rfl (by rintro ⟨⟩)

/-- An owner that lets go does not change the pace. -/
theorem Paced.dropOwner (hp : Paced born now e) : Paced born now e.dropOwner := by
  rw [dropOwner_eq]
  split_ifs <;> exact hp.of_eq rfl rfl rfl rfl rfl id

/-- Every step keeps the pace. -/
theorem Paced.step (h : Step now e m e') (hl : Outgoing e) (hp : Paced born now e) :
    Paced born now e' := by
  cases h with
  | reader h =>
    cases h with
    | data | pong | other | delivered => exact hp.of_eq rfl rfl rfl rfl rfl id
    | _ =>
      rw [stopReader_eq]
      exact hp.of_eq rfl rfl rfl rfl rfl id
  | writer h => exact hp.writerStep h hl
  | farewell _ h => exact hp.farewellStep h
  | accepted | refused | writerGone => exact hp.of_eq rfl rfl rfl rfl rfl id
  | readerGone => exact hp.dropOwner.of_eq rfl rfl rfl rfl rfl id
  | aborted => exact hp.stopWriter.of_eq rfl rfl rfl rfl rfl (by rintro ⟨⟩)

/-- Every use keeps the pace. -/
theorem Paced.use (h : Use now e e') (hp : Paced born now e) : Paced born now e' := by
  cases h with
  | send frame =>
    have hs := sent_send e frame
    generalize e.send frame = sent at hs
    cases hs <;> exact hp.of_eq rfl rfl rfl rfl rfl id
  | takeInbound =>
    unfold Endpoint.takeInbound
    split <;> exact hp.of_eq rfl rfl rfl rfl rfl id
  | receive =>
    unfold Endpoint.receive
    split <;> exact hp.of_eq rfl rfl rfl rfl rfl id
  | dropOwner => exact hp.dropOwner
  | withdraw | dropInbound => exact hp.of_eq rfl rfl rfl rfl rfl id
  | close code =>
    rw [close_eq]
    exact hp.of_eq rfl rfl rfl rfl rfl id
  | shutDown =>
    rw [Endpoint.shutDown, close_eq]
    exact hp.of_eq rfl rfl rfl rfl rfl id
  | cancel =>
    rw [Endpoint.cancel, finish_eq]
    exact hp.of_eq rfl rfl rfl rfl rfl id

/-- The pace is stable, together with the ledger. -/
theorem isStable_paced (born : Nat) : IsStable fun now e => Ledger e ∧ Paced born now e where
  act h hp := by
    refine ⟨hp.1.act h, ?_⟩
    rcases h.step_or_use with ⟨m, h⟩ | h
    · exact hp.2.step h hp.1.outgoing
    · exact hp.2.use h
  arrive a hp := ⟨hp.1.arrive a, hp.2.of_eq rfl rfl rfl rfl rfl id⟩
  setFlow flow hp := ⟨hp.1.setFlow flow, hp.2.of_eq rfl rfl rfl rfl rfl id⟩
  later hle hp := by
    obtain ⟨hl, hborn, hdue, htimed, hcounted, hwhole⟩ := hp
    refine ⟨hl, hborn, hdue.trans hle, fun k time hk => ?_, hcounted, hwhole⟩
    exact ⟨(htimed k time hk).1, (htimed k time hk).2.trans hle⟩

/-- At the beginning no ping is due. -/
theorem Paced.start (settings : Settings) (now : Nat) : Paced now now (start settings now) where
  born_eq := rfl
  due := by simp [Endpoint.start]
  timed k time hk := by simp [pingTimes, Endpoint.start] at hk
  counted := Nat.le_refl _
  whole _ := rfl

/-! ### A writer that is behind -/

/-- While the lifetime lasts and no write is suspended, a writer that is behind goes on with what it
writes, or takes up the next ping. -/
theorem Paced.goes_on (h : Paced born now e) (hl : Outgoing e)
    (hp : e.settings.pingPeriod.toNanos ≠ 0) (hd : e.isDone = false) (hs : ¬ e.IsWriteSuspended)
    (hbehind : e.pingTimes.length < (now - born) / e.settings.pingPeriod.toNanos) :
    e.perform now .write ≠ none ∨ e.perform now .ping ≠ none := by
  cases hw : e.writer with
  | leaving code stage deadline =>
    rw [hl.done_of_leaving _ _ _ hw] at hd
    cases hd
  | stopped =>
    rcases hl.done_of_stopped hw with hdone | hnone
    · rw [hdone] at hd
      cases hd
    · exact absurd hnone hp
  | writing deadline =>
    obtain ⟨m, hslot⟩ := Option.ne_none_iff_exists'.mp (hl.slot_of_writing deadline hw)
    have hflow : e.flow ≠ .blocked := fun hf => hs ⟨by simp [hslot], hf⟩
    left
    cases hf : e.flow with
    | blocked => exact absurd hf hflow
    | «open» | failing => simp [perform, goOn, hw, writeOn, hslot, hf]
  | idle =>
    have hheld : e.pingsHeld = 0 := by simp [pingsHeld, hl.slot_of_idle hw]
    have hwhole := h.whole (by rw [isClosed, hw])
    have hnext : (e.pings + 1) * e.settings.pingPeriod.toNanos ≤ now - born := by
      rw [← Nat.le_div_iff_mul_le (Nat.pos_of_ne_zero hp)]
      omega
    have hdue := h.due
    have hcome : e.nextPing ≤ now := by
      rw [nextPing, h.born_eq]
      omega
    right
    simp [perform, hw, hcome]

end

/-! ### Main result -/

section

variable {settings : Settings} {now : Nat} {events : List Event} {s : Station}

/-- In every run of an endpoint with a time between its pings, no more pings have been written at
any time than have come due by then: each in its turn, none before it is due. And as long as the
lifetime lasts and no write is suspended, none is held up. A writer that is behind can go on with
the message in its hands or with the next ping, whatever is queued; by themselves the parts of the
endpoint come to rest after a bounded number of moves; and when nothing can move, as many pings have
been written as have come due. -/
theorem pings_of_run (hp : settings.pingPeriod.toNanos ≠ 0)
    (hrun : (Station.opening settings now).run events = some s) :
    (∀ t, s.endpoint.pingTimes.countP (· ≤ t) ≤ (t - now) / settings.pingPeriod.toNanos) ∧
    (∀ k time, s.endpoint.pingTimes[k]? = some time →
      now + (k + 1) * settings.pingPeriod.toNanos ≤ time ∧ time ≤ s.now) ∧
    (∀ {moves : List Move} {t : Station}, s.run (moves.map .move) = some t →
      moves.length ≤ s.endpoint.effort s.now) ∧
    (s.endpoint.isDone = false → ¬ s.endpoint.IsWriteSuspended →
      (s.endpoint.pingTimes.length < (s.now - now) / settings.pingPeriod.toNanos →
        (s.after (.move .write)).isSome ∨ (s.after (.move .ping)).isSome) ∧
      (Settled s.now s.endpoint →
        s.endpoint.pingTimes.length = (s.now - now) / settings.pingPeriod.toNanos)) := by
  obtain ⟨hledger, hpaced⟩ : Ledger s.endpoint ∧ Paced now s.now s.endpoint :=
    (isStable_paced now).run (fun handles h => ⟨h.1.handles handles, h.2.of_eq rfl rfl rfl rfl rfl id⟩)
      hrun ⟨.start settings now, .start settings now⟩
  have hsettings : s.endpoint.settings = settings := Station.settings_run hrun
  rw [← hsettings] at hp ⊢
  refine ⟨fun t => countP_le_div hp fun k time hk => (hpaced.timed k time hk).1, hpaced.timed,
    fun hmoves => Station.length_moves_le_effort hmoves hp, fun hd hs => ?_⟩
  have hbehind := hpaced.goes_on hledger.outgoing hp hd hs
  constructor
  · intro hless
    simpa [Station.after, Option.isSome_iff_ne_none] using hbehind hless
  · intro hsettled
    have hcounted := hpaced.counted
    have hdue := hpaced.pings_le hp
    by_contra hne
    rcases hbehind (by omega) with hwrite | hping
    · exact hwrite (hsettled .write)
    · exact hping (hsettled .ping)

/-- A ping every three seconds. -/
def brisk : Settings := { Settings.standard with pingPeriod := .ofSecs 3 }

/-- The socket suspends a write for nine seconds, in which three pings come due; another frame is
queued. Afterwards the pings and the frame are written by turns. -/
def caughtUp : List Event :=
  [.setFlow .blocked, .send [0x61], .send [0x62], .move .take, .tick (9 * nanosPerSecond),
    .setFlow .open, .move .write, .move .ping, .move .write, .move .take, .move .write,
    .move .ping, .move .write, .move .ping, .move .write]

/-- After nine seconds all three pings have been written, the last of them as it came due. While the
write was suspended none had been, and when it was over the first of them could be taken up before
the frame that was queued. -/
theorem pings_of_run_caughtUp :
    ∃ s t, (Station.opening brisk 0).run caughtUp = some s ∧
      (Station.opening brisk 0).run (caughtUp.take 7) = some t ∧
      brisk.pingPeriod.toNanos ≠ 0 ∧ Settled s.now s.endpoint ∧ s.endpoint.isDone = false ∧
      s.endpoint.pingTimes.length = 3 ∧ s.endpoint.pingTimes.countP (· ≤ 8 * nanosPerSecond) ≤ 2 ∧
      t.endpoint.outbound = [[0x62]] ∧ t.endpoint.pingTimes = [] ∧
      ((t.after (.move .write)).isSome ∨ (t.after (.move .ping)).isSome) := by
  have hperiod : brisk.pingPeriod.toNanos ≠ 0 := by decide
  have hrun : ∃ s ∈ (Station.opening brisk 0).run caughtUp, Settled s.now s.endpoint ∧
      s.endpoint.isDone = false ∧ s.endpoint.flow = .open ∧ s.now = 9 * nanosPerSecond := by
    decide +kernel
  have hfirst : ∃ t ∈ (Station.opening brisk 0).run (caughtUp.take 7), t.endpoint.isDone = false ∧
      t.endpoint.flow = .open ∧ t.now = 9 * nanosPerSecond ∧ t.endpoint.outbound = [[0x62]] ∧
      t.endpoint.pingTimes = [] := by
    decide +kernel
  obtain ⟨s, hs, hsettled, hdone, hflow, hnow⟩ := hrun
  obtain ⟨t, ht, hlasts, hopen, htime, hqueue, hnone⟩ := hfirst
  have hfree : ¬ s.endpoint.IsWriteSuspended := fun h => by cases hflow.symm.trans h.2
  have hfree' : ¬ t.endpoint.IsWriteSuspended := fun h => by cases hopen.symm.trans h.2
  obtain ⟨hcount, -, -, hlast⟩ := pings_of_run hperiod hs
  obtain ⟨-, -, -, hbehind⟩ := pings_of_run hperiod ht
  have hall := (hlast hdone hfree).2 hsettled
  have hnext := (hbehind hlasts hfree').1 (by rw [hnone, htime]; decide)
  rw [hnow] at hall
  exact ⟨s, t, hs, ht, hperiod, hsettled, hdone, hall, hcount _, hqueue, hnone, hnext⟩

end

end Endpoint

end Switchboard
