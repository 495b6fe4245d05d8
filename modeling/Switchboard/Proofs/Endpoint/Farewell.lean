import Switchboard.Proofs.Endpoint.Act
/-!
# What an endpoint says

Besides pings, an endpoint writes a message for each frame and in the end a close message, after
which nothing follows (`Courteous.spoken_eq`). It gets as far as its close message, and has then
written all that it accepted, unless something goes wrong with its writer
(`Courteous.spoken_of_stopped`). Unless its socket suspends what is written, its writer is never at a
loss (`Courteous.goOn_ne_none`), and while the socket takes all that is written nothing goes wrong
before a shutdown runs out of time (`Unhurried.step`).

The invariant `Courteous` says for each point of the writer's course what its slot may hold, what is
left in its queue and whether the close message was written.
-/

namespace Switchboard

namespace Wire

/-- What is written, unless it is a ping. -/
def Output.spoken? : Output → Option Message
  | .message (.ping _) => none
  | .message m => some m
  | .hangUp => none

/-- A frame's message is no ping. -/
@[simp] theorem spoken?_ofFrame (f : Bytes) :
    (Output.message (.ofFrame f)).spoken? = some (.ofFrame f) := by
  unfold Message.ofFrame
  split <;> rfl

end Wire

namespace Endpoint

open Wire

/-! ### Definitions -/

/-- The messages that were written, without pings. -/
def spoken (e : Endpoint) : List Message := e.written.filterMap (·.2.spoken?)

/-- A ping or the message of a frame. -/
def IsPlain (m : Message) : Prop := m = .emptyPing ∨ ∃ f, m = .ofFrame f

/-- No close message was written. -/
def IsOpenEnded (e : Endpoint) : Prop := e.spoken = e.framesWritten.map .ofFrame

/-- A close message was written, after the frames. -/
def HasClosed (code : CloseCode) (e : Endpoint) : Prop :=
  e.spoken = e.framesWritten.map .ofFrame ++ [.closing code ""]

/-- What holds at each stage of a farewell. -/
def InFarewell (code : CloseCode) (e : Endpoint) : Farewell → Prop
  | .fetch => e.IsOpenEnded ∧ ∀ m, e.slot = some m → IsPlain m
  | .wait _ => e.IsOpenEnded ∧ ∀ m, e.slot = some m → IsPlain m
  | .flush => e.IsOpenEnded ∧ ∃ m, e.slot = some m ∧ IsPlain m
  | .waitClose => e.IsOpenEnded ∧ e.outbound = [] ∧ ∀ m, e.slot = some m → IsPlain m
  | .flushClose => e.IsOpenEnded ∧ e.outbound = [] ∧ e.slot = some (.closing code "")
  | .hangUp => e.outbound = [] ∧
    (e.HasClosed code ∧ e.slot = none ∨
      e.IsOpenEnded ∧ e.mishaps ≠ [] ∧ ∀ m, e.slot = some m → IsPlain m ∨ m = .closing code "")

/-- What holds at each point of a writer's course. -/
inductive Courteous (e : Endpoint) : Prop
  | lasting (hw : e.isClosed = false) (hp : e.settings.pingPeriod.toNanos ≠ 0)
    (ho : e.IsOpenEnded) (hm : e.mishaps = []) (hs : ∀ m, e.slot = some m → IsPlain m)
  | leaving {code : CloseCode} {stage : Farewell} {deadline : Nat}
    (hw : e.writer = .leaving code stage deadline) (hs : InFarewell code e stage)
  /-- The writer could not begin, or something went wrong with it. -/
  | failed (hw : e.writer = .stopped) (hs : e.IsOpenEnded ∨ ∃ code, e.HasClosed code)
    (hm : e.mishaps ≠ [] ∨ e.settings.pingPeriod.toNanos = 0)
  | finished {code : CloseCode} (hw : e.writer = .stopped) (hc : e.HasClosed code)
    (hu : e.unwritten = []) (hs : e.slot = none) (ho : e.outbound = [])

section

variable {e e' : Endpoint} {now : Nat} {m : Move} {code : CloseCode} {stage : Farewell}
  {deadline : Nat}

/-! ### What is written -/

/-- What is written from the slot is said, unless it is a ping. -/
theorem spoken_writeSlot (e : Endpoint) (now : Nat) (m : Message) :
    (e.writeSlot now m).spoken = e.spoken ++ (Output.message m).spoken?.toList := by
  cases h : (Output.message m).spoken? <;> simp [spoken, writeSlot, record, h]

/-- A ping or a frame that is written is no close message. -/
theorem IsOpenEnded.writeSlot (h : e.IsOpenEnded) {m : Message} (hm : IsPlain m) (now : Nat) :
    (e.writeSlot now m).IsOpenEnded := by
  unfold IsOpenEnded at h ⊢
  rw [spoken_writeSlot, framesWritten_writeSlot, h]
  rcases hm with rfl | ⟨f, rfl⟩
  · simp [Output.spoken?, Message.emptyPing, Message.frame?]
  · simp

/-- The close message is written. -/
theorem IsOpenEnded.writeClose (h : e.IsOpenEnded) (now : Nat) (code : CloseCode) :
    (e.writeSlot now (.closing code "")).HasClosed code := by
  unfold IsOpenEnded at h
  unfold HasClosed
  rw [spoken_writeSlot, framesWritten_writeSlot, h]
  simp [Output.spoken?, Message.closing, Message.frame?]

/-- To hang up says nothing. -/
theorem spoken_hangUp (e : Endpoint) (now : Nat) :
    (e.record now .hangUp).spoken = e.spoken ∧
      (e.record now .hangUp).framesWritten = e.framesWritten := by
  simp [spoken, framesWritten, record, Output.spoken?, Output.frame?]

/-- Whatever was written, at most one close message was. -/
theorem InFarewell.spoken_eq (h : InFarewell code e stage) :
    e.IsOpenEnded ∨ ∃ code, e.HasClosed code := by
  cases stage with
  | hangUp =>
    rcases h.2 with ⟨hclosed, -⟩ | ⟨hopen, -⟩
    · exact Or.inr ⟨code, hclosed⟩
    · exact Or.inl hopen
  | _ => exact Or.inl h.1

/-- An endpoint says its frames and then at most one close message. -/
theorem Courteous.spoken_eq (h : Courteous e) : e.IsOpenEnded ∨ ∃ code, e.HasClosed code := by
  cases h with
  | lasting _ _ ho => exact Or.inl ho
  | leaving _ hs => exact hs.spoken_eq
  | failed _ hs => exact hs
  | finished _ hc => exact Or.inr ⟨_, hc⟩

/-- A writer that has stopped without mishap has written all that was accepted, and closed. -/
theorem Courteous.finished_of_stopped (h : Courteous e) (hl : Outgoing e) (hw : e.writer = .stopped)
    (hm : e.mishaps = []) (hp : e.settings.pingPeriod.toNanos ≠ 0) :
    e.accepted.map (·.frame) = e.framesWritten ∧ ∃ code, e.HasClosed code := by
  cases h with
  | lasting hc => simp [isClosed, hw] at hc
  | leaving hl => simp [hw] at hl
  | failed _ _ hf =>
    rcases hf with hf | hf
    · exact absurd hm hf
    · exact absurd hf hp
  | @finished code _ hc hu hs ho =>
    have haccepted := hl.accepted_eq
    rw [inHand_eq, hw, hs, ho, hu] at haccepted
    exact ⟨by simpa [Writer.held] using haccepted, code, hc⟩

/-- What such a writer has said. -/
theorem Courteous.spoken_of_stopped (h : Courteous e) (hl : Outgoing e) (hw : e.writer = .stopped)
    (hm : e.mishaps = []) (hp : e.settings.pingPeriod.toNanos ≠ 0) :
    ∃ code, e.spoken = e.accepted.map (fun w => .ofFrame w.frame) ++ [.closing code ""] := by
  obtain ⟨hframes, code, hc⟩ := h.finished_of_stopped hl hw hm hp
  unfold HasClosed at hc
  rw [← hframes, List.map_map] at hc
  exact ⟨code, hc⟩

/-! ### Every step -/

/-- The fields that say how far a writer has come. -/
theorem Courteous.of_eq (h : Courteous e) (hw : e'.writer = e.writer) (hs : e'.slot = e.slot)
    (hwritten : e'.written = e.written) (hm : e'.mishaps = e.mishaps)
    (hu : e'.unwritten = e.unwritten) (hsettings : e'.settings = e.settings)
    (ho : e.isClosed = true → e'.outbound = e.outbound) : Courteous e' := by
  have hspoken : e'.spoken = e.spoken := by rw [spoken, spoken, hwritten]
  have hframes : e'.framesWritten = e.framesWritten := by
    rw [framesWritten, framesWritten, hwritten]
  have hopen : e'.IsOpenEnded ↔ e.IsOpenEnded := by
    unfold IsOpenEnded
    rw [hspoken, hframes]
  have hclosed (code : CloseCode) : e'.HasClosed code ↔ e.HasClosed code := by
    unfold HasClosed
    rw [hspoken, hframes]
  cases h with
  | lasting hc hperiod hended hnone hplain =>
    refine .lasting ?_ ?_ (hopen.mpr hended) (hm.trans hnone) ?_
    · rw [isClosed, hw]
      exact hc
    · rw [hsettings]
      exact hperiod
    · rw [hs]
      exact hplain
  | @leaving code stage deadline hl hstage =>
    refine .leaving (hw.trans hl) ?_
    have hqueue : e'.outbound = e.outbound := ho (by rw [isClosed, hl])
    cases stage <;> simpa only [InFarewell, hopen, hclosed, hs, hqueue, hm] using hstage
  | failed hl hsaid hf =>
    refine .failed (hw.trans hl) ?_ ?_
    · simpa only [hopen, hclosed] using hsaid
    · rw [hm, hsettings]
      exact hf
  | @finished code hl hsaid hnone hslot hempty =>
    have hqueue : e'.outbound = e.outbound := ho (by rw [isClosed, hl])
    exact .finished (hw.trans hl) ((hclosed code).mpr hsaid) (hu.trans hnone) (hs.trans hslot)
      (hqueue.trans hempty)

/-- A writer with which something went wrong stops. -/
theorem Courteous.stopWriter (h : Courteous e) (hw : e'.writer = .stopped)
    (hwritten : e'.written = e.written) (hm : e'.mishaps ≠ []) : Courteous e' := by
  have hspoken : e'.spoken = e.spoken := by rw [spoken, spoken, hwritten]
  have hframes : e'.framesWritten = e.framesWritten := by
    rw [framesWritten, framesWritten, hwritten]
  refine .failed hw ?_ (Or.inl hm)
  unfold IsOpenEnded HasClosed
  rw [hspoken, hframes]
  exact h.spoken_eq

/-- A writer that lasts has not closed. -/
theorem Courteous.lasting_of (h : Courteous e) (hc : e.isClosed = false) :
    e.settings.pingPeriod.toNanos ≠ 0 ∧ e.IsOpenEnded ∧ e.mishaps = [] ∧
      ∀ m, e.slot = some m → IsPlain m := by
  cases h with
  | lasting _ hp ho hm hs => exact ⟨hp, ho, hm, hs⟩
  | leaving hw => simp [isClosed, hw] at hc
  | failed hw => simp [isClosed, hw] at hc
  | finished hw => simp [isClosed, hw] at hc

/-- A writer on its way out is at a stage. -/
theorem Courteous.atStage (h : Courteous e) (hw : e.writer = .leaving code stage deadline) :
    InFarewell code e stage := by
  cases h with
  | lasting hc => simp [isClosed, hw] at hc
  | leaving hl hs =>
    rw [hw] at hl
    cases hl
    exact hs
  | failed hl => simp [hw] at hl
  | finished hl => simp [hw] at hl

/-- The writer keeps to its course while the lifetime lasts, and when its farewell begins. -/
theorem Courteous.writerStep (h : WriterStep now e m e') (hc : Courteous e) : Courteous e' := by
  cases h with
  | @take f rest hw ho =>
    obtain ⟨hperiod, hopen, hnone, -⟩ := hc.lasting_of (by rw [isClosed, hw])
    refine .lasting rfl hperiod hopen hnone ?_
    intro m hm
    exact Or.inr ⟨f, (Option.some.inj hm).symm⟩
  | ping hw hd =>
    obtain ⟨hperiod, hopen, hnone, -⟩ := hc.lasting_of (by rw [isClosed, hw])
    refine .lasting rfl hperiod hopen hnone ?_
    intro m hm
    exact Or.inl (Option.some.inj hm).symm
  | @wrote deadline m hw hs hf =>
    obtain ⟨hperiod, hopen, hnone, hplain⟩ := hc.lasting_of (by rw [isClosed, hw])
    refine .lasting rfl hperiod (hopen.writeSlot (hplain m hs) now) hnone ?_
    intro m' hm'
    cases hm'
  | ended hw | abandoned hw =>
    obtain ⟨-, hopen, -, hplain⟩ := hc.lasting_of (by rw [isClosed, hw])
    rw [beginFarewell_eq]
    exact .leaving rfl ⟨hopen, hplain⟩
  | failed hw | late hw =>
    obtain ⟨-, hopen, -, hplain⟩ := hc.lasting_of (by rw [isClosed, hw])
    rw [beginFarewell_eq]
    exact .leaving rfl ⟨hopen, hplain⟩

/-- The writer keeps to its course in its farewell. -/
theorem Courteous.farewellStep (hw : e.writer = .leaving code stage deadline)
    (h : FarewellStep now e code deadline stage m e') (hl : Outgoing e) (hc : Courteous e) :
    Courteous e' := by
  have hs := hc.atStage hw
  cases h with
  | fetch ho => exact .leaving rfl hs
  | drained ho => exact .leaving rfl ⟨hs.1, ho, hs.2⟩
  | @load f hslot => exact .leaving rfl ⟨hs.1, _, rfl, Or.inr ⟨f, rfl⟩⟩
  | loadClose hslot => exact .leaving rfl ⟨hs.1, hs.2.1, rfl⟩
  | @clear stage m hslot hf ht =>
    have hnone (m' : Message) : (e.writeSlot now m).slot ≠ some m' := by
      intro hm'
      cases hm'
    refine .leaving (e := e.writeSlot now m) hw ?_
    rcases ht with ⟨f, rfl⟩ | rfl | rfl
    · exact ⟨hs.1.writeSlot (hs.2 m hslot) now, fun m' hm' => absurd hm' (hnone m')⟩
    · exact ⟨hs.1.writeSlot (hs.2.2 m hslot) now, hs.2.1, fun m' hm' => absurd hm' (hnone m')⟩
    · refine ⟨hs.1, ?_⟩
      rcases hs.2 with ⟨-, hempty⟩ | ⟨hopen, hmishaps, hheld⟩
      · simp [hempty] at hslot
      · rcases hheld m hslot with hplain | rfl
        · exact Or.inr ⟨hopen.writeSlot hplain now, hmishaps, fun m' hm' => absurd hm' (hnone m')⟩
        · exact Or.inl ⟨hopen.writeClose now code, rfl⟩
  | @flushed m hslot hf =>
    obtain ⟨hopen, m', hm', hplain⟩ := hs
    obtain rfl : m = m' := Option.some.inj (hslot.symm.trans hm')
    refine .leaving rfl ⟨hopen.writeSlot hplain now, ?_⟩
    intro m' hm'
    cases hm'
  | @flushedClose m hslot hf =>
    obtain ⟨hopen, hempty, hclosing⟩ := hs
    obtain rfl : m = .closing code "" := Option.some.inj (hslot.symm.trans hclosing)
    exact .leaving rfl ⟨hempty, Or.inl ⟨hopen.writeClose now code, rfl⟩⟩
  | hungUp hslot hf =>
    obtain ⟨hspoken, hframes⟩ := spoken_hangUp e now
    obtain ⟨hempty, ⟨hclosed, -⟩ | ⟨hopen, hmishaps, -⟩⟩ := hs
    · refine .finished rfl (?_ : HasClosed code _) ?_ rfl rfl
      · unfold HasClosed at hclosed ⊢
        exact hspoken.trans (hclosed.trans (by rw [← hframes]; rfl))
      · have hkept := hl.unwritten_eq (by simp [hw])
        simp [Endpoint.stopWriter, record, inHand, hw, hslot, hempty, hkept]
    · refine .failed rfl (Or.inl ?_) (Or.inl hmishaps)
      unfold IsOpenEnded at hopen ⊢
      exact hspoken.trans (hopen.trans (by rw [← hframes]; rfl))
  | failed hf ht => exact hc.stopWriter rfl rfl (by simp [Endpoint.stopWriter])
  | failedClose hslot hf ht =>
    rcases ht with rfl | rfl
    · refine .leaving rfl ⟨hs.2.1, Or.inr ⟨hs.1, by simp, ?_⟩⟩
      intro m hm
      exact Or.inl (hs.2.2 m hm)
    · refine .leaving rfl ⟨hs.2.1, Or.inr ⟨hs.1, by simp, ?_⟩⟩
      intro m hm
      exact Or.inr (Option.some.inj (hm.symm.trans hs.2.2))
  | late hg hd log => exact hc.stopWriter rfl rfl (by simp [Endpoint.stopWriter])

/-- Every act keeps the writer to its course. -/
theorem Courteous.act (h : Act now e e') (hl : Outgoing e) (hc : Courteous e) : Courteous e' := by
  cases writerAct_of_act h with
  | work h => exact hc.writerStep h
  | farewell hw h => exact hc.farewellStep hw h hl
  | aborted => exact hc.stopWriter rfl rfl (by simp [Endpoint.stopWriter])
  | rests h =>
    exact hc.of_eq h.writer h.slot h.written h.mishaps h.unwritten h.settings h.outbound

/-- At the beginning nothing was said. -/
theorem Courteous.start (settings : Settings) (now : Nat) : Courteous (start settings now) := by
  have hp : (Endpoint.start settings now).settings = settings := rfl
  rcases writer_start settings now with ⟨hw, hnone⟩ | ⟨hw, hsome⟩
  · rw [← hp] at hnone
    exact .failed hw (Or.inl rfl) (Or.inr hnone)
  · rw [← hp] at hsome
    refine .lasting ?_ hsome rfl rfl ?_
    · rw [isClosed, hw]
    · intro m hm
      cases hm

/-- The ledger and the course of the writer are stable together. -/
theorem isStable_courteous : IsStable fun _ e => Ledger e ∧ Courteous e where
  act h hp := ⟨hp.1.act h, hp.2.act h hp.1.outgoing⟩
  arrive a hp := ⟨hp.1.arrive a, hp.2.of_eq rfl rfl rfl rfl rfl rfl fun _ => rfl⟩
  setFlow flow hp := ⟨hp.1.setFlow flow, hp.2.of_eq rfl rfl rfl rfl rfl rfl fun _ => rfl⟩
  later _ := id

/-! ### Progress -/

/-- A writer with something to write goes on unless its socket suspends what is written. -/
theorem Courteous.goOn_ne_none (h : Courteous e) (hl : Outgoing e) (hf : e.flow ≠ .blocked)
    (hidle : e.writer ≠ .idle) (hstopped : e.writer ≠ .stopped) (now : Nat) :
    e.goOn now ≠ none := by
  cases hflow : e.flow with
  | blocked => exact absurd hflow hf
  | _ =>
    cases hw : e.writer with
    | idle => exact absurd hw hidle
    | stopped => exact absurd hw hstopped
    | writing deadline =>
      obtain ⟨m, hslot⟩ := Option.ne_none_iff_exists'.mp (hl.slot_of_writing deadline hw)
      simp [goOn, hw, writeOn, hslot, hflow]
    | leaving code stage deadline =>
      have hs := h.atStage hw
      cases stage with
      | fetch => cases ho : e.outbound <;> simp [goOn, hw, farewellOn, ho]
      | flush =>
        obtain ⟨-, m, hslot, -⟩ := hs
        simp [goOn, hw, farewellOn, hslot, hflow]
      | flushClose =>
        obtain ⟨-, -, hslot⟩ := hs
        simp [goOn, hw, farewellOn, hslot, hflow]
      | _ => cases hslot : e.slot <;> simp [goOn, hw, farewellOn, hslot, hflow]

/-- When the writer gives up what it is writing. -/
def Writer.deadline? : Writer → Option Nat
  | .writing deadline => some deadline
  | .leaving _ _ deadline => some deadline
  | _ => none

/-- When an endpoint that has ended cannot move, its writer has stopped, or its socket suspends what
is written and there is still time for that. -/
theorem Courteous.stopped_or_suspended (h : Courteous e) (hl : Outgoing e) (hd : e.isDone = true)
    (hstop : e.perform now .stopWriting = none) (hwrite : e.perform now .write = none)
    (hexpire : e.perform now .expireWrite = none) :
    e.writer = .stopped ∨
      e.flow = .blocked ∧ ∃ deadline, e.writer.deadline? = some deadline ∧ now < deadline := by
  obtain ⟨ending, he⟩ := Option.isSome_iff_exists.mp hd
  have hnone : e.goOn now = none := hwrite
  have hblocked (hidle : e.writer ≠ .idle) (hstopped : e.writer ≠ .stopped) :
      e.flow = .blocked := by
    by_contra hf
    exact h.goOn_ne_none hl hf hidle hstopped now hnone
  cases hw : e.writer with
  | idle => simp [Endpoint.perform, hw, he] at hstop
  | stopped => exact Or.inl rfl
  | writing deadline =>
    refine Or.inr ⟨hblocked (by simp [hw]) (by simp [hw]), deadline, rfl, ?_⟩
    simpa [Endpoint.perform, hw, hnone] using hexpire
  | leaving code stage deadline =>
    refine Or.inr ⟨hblocked (by simp [hw]) (by simp [hw]), deadline, rfl, ?_⟩
    simpa [Endpoint.perform, hw, hnone] using hexpire

/-- Nothing has gone wrong with the writer, and nothing will before a time while the socket takes
what is written. -/
structure Unhurried (limit : Nat) (e : Endpoint) : Prop where
  flow : e.flow = .open
  pingPeriod : e.settings.pingPeriod.toNanos ≠ 0
  mishaps : e.mishaps = []
  shutdown {deadline : Nat} : e.shutdown = .waiting deadline → limit ≤ deadline

/-- A step asks for no shutdown. -/
theorem shutdown_step (h : Step now e m e') (hs : e'.shutdown = .waiting deadline) :
    e.shutdown = .waiting deadline := by
  cases h with
  | reader h =>
    cases h with
    | data | pong | other | delivered => exact hs
    | _ =>
      rw [stopReader_eq] at hs
      exact hs
  | writer h =>
    cases h with
    | take | ping | wrote => exact hs
    | _ =>
      rw [beginFarewell_eq] at hs
      exact hs
  | farewell _ h => cases h <;> exact hs
  | accepted | refused => exact hs
  | writerGone | readerGone | aborted => cases hs

/-- Before the time nothing goes wrong with the writer. -/
theorem Unhurried.step {limit : Nat} (hu : Unhurried limit e) (h : Step now e m e')
    (hc : Courteous e) (hl : Outgoing e) (hn : now < limit) : Unhurried limit e' := by
  have hfollows : Follows e e' := .act (.step h)
  refine ⟨hfollows.flow.trans hu.flow, hfollows.settings ▸ hu.pingPeriod, ?_,
    fun hs => hu.shutdown (shutdown_step h hs)⟩
  have hmishaps := hu.mishaps
  have hgoes := hc.goOn_ne_none hl (by simp [hu.flow])
  cases writerAct_of_step h with
  | work h =>
    cases h with
    | take | ping | wrote => exact hmishaps
    | ended | abandoned =>
      rw [beginFarewell_eq]
      exact hmishaps
    | failed _ _ hf => simp [hu.flow] at hf
    | late hw hg => exact absurd hg (hgoes (by simp [hw]) (by simp [hw]) now)
  | farewell hw h =>
    cases h with
    | failed hf => simp [hu.flow] at hf
    | failedClose _ hf => simp [hu.flow] at hf
    | late hg => exact absurd hg (hgoes (by simp [hw]) (by simp [hw]) now)
    | _ => exact hmishaps
  | aborted hs _ hd =>
    have hlimit := hu.shutdown hs
    omega
  | rests h => exact h.mishaps.trans hmishaps

end

end Endpoint

end Switchboard
