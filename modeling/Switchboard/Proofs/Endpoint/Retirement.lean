import Switchboard.Proofs.Endpoint.Farewell
import Switchboard.Proofs.Exchange.Ending
/-!
# Endpoints that are shut down

An endpoint goes on by itself as long as nobody closes it (`Tacit`). What it has then it keeps in
the meantime (`IsSteady`, `Persists`): until it is closed it ends only for a cause of its own
(`isSteady_unclosed`), and once its shutdown was asked for it has a time until which that may take
(`isSteady_departs`). When this time has come and nothing can move the shutdown is finished
(`Departs.finished_of_settled`), both parts of the endpoint have stopped, and nothing is written any
more (`isStable_writer`).
-/

namespace Switchboard.Endpoint

open Wire

/-! ### Definitions -/

/-- What happens to an endpoint that nobody closes. A member of a scope may end with it, and may
lose its owner. -/
inductive Tacit (now : Nat) (e : Endpoint) : Bool → Endpoint → Prop
  | step {member : Bool} {m : Move} {e' : Endpoint} (h : Step now e m e') : Tacit now e member e'
  | send {member : Bool} (frame : Bytes) : Tacit now e member (e.send frame).2
  | withdraw {member : Bool} (ticket : Nat) : Tacit now e member (e.withdraw ticket)
  | takeInbound {member : Bool} : Tacit now e member e.takeInbound.2
  | receive {member : Bool} : Tacit now e member e.receive.2
  | dropInbound {member : Bool} : Tacit now e member e.dropInbound
  | dropOwner : Tacit now e true e.dropOwner
  | cancel : Tacit now e true (e.cancel now)

/-- A property of endpoints at a time that nothing takes away while nobody closes the endpoint. -/
structure IsSteady (member : Bool) (P : Nat → Endpoint → Prop) : Prop where
  tacit {now : Nat} {e e' : Endpoint} : Tacit now e member e' → P now e → P now e'
  arrive {now : Nat} {e : Endpoint} (a : Arrival) : P now e → P now (e.arrive a)
  setFlow {now : Nat} {e : Endpoint} (flow : Flow) : P now e → P now (e.setFlow flow)
  later {now now' : Nat} {e : Endpoint} : now ≤ now' → P now e → P now' e

/-- One endpoint comes from another in the course of time, while nobody closes it. -/
def Persists (member : Bool) (now now' : Nat) (e e' : Endpoint) : Prop :=
  ∀ P : Nat → Endpoint → Prop, IsSteady member P → P now e → P now' e'

/-- What ends an endpoint besides those who hold it and the scope it lives in. A frame that nobody
will take counts among these causes, since it is the reader that ends the lifetime then, although
the queue was dropped by someone else. -/
def Cause.isOwn : Cause → Bool
  | .closed _ => false
  | .scopeEnded => false
  | .abandoned => false
  | .remoteClosed => true
  | .remoteFinished => true
  | .readFailed => true
  | .tooLarge => true
  | .silent => true
  | .unwanted => true
  | .writeFailed => true
  | .writeLate => true

/-- An endpoint whose end nobody has asked for: if it has ended, then for a cause of its own. -/
structure Unclosed (e : Endpoint) : Prop where
  isOwned : e.isOwned = true
  shutdown : e.shutdown = .unasked
  isOwn {ending : Ending} : e.ending = some ending → ending.cause.isOwn = true

/-- Both parts of an endpoint have stopped. -/
def IsRetired (e : Endpoint) : Prop := e.reader = .stopped ∧ e.writer = .stopped

/-- A shutdown is finished only when both parts have stopped. -/
structure Retires (e : Endpoint) : Prop where
  joining : e.shutdown = .joining → e.writer = .stopped
  finished : e.shutdown = .finished → e.IsRetired

/-- The shutdown was asked for, and the writer has until some time, at most. -/
structure Departs (limit : Nat) (e : Endpoint) : Prop where
  isAsked : e.shutdown ≠ .unasked
  waiting {deadline : Nat} : e.shutdown = .waiting deadline → deadline ≤ limit

/-- What those who use an endpoint leave alone: the reader, the end of the lifetime and what was
asked for. -/
structure Spares (e e' : Endpoint) : Prop where
  reader : e'.reader = e.reader
  ending : e'.ending = e.ending
  requested : e'.requested = e.requested
  shutdown : e'.shutdown = e.shutdown
  isOwned : e'.isOwned = e.isOwned

/-- How a shutdown goes on. -/
inductive ShutdownStep (e e' : Endpoint) : Prop
  | rests (hs : e'.shutdown = e.shutdown)
  | joins {deadline : Nat} (hs : e.shutdown = .waiting deadline) (hs' : e'.shutdown = .joining)
    (hw : e'.writer = .stopped)
  | finishes (hs : e.shutdown = .joining) (hs' : e'.shutdown = .finished)
    (hr : e'.reader = .stopped)

section

variable {member : Bool} {e e' e'' : Endpoint} {now now' now'' limit : Nat} {m : Move}
  {P Q : Nat → Endpoint → Prop}

/-! ### What happens while nobody closes an endpoint -/

/-- It is among all that can happen. -/
theorem Tacit.act (h : Tacit now e member e') : Act now e e' := by
  cases h with
  | step h => exact .step h
  | send frame => exact .send frame
  | withdraw ticket => exact .withdraw ticket
  | takeInbound => exact .takeInbound
  | receive => exact .receive
  | dropInbound => exact .dropInbound
  | dropOwner => exact .dropOwner
  | cancel => exact .cancel

/-- An endpoint is closed or not. -/
theorem tacit_or_closed (h : Act now e e') :
    Tacit now e true e' ∨ (∃ code, e' = e.close now code) ∨ e' = e.shutDown now := by
  cases h with
  | step h => exact Or.inl (.step h)
  | send frame => exact Or.inl (.send frame)
  | withdraw ticket => exact Or.inl (.withdraw ticket)
  | takeInbound => exact Or.inl .takeInbound
  | receive => exact Or.inl .receive
  | dropInbound => exact Or.inl .dropInbound
  | dropOwner => exact Or.inl .dropOwner
  | cancel => exact Or.inl .cancel
  | close code => exact Or.inr (Or.inl ⟨code, rfl⟩)
  | shutDown => exact Or.inr (Or.inr rfl)

/-- What nothing takes away is not taken away while nobody closes the endpoint. -/
theorem IsStable.isSteady (hP : IsStable P) (member : Bool) : IsSteady member P where
  tacit h := hP.act h.act
  arrive := hP.arrive
  setFlow := hP.setFlow
  later := hP.later

/-- Those who send leave alone what `Spares` says. -/
theorem Spares.send (e : Endpoint) (frame : Bytes) : Spares e (e.send frame).2 := by
  have hs := sent_send e frame
  generalize e.send frame = sent at hs
  cases hs <;> exact ⟨rfl, rfl, rfl, rfl, rfl⟩

/-- Those who receive do so too. -/
theorem Spares.receive (e : Endpoint) : Spares e e.receive.2 := by
  unfold Endpoint.receive
  split <;> exact ⟨rfl, rfl, rfl, rfl, rfl⟩

/-- An endpoint that nobody closes moves, or is used, or loses its scope or its owner. -/
theorem Tacit.step_or_spares (h : Tacit now e member e') :
    (∃ m, Step now e m e') ∨ Spares e e' ∨
      member = true ∧ (e' = e.dropOwner ∨ e' = e.cancel now) := by
  cases h with
  | step h => exact Or.inl ⟨_, h⟩
  | send frame => exact Or.inr (Or.inl (.send e frame))
  | takeInbound =>
    unfold Endpoint.takeInbound
    split <;> exact Or.inr (Or.inl ⟨rfl, rfl, rfl, rfl, rfl⟩)
  | receive => exact Or.inr (Or.inl (.receive e))
  | withdraw | dropInbound => exact Or.inr (Or.inl ⟨rfl, rfl, rfl, rfl, rfl⟩)
  | dropOwner => exact Or.inr (Or.inr ⟨rfl, Or.inl rfl⟩)
  | cancel => exact Or.inr (Or.inr ⟨rfl, Or.inr rfl⟩)

theorem Persists.refl (member : Bool) (now : Nat) (e : Endpoint) :
    Persists member now now e e := fun _ _ hp => hp

theorem Persists.trans (h : Persists member now now' e e')
    (h' : Persists member now' now'' e' e'') : Persists member now now'' e e'' :=
  fun P hP hp => h' P hP (h P hP hp)

theorem Persists.of_tacit (h : Tacit now e member e') : Persists member now now e e' :=
  fun _ hP hp => hP.tacit h hp

/-- A stable property is kept too. -/
theorem Persists.stable (h : Persists member now now' e e') (hP : IsStable P) (hp : P now e) :
    P now' e' :=
  h P (hP.isSteady member) hp

/-! ### Parts that have stopped -/

/-- An owner that lets go leaves the reader alone. -/
theorem reader_dropOwner (e : Endpoint) : e.dropOwner.reader = e.reader := by
  rw [dropOwner_eq]
  split_ifs <;> rfl

/-- A writer that has stopped writes nothing more. -/
theorem writer_act (h : Act now e e') (hw : e.writer = .stopped) :
    e'.writer = .stopped ∧ e'.written = e.written := by
  cases writerAct_of_act h with
  | work h => cases h <;> simp_all
  | farewell hl => simp [hw] at hl
  | aborted _ hne => exact absurd hw hne
  | rests h => exact ⟨h.writer.trans hw, h.written⟩

/-- A reader that has stopped stays so. -/
theorem reader_act (h : Act now e e') (hr : e.reader = .stopped) : e'.reader = .stopped := by
  rcases tacit_or_closed h with htacit | ⟨code, rfl⟩ | rfl
  · rcases htacit.step_or_spares with ⟨m, h⟩ | h | ⟨-, rfl | rfl⟩
    · cases h with
      | reader h => cases h <;> simp_all
      | writer h =>
        cases h with
        | take | ping | wrote => exact hr
        | _ =>
          rw [beginFarewell_eq]
          exact hr
      | farewell _ h => cases h <;> exact hr
      | readerGone => exact (reader_dropOwner e).trans hr
      | accepted | refused | writerGone | aborted => exact hr
    · exact h.reader.trans hr
    · exact (reader_dropOwner e).trans hr
    · rw [Endpoint.cancel, finish_eq]
      exact hr
  · rw [close_eq]
    exact hr
  · rw [Endpoint.shutDown, close_eq]
    exact hr

/-- A stopped writer is stable, with all that it has written. -/
theorem isStable_writer (written : List (Nat × Output)) :
    IsStable fun _ e => e.writer = .stopped ∧ e.written = written where
  act h hp := by
    obtain ⟨hw, hwritten⟩ := writer_act h hp.1
    exact ⟨hw, hwritten.trans hp.2⟩
  arrive _ := id
  setFlow _ := id
  later _ := id

/-- An endpoint whose parts have stopped stays so. -/
theorem isStable_isRetired : IsStable fun _ e => e.IsRetired where
  act h hp := ⟨reader_act h hp.1, (writer_act h hp.2).1⟩
  arrive _ := id
  setFlow _ := id
  later _ := id

/-! ### The course of a shutdown -/

/-- How a shutdown goes on in a step. -/
theorem shutdownStep_of_step (h : Step now e m e') : ShutdownStep e e' := by
  cases h with
  | reader h =>
    cases h with
    | data | pong | other | delivered => exact .rests rfl
    | _ =>
      rw [stopReader_eq]
      exact .rests rfl
  | writer h =>
    cases h with
    | take | ping | wrote => exact .rests rfl
    | _ =>
      rw [beginFarewell_eq]
      exact .rests rfl
  | farewell _ h => cases h <;> exact .rests rfl
  | accepted | refused => exact .rests rfl
  | writerGone hs hw => exact .joins hs rfl hw
  | readerGone hs hr =>
    have hreader : e.dropOwner.reader = .stopped := reader_act (.dropOwner : Act now e _) hr
    exact .finishes hs rfl hreader
  | aborted hs => exact .joins hs rfl rfl

/-- How a shutdown goes on while nobody asks for one. -/
theorem Tacit.shutdownStep (h : Tacit now e member e') : ShutdownStep e e' := by
  rcases h.step_or_spares with ⟨m, h⟩ | h | ⟨-, rfl | rfl⟩
  · exact shutdownStep_of_step h
  · exact .rests h.shutdown
  · rw [dropOwner_eq]
    split_ifs <;> exact .rests rfl
  · rw [Endpoint.cancel, finish_eq]
    exact .rests rfl

/-- At the beginning no shutdown was asked for. -/
theorem Retires.start (settings : Settings) (now : Nat) : Retires (start settings now) :=
  ⟨by simp [Endpoint.start], by simp [Endpoint.start]⟩

/-- Every act leaves a shutdown to be finished when both parts have stopped. -/
theorem Retires.act (h : Act now e e') (hr : Retires e) : Retires e' := by
  rcases tacit_or_closed h with htacit | ⟨code, rfl⟩ | rfl
  · cases htacit.shutdownStep with
    | rests hs =>
      refine ⟨?_, ?_⟩
      · intro hs'
        exact (writer_act h (hr.joining (hs ▸ hs'))).1
      · intro hs'
        obtain ⟨hreader, hwriter⟩ := hr.finished (hs ▸ hs')
        exact ⟨reader_act h hreader, (writer_act h hwriter).1⟩
    | joins _ hs hw => exact ⟨fun _ => hw, by simp [hs]⟩
    | finishes hs hs' hreader =>
      exact ⟨by simp [hs'], fun _ => ⟨hreader, (writer_act h (hr.joining hs)).1⟩⟩
  · rw [close_eq]
    exact ⟨hr.joining, hr.finished⟩
  · exact ⟨by simp [Endpoint.shutDown], by simp [Endpoint.shutDown]⟩

/-- The time that a shutdown may take stays what it is while nobody asks for another one. -/
theorem isSteady_departs (member : Bool) (limit : Nat) :
    IsSteady member fun _ e => Departs limit e where
  tacit h hd := by
    cases h.shutdownStep with
    | rests hs => exact ⟨hs ▸ hd.isAsked, fun hs' => hd.waiting (hs ▸ hs')⟩
    | joins _ hs => exact ⟨by simp [hs], by simp [hs]⟩
    | finishes _ hs => exact ⟨by simp [hs], by simp [hs]⟩
  arrive _ h := ⟨h.isAsked, h.waiting⟩
  setFlow _ h := ⟨h.isAsked, h.waiting⟩
  later _ := id

/-- A shutdown may take one write's time. -/
theorem Departs.shutDown (e : Endpoint) (now : Nat) :
    Departs (now + e.writeWait) (e.shutDown now) := by
  refine ⟨by simp [Endpoint.shutDown], ?_⟩
  intro deadline hs
  obtain rfl := Shutdown.waiting.inj hs
  exact Nat.le_refl _

/-- A shutdown whose time has come is finished when nothing can move, whatever the socket does. -/
theorem Departs.finished_of_settled (h : Departs limit e) (hdone : e.isDone = true)
    (hlimit : limit ≤ now) (hstop : e.perform now .stopReading = none)
    (hjoin : e.perform now .join = none) (habort : e.perform now .abort = none) :
    e.shutdown = .finished := by
  have hreader : e.reader = .stopped := reader_eq_stopped hdone hstop
  cases hs : e.shutdown with
  | unasked => exact absurd hs h.isAsked
  | waiting deadline =>
    have hdeadline : deadline ≤ now := (h.waiting hs).trans hlimit
    by_cases hw : e.writer = .stopped
    · simp [Endpoint.perform, hs, hw] at hjoin
    · simp [Endpoint.perform, hs, hw, hdeadline] at habort
  | joining => simp [Endpoint.perform, hs, hreader] at hjoin
  | finished => rfl

/-! ### Before the end is asked for -/

/-- A lifetime ends for a cause of its own, or it had ended. -/
theorem isOwn_endedBy (h : ∀ {ending : Ending}, e.ending = some ending → ending.cause.isOwn = true)
    {cause : Cause} (hc : cause.isOwn = true) {ending : Ending}
    (he : e.endedBy now cause = some ending) : ending.cause.isOwn = true := by
  unfold endedBy at he
  obtain rfl := Option.some.inj he
  cases hended : e.ending with
  | none => exact hc
  | some ending => exact h hended

/-- No step of an endpoint whose end nobody has asked for ends it but for a cause of its own. -/
theorem Unclosed.step (h : Step now e m e') (hu : Unclosed e) : Unclosed e' := by
  obtain ⟨howned, hshutdown, hown⟩ := hu
  cases h with
  | reader h =>
    cases h with
    | data | pong | other | delivered => exact ⟨howned, hshutdown, hown⟩
    | ended _ he =>
      rw [stopReader_eq]
      exact ⟨howned, hshutdown, isOwn_endedBy hown (hown he)⟩
    | _ =>
      rw [stopReader_eq]
      exact ⟨howned, hshutdown, isOwn_endedBy hown rfl⟩
  | writer h =>
    cases h with
    | take | ping | wrote => exact ⟨howned, hshutdown, hown⟩
    | ended _ he =>
      rw [beginFarewell_eq]
      exact ⟨howned, hshutdown, isOwn_endedBy hown (hown he)⟩
    | abandoned _ _ _ hs => simp [hasSender, howned] at hs
    | failed | late =>
      rw [beginFarewell_eq]
      exact ⟨howned, hshutdown, isOwn_endedBy hown rfl⟩
  | farewell _ h => cases h <;> exact ⟨howned, hshutdown, hown⟩
  | accepted | refused => exact ⟨howned, hshutdown, hown⟩
  | writerGone hs | readerGone hs | aborted hs => simp [hshutdown] at hs

/-- An endpoint outside any scope ends only for causes of its own until somebody closes it. -/
theorem isSteady_unclosed : IsSteady false fun _ e => Unclosed e where
  tacit h hu := by
    rcases h.step_or_spares with ⟨m, h⟩ | h | ⟨hmember, -⟩
    · exact hu.step h
    · exact ⟨h.isOwned.trans hu.isOwned, h.shutdown.trans hu.shutdown,
        fun he => hu.isOwn (h.ending ▸ he)⟩
    · cases hmember
  arrive _ h := ⟨h.isOwned, h.shutdown, h.isOwn⟩
  setFlow _ h := ⟨h.isOwned, h.shutdown, h.isOwn⟩
  later _ := id

/-- Nobody has asked for the end of a new endpoint. -/
theorem Unclosed.start (settings : Settings) (now : Nat) : Unclosed (start settings now) :=
  ⟨rfl, rfl, by simp [Endpoint.start]⟩

end

end Switchboard.Endpoint
