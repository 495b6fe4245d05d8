import Switchboard.Proofs.Endpoint.Ledger
/-!
# What happens to an endpoint

An endpoint changes because a part of it moves or because of what its holders do to it (`Use`,
`Act`, `Acts`), because of its socket, and because time passes. A property that none of these takes
away is stable (`IsStable`): an endpoint has it wherever it takes part. Its ledger is stable, and so
are the times at which its writes began (`Timed`).

Most acts leave the writer alone (`Rests`). What is said of the writer is proved from those that do
not (`WriterAct`): no act takes back an end that has come or what was written (`Follows`).
-/

namespace Switchboard.Endpoint

open Wire

/-- A part of an endpoint moves, or one of its holders does something to it. -/
inductive Act (now : Nat) (e : Endpoint) : Endpoint → Prop
  | step {m : Move} {e' : Endpoint} (h : Step now e m e') : Act now e e'
  | send (frame : Bytes) : Act now e (e.send frame).2
  | withdraw (ticket : Nat) : Act now e (e.withdraw ticket)
  | takeInbound : Act now e e.takeInbound.2
  | receive : Act now e e.receive.2
  | dropInbound : Act now e e.dropInbound
  | dropOwner : Act now e e.dropOwner
  | close (code : CloseCode) : Act now e (e.close now code)
  | cancel : Act now e (e.cancel now)
  | shutDown : Act now e (e.shutDown now)

/-- A holder of an endpoint does something to it. -/
inductive Use (now : Nat) (e : Endpoint) : Endpoint → Prop
  | send (frame : Bytes) : Use now e (e.send frame).2
  | withdraw (ticket : Nat) : Use now e (e.withdraw ticket)
  | takeInbound : Use now e e.takeInbound.2
  | receive : Use now e e.receive.2
  | dropInbound : Use now e e.dropInbound
  | dropOwner : Use now e e.dropOwner
  | close (code : CloseCode) : Use now e (e.close now code)
  | cancel : Use now e (e.cancel now)
  | shutDown : Use now e (e.shutDown now)

/-- Any number of acts. -/
abbrev Acts (now : Nat) : Endpoint → Endpoint → Prop := Relation.ReflTransGen (Act now)

/-- A property of endpoints at a time that nothing takes away that happens to one. -/
structure IsStable (P : Nat → Endpoint → Prop) : Prop where
  act {now : Nat} {e e' : Endpoint} : Act now e e' → P now e → P now e'
  arrive {now : Nat} {e : Endpoint} (a : Arrival) : P now e → P now (e.arrive a)
  setFlow {now : Nat} {e : Endpoint} (flow : Flow) : P now e → P now (e.setFlow flow)
  later {now now' : Nat} {e : Endpoint} : now ≤ now' → P now e → P now' e

/-- One endpoint comes from another in the course of time: it has every stable property that the
other had. -/
def Outlasts (now now' : Nat) (e e' : Endpoint) : Prop :=
  ∀ P : Nat → Endpoint → Prop, IsStable P → P now e → P now' e'

section

variable {e e' e'' : Endpoint} {now now' now'' : Nat} {m : Move}

/-- A part of the endpoint moves, or a holder uses it. -/
theorem Act.step_or_use (h : Act now e e') : (∃ m, Step now e m e') ∨ Use now e e' := by
  cases h with
  | step h => exact Or.inl ⟨_, h⟩
  | send frame => exact Or.inr (.send frame)
  | withdraw ticket => exact Or.inr (.withdraw ticket)
  | takeInbound => exact Or.inr .takeInbound
  | receive => exact Or.inr .receive
  | dropInbound => exact Or.inr .dropInbound
  | dropOwner => exact Or.inr .dropOwner
  | close code => exact Or.inr (.close code)
  | cancel => exact Or.inr .cancel
  | shutDown => exact Or.inr .shutDown

/-- What a holder does is an act. -/
theorem Use.act (h : Use now e e') : Act now e e' := by
  cases h with
  | send frame => exact .send frame
  | withdraw ticket => exact .withdraw ticket
  | takeInbound => exact .takeInbound
  | receive => exact .receive
  | dropInbound => exact .dropInbound
  | dropOwner => exact .dropOwner
  | close code => exact .close code
  | cancel => exact .cancel
  | shutDown => exact .shutDown

/-- What no act takes away, no number of acts does. -/
theorem IsStable.acts {P : Nat → Endpoint → Prop} (hP : IsStable P) (h : Acts now e e')
    (hp : P now e) : P now e' := by
  induction h with
  | refl => exact hp
  | tail _ h ih => exact hP.act h ih

/-- An endpoint comes from itself. -/
theorem Outlasts.refl (now : Nat) (e : Endpoint) : Outlasts now now e e := fun _ _ hp => hp

/-- What comes from it later comes from it too. -/
theorem Outlasts.trans (h : Outlasts now now' e e') (h' : Outlasts now' now'' e' e'') :
    Outlasts now now'' e e'' :=
  fun P hP hp => h' P hP (h P hP hp)

/-- An endpoint comes by acts from what it was. -/
theorem Outlasts.of_acts (h : Acts now e e') : Outlasts now now e e' := fun _ hP hp => hP.acts h hp

/-! ### The ledger -/

/-- An owner that lets go keeps the ledger. -/
theorem Ledger.dropOwner (hl : Ledger e) : Ledger e.dropOwner := by
  have hfree : Ledger { e with isOwned := false } :=
    ⟨hl.incoming.of_eq rfl rfl rfl rfl rfl id, hl.outgoing.of_eq rfl rfl rfl rfl rfl rfl rfl id,
      hl.ticketed.leave rfl (List.Sublist.refl _) (Nat.le_refl _), hl.done_of_shutdown⟩
  rw [dropOwner_eq]
  split_ifs
  · exact hfree.dropInbound
  · exact hfree

/-- Every act keeps the ledger. -/
theorem Ledger.act (h : Act now e e') (hl : Ledger e) : Ledger e' := by
  cases h with
  | step h => exact hl.step h
  | send frame => exact hl.send frame
  | withdraw ticket => exact hl.withdraw ticket
  | takeInbound => exact hl.takeInbound
  | receive => exact hl.receive
  | dropInbound => exact hl.dropInbound
  | dropOwner => exact hl.dropOwner
  | close code => exact hl.close now code
  | cancel => exact hl.finish now .scopeEnded
  | shutDown => exact hl.shutDown now

/-! ### The writer -/

/-- The writer rests: what it holds and what it has done are as they were, and an end that has come
stays. Its queue may grow unless it is closed. -/
structure Rests (e e' : Endpoint) : Prop where
  settings : e'.settings = e.settings
  flow : e'.flow = e.flow
  writer : e'.writer = e.writer
  slot : e'.slot = e.slot
  written : e'.written = e.written
  unwritten : e'.unwritten = e.unwritten
  mishaps : e'.mishaps = e.mishaps
  outbound : e.isClosed = true → e'.outbound = e.outbound
  ending {ending : Ending} : e.ending = some ending → e'.ending = some ending

/-- What an act can mean for the writer. -/
inductive WriterAct (now : Nat) (e : Endpoint) : Endpoint → Prop
  | work {m : Move} {e' : Endpoint} (h : WriterStep now e m e') : WriterAct now e e'
  | farewell {m : Move} {e' : Endpoint} {code : CloseCode} {stage : Farewell} {deadline : Nat}
    (hw : e.writer = .leaving code stage deadline)
    (h : FarewellStep now e code deadline stage m e') : WriterAct now e e'
  | aborted {deadline : Nat} (hs : e.shutdown = .waiting deadline) (hw : e.writer ≠ .stopped)
    (hd : deadline ≤ now) (log : List LogEntry) :
    WriterAct now e
      { ({ e with mishaps := e.mishaps ++ [Mishap.aborted], log := log }.stopWriter) with
        shutdown := .joining }
  | rests {e' : Endpoint} (h : Rests e e') : WriterAct now e e'

/-- A lifetime that has ended does not end again. -/
theorem endedBy_of_ending {ending : Ending} (h : e.ending = some ending) (now : Nat)
    (cause : Cause) : e.endedBy now cause = some ending := by
  rw [endedBy, h, Option.getD_some]

/-- The writer rests while the reader goes on. -/
theorem Rests.readerStep (h : ReaderStep now e m e') : Rests e e' := by
  cases h with
  | data | pong | other | delivered => exact ⟨rfl, rfl, rfl, rfl, rfl, rfl, rfl, fun _ => rfl, id⟩
  | _ =>
    rw [stopReader_eq]
    exact ⟨rfl, rfl, rfl, rfl, rfl, rfl, rfl, fun _ => rfl, fun he => endedBy_of_ending he _ _⟩

/-- The writer rests while its owner lets go. -/
theorem Rests.dropOwner (e : Endpoint) : Rests e e.dropOwner := by
  rw [dropOwner_eq]
  split_ifs <;> exact ⟨rfl, rfl, rfl, rfl, rfl, rfl, rfl, fun _ => rfl, id⟩

/-- The writer rests while a frame is sent. -/
theorem Rests.send (e : Endpoint) (frame : Bytes) : Rests e (e.send frame).2 := by
  rcases hsent : e.send frame with ⟨sending, x⟩
  have hs := sent_send e frame
  rw [hsent] at hs
  cases hs with
  | accepted _ hc => exact ⟨rfl, rfl, rfl, rfl, rfl, rfl, rfl, fun h => by simp [hc] at h, id⟩
  | refused | waits => exact ⟨rfl, rfl, rfl, rfl, rfl, rfl, rfl, fun _ => rfl, id⟩

/-- The writer rests while the endpoint is closed. -/
theorem Rests.close (e : Endpoint) (now : Nat) (code : CloseCode) :
    Rests e (e.close now code) := by
  rw [close_eq]
  exact ⟨rfl, rfl, rfl, rfl, rfl, rfl, rfl, fun _ => rfl, fun he => endedBy_of_ending he _ _⟩

/-- What a step means for the writer. -/
theorem writerAct_of_step (h : Step now e m e') : WriterAct now e e' := by
  cases h with
  | reader h => exact .rests (.readerStep h)
  | writer h => exact .work h
  | farewell hw h => exact .farewell hw h
  | accepted _ _ hc =>
    exact .rests ⟨rfl, rfl, rfl, rfl, rfl, rfl, rfl, fun h => by simp [hc] at h, id⟩
  | refused | writerGone => exact .rests ⟨rfl, rfl, rfl, rfl, rfl, rfl, rfl, fun _ => rfl, id⟩
  | readerGone =>
    have h : Rests e e.dropOwner := .dropOwner e
    exact .rests { h with }
  | aborted hs hw hd log => exact .aborted hs hw hd log

/-- The writer rests while a holder uses the endpoint. -/
theorem Use.rests (h : Use now e e') : Rests e e' := by
  cases h with
  | send frame => exact .send e frame
  | takeInbound =>
    unfold Endpoint.takeInbound
    split <;> exact ⟨rfl, rfl, rfl, rfl, rfl, rfl, rfl, fun _ => rfl, id⟩
  | receive =>
    unfold Endpoint.receive
    split <;> exact ⟨rfl, rfl, rfl, rfl, rfl, rfl, rfl, fun _ => rfl, id⟩
  | dropOwner => exact .dropOwner e
  | withdraw | dropInbound => exact ⟨rfl, rfl, rfl, rfl, rfl, rfl, rfl, fun _ => rfl, id⟩
  | close code => exact .close e now code
  | shutDown =>
    have h : Rests e (e.close now CloseCode.normal) := .close e now _
    exact { h with }
  | cancel =>
    rw [Endpoint.cancel, finish_eq]
    exact ⟨rfl, rfl, rfl, rfl, rfl, rfl, rfl, fun _ => rfl, fun he => endedBy_of_ending he _ _⟩

/-- What an act means for the writer. -/
theorem writerAct_of_act (h : Act now e e') : WriterAct now e e' := by
  rcases h.step_or_use with ⟨m, h⟩ | h
  · exact writerAct_of_step h
  · exact .rests h.rests

/-! ### What is not taken back -/

/-- What no act takes back: the settings, the socket's flow, the end of the lifetime and what was
written. -/
structure Follows (e e' : Endpoint) : Prop where
  settings : e'.settings = e.settings
  flow : e'.flow = e.flow
  ending {ending : Ending} : e.ending = some ending → e'.ending = some ending
  written : e.written <+: e'.written

/-- An endpoint follows itself. -/
theorem Follows.refl (e : Endpoint) : Follows e e := ⟨rfl, rfl, id, List.prefix_rfl⟩

/-- What follows later follows too. -/
theorem Follows.trans {e₁ e₂ e₃ : Endpoint} (h₁ : Follows e₁ e₂) (h₂ : Follows e₂ e₃) :
    Follows e₁ e₃ :=
  ⟨h₂.settings.trans h₁.settings, h₂.flow.trans h₁.flow, fun h => h₂.ending (h₁.ending h),
    h₁.written.trans h₂.written⟩

/-- What has ended stays so. -/
theorem Follows.done (h : Follows e e') (hd : e.isDone = true) : e'.isDone = true := by
  obtain ⟨ending, he⟩ := Option.isSome_iff_exists.mp hd
  rw [isDone, h.ending he]
  rfl

/-- The writer takes nothing back while it does its work. -/
theorem Follows.writerStep (h : WriterStep now e m e') : Follows e e' := by
  cases h with
  | take | ping => exact ⟨rfl, rfl, id, List.prefix_rfl⟩
  | wrote => exact ⟨rfl, rfl, id, List.prefix_append _ _⟩
  | _ =>
    rw [beginFarewell_eq]
    exact ⟨rfl, rfl, fun he => endedBy_of_ending he _ _, List.prefix_rfl⟩

/-- The writer takes nothing back in its farewell. -/
theorem Follows.farewellStep {code : CloseCode} {stage : Farewell} {deadline : Nat}
    (h : FarewellStep now e code deadline stage m e') : Follows e e' := by
  cases h with
  | clear | flushed | flushedClose | hungUp => exact ⟨rfl, rfl, id, List.prefix_append _ _⟩
  | _ => exact ⟨rfl, rfl, id, List.prefix_rfl⟩

/-- No act takes anything back. -/
theorem Follows.act (h : Act now e e') : Follows e e' := by
  cases writerAct_of_act h with
  | work h => exact .writerStep h
  | farewell _ h => exact .farewellStep h
  | aborted => exact ⟨rfl, rfl, id, List.prefix_rfl⟩
  | rests h => exact ⟨h.settings, h.flow, h.ending, h.written ▸ List.prefix_rfl⟩

/-- All acts together take nothing back. -/
theorem Follows.acts (h : Acts now e e') : Follows e e' := by
  induction h with
  | refl => exact .refl e
  | tail _ h ih => exact ih.trans (.act h)

/-- An end that has come is stable. -/
theorem isStable_isDone : IsStable fun _ e => e.isDone = true where
  act h hd := (Follows.act h).done hd
  arrive _ := id
  setFlow _ := id
  later _ := id

/-! ### Times -/

/-- A write in hand began at a time, and has one write's time from then. -/
def Timed (now : Nat) (e : Endpoint) : Prop :=
  ∀ deadline, e.writer = .writing deadline →
    ∃ began, began ≤ now ∧ deadline = began + e.writeWait

/-- A writer that is not writing has no time to keep. -/
theorem Timed.of_ne (h : ∀ deadline, e.writer ≠ .writing deadline) : Timed now e :=
  fun deadline hw => absurd hw (h deadline)

/-- At the beginning no write is in hand. -/
theorem Timed.start (settings : Settings) (born now : Nat) : Timed now (start settings born) := by
  apply Timed.of_ne
  intro deadline hw
  rcases writer_start settings born with ⟨hstart, -⟩ | ⟨hstart, -⟩
  · cases hstart.symm.trans hw
  · cases hstart.symm.trans hw

/-- Whatever leaves the writer and the settings alone leaves the times of writes alone. -/
theorem Timed.of_eq (ht : Timed now e) (hw : e'.writer = e.writer)
    (hs : e'.settings = e.settings) : Timed now e' := by
  intro deadline h
  obtain ⟨began, hbegan, hdeadline⟩ := ht deadline (hw ▸ h)
  exact ⟨began, hbegan, by rw [hdeadline, writeWait, writeWait, hs]⟩

/-- The writer begins its writes now. -/
theorem Timed.writerStep (h : WriterStep now e m e') : Timed now e' := by
  cases h with
  | take | ping =>
    intro deadline h
    obtain rfl := Writer.writing.inj h
    exact ⟨now, Nat.le_refl now, rfl⟩
  | wrote => exact .of_ne (by simp)
  | _ =>
    rw [beginFarewell_eq]
    exact .of_ne (by simp)

/-- In its farewell the writer has another time to keep. -/
theorem Timed.farewellStep {code : CloseCode} {stage : Farewell} {deadline : Nat}
    (hw : e.writer = .leaving code stage deadline)
    (h : FarewellStep now e code deadline stage m e') : Timed now e' := by
  cases h with
  | clear => exact .of_ne (by simp [writeSlot, record, hw])
  | hungUp | failed | late => exact .of_ne (by simp [stopWriter])
  | _ => exact .of_ne (by simp)

/-- Every act keeps the times of writes. -/
theorem Timed.act (h : Act now e e') (ht : Timed now e) : Timed now e' := by
  cases writerAct_of_act h with
  | work h => exact .writerStep h
  | farewell hw h => exact .farewellStep hw h
  | aborted => exact .of_ne (by simp [stopWriter])
  | rests h => exact ht.of_eq h.writer h.settings

/-- The times of writes are stable. -/
theorem isStable_timed : IsStable Timed where
  act := Timed.act
  arrive _ ht := ht.of_eq rfl rfl
  setFlow _ ht := ht.of_eq rfl rfl
  later hle ht deadline hw := by
    obtain ⟨began, hbegan, hdeadline⟩ := ht deadline hw
    exact ⟨began, hbegan.trans hle, hdeadline⟩

end

end Switchboard.Endpoint
