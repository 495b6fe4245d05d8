import Switchboard.Proofs.Endpoint.Ending
import Switchboard.Proofs.Endpoint.Receipt
/-!
# How much an endpoint holds

Neither queue of an endpoint holds more than it may (`Fits`). Besides the queue the writer holds one
frame at most as long as the queue takes frames, and once it takes none any more, what is held can
only become less (`IsBounded`). The reader takes a message only when it has put the frame of the one
before it into the queue, so that it too holds one frame at most, and every frame that it has taken
is accounted for (`IsAccounted`). So what an endpoint holds is bounded by its settings, whatever its
socket and its holders do; and while its lifetime lasts, nothing but a full queue holds up a send or
the reader (`held_of_run`).
-/

namespace Switchboard.Endpoint

open Wire

/-! ### Definitions -/

/-- Neither queue holds more than it may. -/
structure Fits (e : Endpoint) : Prop where
  inbound : e.inbound.length ≤ e.settings.inboundCapacity
  outbound : e.outbound.length ≤ e.settings.outboundCapacity

/-- What was accepted was written or given up, apart from what fills the queue and one frame. -/
def IsBounded (e : Endpoint) : Prop :=
  e.accepted.length ≤
    e.framesWritten.length + e.unwritten.length + (e.settings.outboundCapacity + 1)

/-- Every frame that the reader took was received or given up, or it is in the queue or held. -/
def IsAccounted (e : Endpoint) : Prop :=
  e.framesTaken.Perm (e.received ++ e.inbound ++ e.reader.held ++ e.unreceived)

section

variable {e e' : Endpoint} {now : Nat} {m : Move}

/-! ### The queues -/

/-- At the beginning both queues are empty. -/
theorem Fits.start (settings : Settings) (now : Nat) : Fits (start settings now) :=
  ⟨Nat.zero_le _, Nat.zero_le _⟩

/-- What fills the queues depends on these fields alone. -/
theorem Fits.of_eq (hf : Fits e) (hi : e'.inbound = e.inbound) (ho : e'.outbound = e.outbound)
    (hs : e'.settings = e.settings) : Fits e' :=
  ⟨by rw [hi, hs]; exact hf.inbound, by rw [ho, hs]; exact hf.outbound⟩

/-- The outbound queue has room for a frame that is accepted. -/
theorem Fits.accept (hf : Fits e) (hroom : 0 < e.room) {f : Bytes} (hi : e'.inbound = e.inbound)
    (ho : e'.outbound = e.outbound ++ [f]) (hs : e'.settings = e.settings) : Fits e' := by
  refine ⟨by rw [hi, hs]; exact hf.inbound, ?_⟩
  rw [room] at hroom
  rw [ho, hs, List.length_append, List.length_singleton]
  omega

/-- The inbound queue is dropped. -/
theorem Fits.dropInbound (hf : Fits e) : Fits e.dropInbound := ⟨Nat.zero_le _, hf.outbound⟩

/-- An owner that lets go drops the inbound queue at most. -/
theorem Fits.dropOwner (hf : Fits e) : Fits e.dropOwner := by
  have hfree : Fits { e with isOwned := false } := hf.of_eq rfl rfl rfl
  rw [dropOwner_eq]
  split_ifs
  · exact hfree.dropInbound
  · exact hfree

/-- No step fills a queue beyond what it may hold. -/
theorem Fits.step (h : Step now e m e') (hf : Fits e) : Fits e' := by
  -- A frame that is taken out of the outbound queue leaves less in it.
  have hrest {f : Bytes} {rest : List Bytes} (ho : e.outbound = f :: rest) :
      rest.length ≤ e.settings.outboundCapacity := by
    have hout := hf.outbound
    rw [ho, List.length_cons] at hout
    exact Nat.le_of_succ_le hout
  cases h with
  | reader h =>
    cases h with
    | delivered _ _ hi =>
      refine ⟨?_, hf.outbound⟩
      rw [List.length_append, List.length_singleton]
      exact hi
    | data | pong | other => exact hf.of_eq rfl rfl rfl
    | _ =>
      rw [stopReader_eq]
      exact hf.of_eq rfl rfl rfl
  | writer h =>
    cases h with
    | take _ ho => exact ⟨hf.inbound, hrest ho⟩
    | ping | wrote => exact hf.of_eq rfl rfl rfl
    | _ =>
      rw [beginFarewell_eq]
      exact hf.of_eq rfl rfl rfl
  | farewell _ h =>
    cases h with
    | fetch ho => exact ⟨hf.inbound, hrest ho⟩
    | hungUp | failed | late => exact ⟨hf.inbound, Nat.zero_le _⟩
    | _ => exact hf.of_eq rfl rfl rfl
  | accepted _ _ _ hi => exact hf.accept (Nat.zero_lt_of_lt hi) rfl rfl rfl
  | refused | writerGone => exact hf.of_eq rfl rfl rfl
  | readerGone => exact hf.dropOwner.of_eq rfl rfl rfl
  | aborted => exact ⟨hf.inbound, Nat.zero_le _⟩

/-- No holder fills a queue beyond what it may hold. -/
theorem Fits.use (h : Use now e e') (hf : Fits e) : Fits e' := by
  cases h with
  | send frame =>
    have hs := sent_send e frame
    generalize e.send frame = sent at hs
    cases hs with
    | accepted _ _ hr => exact hf.accept (Nat.zero_lt_of_lt hr) rfl rfl rfl
    | refused | waits => exact hf.of_eq rfl rfl rfl
  | takeInbound =>
    unfold Endpoint.takeInbound
    split <;> exact hf.of_eq rfl rfl rfl
  | receive =>
    unfold Endpoint.receive
    split
    · next f rest hi =>
      refine ⟨?_, hf.outbound⟩
      have hin := hf.inbound
      rw [hi, List.length_cons] at hin
      exact Nat.le_of_succ_le hin
    · exact hf
  | dropInbound => exact hf.dropInbound
  | dropOwner => exact hf.dropOwner
  | withdraw => exact hf.of_eq rfl rfl rfl
  | close =>
    rw [close_eq]
    exact hf.of_eq rfl rfl rfl
  | shutDown =>
    rw [Endpoint.shutDown, close_eq]
    exact hf.of_eq rfl rfl rfl
  | cancel =>
    rw [Endpoint.cancel, finish_eq]
    exact hf.of_eq rfl rfl rfl

/-- That the queues hold no more than they may is stable. -/
theorem isStable_fits : IsStable fun _ e => Fits e where
  act h hf := by
    rcases h.step_or_use with ⟨m, h⟩ | h
    · exact hf.step h
    · exact hf.use h
  arrive _ hf := hf.of_eq rfl rfl rfl
  setFlow _ hf := hf.of_eq rfl rfl rfl
  later _ := id

/-! ### Frames that go out -/

/-- As long as the queue takes frames the writer holds one besides it, at most. -/
theorem length_inHand_le (hc : e.isClosed = false) : e.inHand.length ≤ 1 := by
  have hheld : e.writer.held = [] := by
    cases hw : e.writer with
    | idle | writing | stopped => rfl
    | leaving => simp [isClosed, hw] at hc
  rw [inHand_eq, hheld, List.append_nil]
  exact Option.length_toList_le

/-- As long as the queue takes frames, what is held is in it or in the writer's hand. -/
theorem IsBounded.of_not_isClosed (hl : Outgoing e) (hf : Fits e) (hc : e.isClosed = false) :
    IsBounded e := by
  have haccepted := congrArg List.length hl.accepted_eq
  have hhand := length_inHand_le hc
  have hqueue := hf.outbound
  simp only [List.length_map, List.length_append] at haccepted
  unfold IsBounded
  omega

/-- A queue that takes no more frames accepts none. -/
theorem accepted_of_isClosed (h : Act now e e') (hc : e'.isClosed = true) :
    e'.accepted = e.accepted := by
  rcases h.step_or_use with ⟨m, h⟩ | h
  · by_cases hm : ∃ ticket, m = .resume ticket
    · obtain ⟨ticket, rfl⟩ := hm
      cases h with
      | reader h => cases h
      | writer h => cases h
      | farewell _ h => cases h
      | accepted _ _ hopen => exact absurd hc (Bool.eq_false_iff.mp hopen)
      | refused => rfl
    · exact (Keeps.step h fun ticket hticket => hm ⟨ticket, hticket⟩).accepted
  · cases h with
    | send frame =>
      have hs := sent_send e frame
      generalize e.send frame = sent at hs hc
      cases hs with
      | accepted _ hopen => exact absurd hc (Bool.eq_false_iff.mp hopen)
      | refused | waits => rfl
    | takeInbound =>
      unfold Endpoint.takeInbound
      split <;> rfl
    | receive =>
      unfold Endpoint.receive
      split <;> rfl
    | dropOwner => exact (Keeps.dropOwner e).accepted
    | withdraw | dropInbound => rfl
    | close => rw [close_eq]
    | shutDown => rw [Endpoint.shutDown, close_eq]
    | cancel => rw [Endpoint.cancel, finish_eq]

/-- What was given up is not taken up again. -/
theorem unwritten_act (h : Act now e e') : e.unwritten <+: e'.unwritten := by
  have hstop (x : Endpoint) (hx : x.unwritten = e.unwritten) :
      e.unwritten <+: x.stopWriter.unwritten := by
    rw [stopWriter, hx, List.append_assoc]
    exact List.prefix_append _ _
  cases writerAct_of_act h with
  | work h =>
    cases h with
    | take | ping | wrote => exact List.prefix_rfl
    | _ => rw [beginFarewell_eq]
  | farewell _ h =>
    cases h with
    | hungUp | failed | late => exact hstop _ rfl
    | _ => exact List.prefix_rfl
  | aborted => exact hstop _ rfl
  | rests h => rw [h.unwritten]

/-- When the queue takes no more frames, what is held can only become less. -/
theorem IsBounded.act (h : Act now e e') (hl : Ledger e') (hf : Fits e') (hb : IsBounded e) :
    IsBounded e' := by
  by_cases hc : e'.isClosed = true
  · have hwritten : e.framesWritten <+: e'.framesWritten := (Follows.act h).written.filterMap _
    have hmore := hwritten.length_le
    have hlost := (unwritten_act h).length_le
    unfold IsBounded at hb ⊢
    rw [accepted_of_isClosed h hc, (Follows.act h).settings]
    omega
  · exact .of_not_isClosed hl.outgoing hf (Bool.eq_false_iff.mpr hc)

/-- How much is held is bounded in a stable way. -/
theorem isStable_bounded : IsStable fun _ e => (Ledger e ∧ Fits e) ∧ IsBounded e where
  act h hp := by
    obtain ⟨⟨hl, hf⟩, hb⟩ := hp
    have hl' := hl.act h
    have hf' := isStable_fits.act h hf
    exact ⟨⟨hl', hf'⟩, hb.act h hl' hf'⟩
  arrive a hp := ⟨⟨hp.1.1.arrive a, hp.1.2.of_eq rfl rfl rfl⟩, hp.2⟩
  setFlow flow hp := ⟨⟨hp.1.1.setFlow flow, hp.1.2.of_eq rfl rfl rfl⟩, hp.2⟩
  later _ := id

/-! ### Frames that come in -/

/-- The account depends on these fields alone. -/
theorem IsAccounted.of_eq (h : IsAccounted e) (ht : e'.taken = e.taken)
    (hv : e'.received = e.received) (hi : e'.inbound = e.inbound) (hr : e'.reader = e.reader)
    (hu : e'.unreceived = e.unreceived) : IsAccounted e' := by
  unfold IsAccounted framesTaken
  rw [ht, hv, hi, hr, hu]
  exact h

/-- What the reader takes it holds or gives up. -/
theorem IsAccounted.take {m : Message} {frame : Bytes} (h : IsAccounted e)
    (hm : m.content = .data frame) (rest : List Arrival)
    (ht : e'.taken = (e.took (.message m) rest).taken) (hv : e'.received = e.received)
    (hi : e'.inbound = e.inbound)
    (hu : (e'.reader.held ++ e'.unreceived).Perm (e.reader.held ++ e.unreceived ++ [frame])) :
    IsAccounted e' := by
  have hframe : (Arrival.message m).frame? = some frame := content_eq_data.mp hm
  have hframes : e'.framesTaken = e.framesTaken ++ [frame] := by
    have htook := framesTaken_took e (.message m) rest
    rwa [hframe, framesTaken, ← ht] at htook
  unfold IsAccounted at h ⊢
  rw [hframes, hv, hi]
  grind

/-- What else the reader takes leaves the account as it is. -/
theorem IsAccounted.pass {a : Arrival} (h : IsAccounted e) (ha : a.frame? = none)
    (rest : List Arrival) : IsAccounted (e.took a rest) := by
  have htook := framesTaken_took e a rest
  rw [ha, Option.toList_none, List.append_nil] at htook
  unfold IsAccounted at h ⊢
  rwa [htook]

/-- A reader that stops gives up what it holds. -/
theorem IsAccounted.stopReader (h : IsAccounted e) (cause : Cause) :
    IsAccounted (e.stopReader now cause) := by
  rw [stopReader_eq]
  unfold IsAccounted at h ⊢
  refine h.trans ?_
  simp only [Reader.held]
  grind

/-- The reader accounts for what it takes. -/
theorem IsAccounted.readerStep (h : ReaderStep now e m e') (hacc : IsAccounted e) :
    IsAccounted e' := by
  cases h with
  | @data m frame rest hr ha hm =>
    refine hacc.take hm rest rfl rfl rfl ?_
    rw [hr]
    exact List.perm_append_comm
  | @oversized m frame rest hr ha hm =>
    refine IsAccounted.stopReader ?_ _
    refine hacc.take hm rest rfl rfl rfl ?_
    rw [List.append_assoc]
    exact List.Perm.refl _
  | @pong m rest hr ha hm =>
    have hnone : (Arrival.message m).frame? = none := frame?_eq_none (by simp [hm])
    exact (hacc.pass hnone rest).of_eq rfl rfl rfl rfl rfl
  | @other m rest hr ha hm =>
    have hnone : (Arrival.message m).frame? = none :=
      frame?_eq_none (by rcases hm with hm | hm <;> simp [hm])
    exact hacc.pass hnone rest
  | @closed m code rest hr ha hm =>
    have hnone : (Arrival.message m).frame? = none := frame?_eq_none (by simp [hm])
    refine IsAccounted.stopReader ?_ _
    exact (hacc.pass hnone rest).of_eq rfl rfl rfl rfl rfl
  | @refused err rest | @failed err rest =>
    refine IsAccounted.stopReader ?_ _
    exact (hacc.pass (a := .failure err) rfl rest).of_eq rfl rfl rfl rfl rfl
  | @finished rest =>
    refine IsAccounted.stopReader ?_ _
    exact (hacc.pass (a := .finish) rfl rest).of_eq rfl rfl rfl rfl rfl
  | expired =>
    refine IsAccounted.stopReader ?_ _
    exact hacc.of_eq rfl rfl rfl rfl rfl
  | unwanted | ended => exact hacc.stopReader _
  | delivered hr =>
    unfold IsAccounted at hacc ⊢
    rw [hr] at hacc
    simp only [Reader.held, List.append_nil, ← List.append_assoc] at hacc ⊢
    exact hacc

/-- What the queue held is given up when it is dropped. -/
theorem IsAccounted.dropInbound (h : IsAccounted e) : IsAccounted e.dropInbound := by
  unfold IsAccounted at h ⊢
  refine h.trans ?_
  simp only [Endpoint.dropInbound]
  grind

/-- An owner that lets go drops the inbound queue at most. -/
theorem IsAccounted.dropOwner (h : IsAccounted e) : IsAccounted e.dropOwner := by
  have hfree : IsAccounted { e with isOwned := false } := h.of_eq rfl rfl rfl rfl rfl
  rw [dropOwner_eq]
  split_ifs
  · exact hfree.dropInbound
  · exact hfree

/-- No step loses a frame that the reader took. -/
theorem IsAccounted.step (h : Step now e m e') (hacc : IsAccounted e) : IsAccounted e' := by
  cases h with
  | reader h => exact hacc.readerStep h
  | writer h =>
    cases h with
    | take | ping | wrote => exact hacc.of_eq rfl rfl rfl rfl rfl
    | _ =>
      rw [beginFarewell_eq]
      exact hacc.of_eq rfl rfl rfl rfl rfl
  | farewell _ h => cases h <;> exact hacc.of_eq rfl rfl rfl rfl rfl
  | accepted | refused | writerGone | aborted => exact hacc.of_eq rfl rfl rfl rfl rfl
  | readerGone => exact hacc.dropOwner.of_eq rfl rfl rfl rfl rfl

/-- No holder loses a frame that the reader took. -/
theorem IsAccounted.use (h : Use now e e') (hacc : IsAccounted e) : IsAccounted e' := by
  cases h with
  | send frame =>
    have hs := sent_send e frame
    generalize e.send frame = sent at hs
    cases hs <;> exact hacc.of_eq rfl rfl rfl rfl rfl
  | takeInbound =>
    unfold Endpoint.takeInbound
    split <;> exact hacc.of_eq rfl rfl rfl rfl rfl
  | receive =>
    unfold Endpoint.receive
    split
    · next f rest hi =>
      unfold IsAccounted at hacc ⊢
      rw [hi] at hacc
      simpa [framesTaken] using hacc
    · exact hacc
  | dropInbound => exact hacc.dropInbound
  | dropOwner => exact hacc.dropOwner
  | withdraw => exact hacc.of_eq rfl rfl rfl rfl rfl
  | close =>
    rw [close_eq]
    exact hacc.of_eq rfl rfl rfl rfl rfl
  | shutDown =>
    rw [Endpoint.shutDown, close_eq]
    exact hacc.of_eq rfl rfl rfl rfl rfl
  | cancel =>
    rw [Endpoint.cancel, finish_eq]
    exact hacc.of_eq rfl rfl rfl rfl rfl

/-- The account is stable. -/
theorem isStable_accounted : IsStable fun _ e => IsAccounted e where
  act h hacc := by
    rcases h.step_or_use with ⟨m, h⟩ | h
    · exact hacc.step h
    · exact hacc.use h
  arrive _ hacc := hacc.of_eq rfl rfl rfl rfl rfl
  setFlow _ hacc := hacc.of_eq rfl rfl rfl rfl rfl
  later _ := id

/-- The reader holds one frame at most. -/
theorem Reader.length_held_le (r : Reader) : r.held.length ≤ 1 := by
  cases r with
  | offering => exact Nat.le_refl 1
  | listening | stopped => exact Nat.zero_le 1

/-- Nothing is given up of what comes in while the reader goes on and the inbound queue is held. -/
theorem IsAccounted.unreceived_eq (h : IsAccounted e) (hl : Incoming e) (hr : e.reader ≠ .stopped)
    (hc : e.consumer ≠ .gone) : e.unreceived = [] := by
  have hlength := h.length_eq
  rw [hl.received_whole hr hc] at hlength
  simpa using hlength

/-! ### Settled states -/

/-- When nothing can move, a send waits only for room that the outbound queue does not have. -/
theorem Settled.outbound_full (h : Settled now e) (hf : Fits e) (hw : e.waiting ≠ []) :
    e.outbound.length = e.settings.outboundCapacity := by
  obtain ⟨w, rest, hwaiting⟩ := List.exists_cons_of_ne_nil hw
  have hresume : e.resumeSend w.ticket = none := Option.map_eq_none_iff.mp (h (.resume w.ticket))
  rw [resumeSend, place?_head hwaiting] at hresume
  simp only [Bool.or_eq_true] at hresume
  split_ifs at hresume with hclosed hroom
  have hle := hf.outbound
  rw [room] at hroom
  omega

/-- When nothing can move, a reader that goes on has taken all that has arrived, or waits for room
that the inbound queue does not have. -/
theorem Settled.inbound_full (h : Settled now e) (hf : Fits e) (hl : Incoming e)
    (hd : e.isDone = false) :
    e.reader = .listening ∧ e.arrivals = [] ∨
      e.inbound.length = e.settings.inboundCapacity := by
  refine (reader_cases (hl.reader_ne hd) (h .read) (h .deliver)).imp_right ?_
  rintro ⟨frame, -, hfull⟩
  exact Nat.le_antisymm hf.inbound hfull

end

/-! ### Main result -/

section

variable {settings : Settings} {now : Nat} {events : List Event} {s : Station}

/-- In every run, the frames whose sends succeeded were written or given up, apart from as many as
the outbound queue holds and one more; only a writer that has stopped gives any up. The frames of
the data messages that the reader took were received or given up, apart from as many as the inbound
queue holds and one more; only with the end of the reader, or with the inbound queue, is any given
up. When nothing can move and the lifetime lasts, a send waits only while the outbound queue is
full, and the reader leaves what arrives only while the inbound queue is full. -/
theorem held_of_run (hrun : (Station.opening settings now).run events = some s) :
    (∃ held, (succeeded ((Station.opening settings now).returned events)).map (·.frame)
          = s.endpoint.framesWritten ++ held ++ s.endpoint.unwritten ∧
        held.length ≤ settings.outboundCapacity + 1) ∧
    (s.endpoint.writer ≠ .stopped → s.endpoint.unwritten = []) ∧
    (∃ taken held, arrived events = taken ++ s.endpoint.arrivals ∧
        (taken.filterMap Arrival.frame?).Perm
          ((Station.opening settings now).handed events ++ held ++ s.endpoint.unreceived) ∧
        held.length ≤ settings.inboundCapacity + 1) ∧
    (s.endpoint.reader ≠ .stopped → s.endpoint.consumer ≠ .gone → s.endpoint.unreceived = []) ∧
    (Settled s.now s.endpoint → s.endpoint.isDone = false →
      (s.endpoint.waiting ≠ [] → s.endpoint.outbound.length = settings.outboundCapacity) ∧
      (s.endpoint.reader = .listening ∧ s.endpoint.arrivals = [] ∨
        s.endpoint.inbound.length = settings.inboundCapacity)) := by
  have hsettings : s.endpoint.settings = settings := Station.settings_run hrun
  have hreceived : s.endpoint.received = (Station.opening settings now).handed events :=
    received_run hrun
  obtain ⟨hsucceeded, -, -⟩ := Station.returned_opening hrun
  have hstart : (Ledger (start settings now) ∧ Fits (start settings now)) ∧
      IsBounded (start settings now) := ⟨⟨.start settings now, .start settings now⟩, Nat.zero_le _⟩
  obtain ⟨⟨hledger, hfits⟩, hbounded⟩ :
      (Ledger s.endpoint ∧ Fits s.endpoint) ∧ IsBounded s.endpoint := by
    refine isStable_bounded.run ?_ hrun hstart
    rintro - e handles ⟨⟨hl, hf⟩, hb⟩
    exact ⟨⟨hl.handles handles, hf.of_eq rfl rfl rfl⟩, hb⟩
  have haccounted : IsAccounted s.endpoint :=
    isStable_accounted.run (fun _ h => h.of_eq rfl rfl rfl rfl rfl) hrun (List.Perm.refl _)
  have hincoming := hledger.incoming
  refine ⟨⟨s.endpoint.inHand ++ s.endpoint.outbound, ?_, ?_⟩, hledger.outgoing.unwritten_eq,
    ⟨s.endpoint.taken, s.endpoint.inbound ++ s.endpoint.reader.held, ?_, ?_, ?_⟩,
    haccounted.unreceived_eq hincoming, ?_⟩
  · rw [← hsucceeded, hledger.outgoing.accepted_eq, List.append_assoc s.endpoint.framesWritten]
  · have haccepted := congrArg List.length hledger.outgoing.accepted_eq
    simp only [List.length_map, List.length_append] at haccepted ⊢
    rw [IsBounded, hsettings] at hbounded
    omega
  · exact (Station.seen_run hrun).symm
  · rw [← hreceived, ← List.append_assoc s.endpoint.received]
    exact haccounted
  · rw [List.length_append, ← hsettings]
    exact Nat.add_le_add hfits.inbound s.endpoint.reader.length_held_le
  · intro hsettled hdone
    rw [← hsettings]
    exact ⟨hsettled.outbound_full hfits, hsettled.inbound_full hfits hincoming hdone⟩

/-- Queues that hold one frame each. -/
def tight : Settings := { shallow with outboundCapacity := 1 }

/-- The socket takes nothing, and nobody receives: one frame is being written, one is queued and one
waits; one waits to be received, the reader holds one, and one was not taken. -/
def congested : List Event :=
  [.setFlow .blocked, .send [0x61], .move .take, .send [0x62], .send [0x63], .takeInbound,
    .arrive (.message (.text "d")), .arrive (.message (.binary [0xFF])),
    .arrive (.message (.text "f")), .move .read, .move .deliver, .move .read]

/-- As much is held as may be. -/
theorem held_of_run_congested :
    ∃ s, (Station.opening tight 0).run congested = some s ∧ Settled s.now s.endpoint ∧
      s.endpoint.isDone = false ∧ s.endpoint.waiting = [⟨2, [0x63]⟩] ∧
      s.endpoint.outbound.length = 1 ∧ s.endpoint.inbound.length = 1 ∧
      (∃ held, [[0x61], [0x62]] = s.endpoint.framesWritten ++ held ++ s.endpoint.unwritten ∧
        held.length ≤ 1 + 1) ∧
      ∃ taken held, arrived congested = taken ++ [.message (.text "f")] ∧
        (taken.filterMap Arrival.frame?).Perm ([] ++ held ++ []) ∧ held.length ≤ 1 + 1 := by
  have hrun : ∃ s ∈ (Station.opening tight 0).run congested, Settled s.now s.endpoint ∧
      s.endpoint.isDone = false ∧ s.endpoint.waiting = [⟨2, [0x63]⟩] ∧
      s.endpoint.arrivals = [.message (.text "f")] ∧ s.endpoint.reader = .offering [0xFF] ∧
      s.endpoint.consumer = .taken := by
    decide +kernel
  have hreturned : succeeded ((Station.opening tight 0).returned congested)
      = [⟨0, [0x61]⟩, ⟨1, [0x62]⟩] := by
    decide +kernel
  have hhanded : (Station.opening tight 0).handed congested = [] := by
    decide +kernel
  obtain ⟨s, hs, hsettled, hdone, hwaiting, harrivals, hreader, hconsumer⟩ := hrun
  obtain ⟨hout, -, hin, hkept, hfull⟩ := held_of_run hs
  obtain ⟨hqueue, ⟨hlistening, -⟩ | hinbound⟩ := hfull hsettled hdone
  · cases hreader.symm.trans hlistening
  · rw [hreturned] at hout
    rw [hhanded, harrivals, hkept (by simp [hreader]) (by simp [hconsumer])] at hin
    exact ⟨s, hs, hsettled, hdone, hwaiting, hqueue (by simp [hwaiting]), hinbound, hout, hin⟩

end

end Switchboard.Endpoint
