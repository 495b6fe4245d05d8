import Switchboard.Proofs.Endpoint.Step
import Switchboard.Proofs.Text.Utf8
/-!
# The ledger of an endpoint

An endpoint loses, doubles and reorders nothing: what its reader has taken is what was received,
what waits to be received and what the reader holds; what it has accepted is what was written, what
the writer holds, what waits to be written and what will not be written. Only an endpoint that has
ended drops anything, and only from the end of these sequences.

The ledger has three parts, for the frames that come in (`Incoming`), for those that go out
(`Outgoing`) and for the tickets of the sends (`Ticketed`). Each holds at the beginning and is kept
by every step and by everything that is done to an endpoint.
-/

namespace Switchboard

namespace Wire

/-- The frame of a data message that arrives. -/
def Arrival.frame? : Arrival → Option Bytes
  | .message m => m.frame?
  | .failure _ => none
  | .finish => none

/-- The frame of a data message that is written. -/
def Output.frame? : Output → Option Bytes
  | .message m => m.frame?
  | .hangUp => none

/-- A frame is the frame of its message. -/
@[simp] theorem frame?_ofFrame (f : Bytes) : (Message.ofFrame f).frame? = some f := by
  unfold Message.ofFrame
  split
  · next s hs => exact congrArg some (Utf8.encode_of_decode? hs)
  · rfl

/-- The data messages are those with a frame. -/
theorem content_eq_data {m : Message} {f : Bytes} :
    m.content = .data f ↔ m.frame? = some f := by
  cases m <;> simp [Message.content, Message.frame?]

/-- Any other message has no frame. -/
theorem frame?_eq_none {m : Message} (h : ∀ f, m.content ≠ .data f) : m.frame? = none := by
  cases hm : m.frame? with
  | none => rfl
  | some f => exact absurd (content_eq_data.mpr hm) (h f)

end Wire

namespace Endpoint

open Wire

/-! ### Definitions -/

/-- The frames of the data messages that the reader has taken. -/
def framesTaken (e : Endpoint) : List Bytes := e.taken.filterMap Arrival.frame?

/-- What has arrived, first what the reader has taken. -/
def seen (e : Endpoint) : List Arrival := e.taken ++ e.arrivals

/-- The frames of the data messages that have arrived. -/
def framesArrived (e : Endpoint) : List Bytes := (e.taken ++ e.arrivals).filterMap Arrival.frame?

/-- The frames of the data messages that were written. -/
def framesWritten (e : Endpoint) : List Bytes := e.written.filterMap (·.2.frame?)

/-- What has come in. -/
structure Incoming (e : Endpoint) : Prop where
  received_begins : e.received ++ e.inbound <+: e.framesTaken
  received_whole : e.reader ≠ .stopped → e.consumer ≠ .gone →
    e.framesTaken = e.received ++ e.inbound ++ e.reader.held
  done_of_stopped : e.reader = .stopped → e.isDone = true

/-- What goes out. -/
structure Outgoing (e : Endpoint) : Prop where
  accepted_eq : e.accepted.map (·.frame) = e.framesWritten ++ e.inHand ++ e.outbound ++ e.unwritten
  unwritten_eq : e.writer ≠ .stopped → e.unwritten = []
  slot_of_idle : e.writer = .idle → e.slot = none
  slot_of_writing : ∀ deadline, e.writer = .writing deadline → e.slot ≠ none
  done_of_leaving : ∀ code stage deadline, e.writer = .leaving code stage deadline →
    e.isDone = true
  done_of_stopped : e.writer = .stopped → e.isDone = true ∨ e.settings.pingPeriod.toNanos = 0

/-- Each send has a ticket of its own. -/
structure Ticketed (e : Endpoint) : Prop where
  fresh : ∀ w ∈ e.accepted ++ e.waiting, w.ticket < e.tickets
  distinct : ((e.accepted ++ e.waiting).map (·.ticket)).Nodup

/-- The ledger of an endpoint. -/
structure Ledger (e : Endpoint) : Prop where
  incoming : Incoming e
  outgoing : Outgoing e
  ticketed : Ticketed e
  /-- A shutdown begins with the end of the lifetime. -/
  done_of_shutdown : e.shutdown ≠ .unasked → e.isDone = true

section

variable {e e' : Endpoint} {now : Nat} {m : Move}

/-! ### Frames that come in -/

/-- What is written to the socket comes from the slot. -/
theorem framesWritten_writeSlot (e : Endpoint) (now : Nat) (m : Message) :
    (e.writeSlot now m).framesWritten = e.framesWritten ++ m.frame?.toList := by
  cases h : m.frame? <;> simp [framesWritten, writeSlot, record, Output.frame?, h]

/-- What the reader takes has come. -/
theorem framesTaken_took (e : Endpoint) (a : Arrival) (rest : List Arrival) :
    (e.took a rest).framesTaken = e.framesTaken ++ a.frame?.toList := by
  cases h : a.frame? <;> simp [framesTaken, took, h]

/-- What was received are the first frames that have arrived. -/
theorem Incoming.received_arrived (h : Incoming e) : e.received <+: e.framesArrived := by
  have htaken : e.received <+: e.framesTaken := (List.prefix_append _ _).trans h.received_begins
  apply htaken.trans
  rw [framesTaken, framesArrived, List.filterMap_append]
  exact List.prefix_append _ _

/-- A reader that stops leaves what was received and waits to be. -/
theorem Incoming.stopReader (h : e.received ++ e.inbound <+: e.framesTaken) (now : Nat)
    (cause : Cause) : Incoming (e.stopReader now cause) := by
  rw [stopReader_eq]
  exact ⟨h, fun hr => absurd rfl hr, fun _ => rfl⟩

/-- The reader keeps account of what comes in. -/
theorem Incoming.readerStep (h : ReaderStep now e m e') (hl : Incoming e) : Incoming e' := by
  obtain ⟨hbegins, hwhole, hdone⟩ := hl
  have htook (a : Arrival) (rest : List Arrival) :
      e.received ++ e.inbound <+: (e.took a rest).framesTaken := by
    rw [framesTaken_took]
    exact hbegins.trans (List.prefix_append _ _)
  cases h with
  | @data m frame rest hr ha hm hs =>
    refine ⟨htook (.message m) rest, fun _ hc => ?_, by simp⟩
    have hframes := framesTaken_took e (.message m) rest
    rw [hwhole (by simp [hr]) hc, Arrival.frame?, content_eq_data.mp hm, hr] at hframes
    simp only [Reader.held, List.append_nil] at hframes
    exact hframes
  | @pong m rest hr ha hm =>
    refine ⟨htook (.message m) rest, fun hr' hc => ?_, hdone⟩
    have hframes := framesTaken_took e (.message m) rest
    rw [hwhole hr' hc, Arrival.frame?, frame?_eq_none (by simp [hm])] at hframes
    simp only [Option.toList_none, List.append_nil] at hframes
    exact hframes
  | @other m rest hr ha hm =>
    refine ⟨htook (.message m) rest, fun hr' hc => ?_, hdone⟩
    have hframes := framesTaken_took e (.message m) rest
    have hnone : m.frame? = none := frame?_eq_none (by rcases hm with h | h <;> simp [h])
    rw [hwhole hr' hc, Arrival.frame?, hnone] at hframes
    simp only [Option.toList_none, List.append_nil] at hframes
    exact hframes
  | @oversized m _ rest | @closed m _ rest =>
    refine Incoming.stopReader ?_ now _
    exact htook (.message m) rest
  | @refused err rest | @failed err rest =>
    refine Incoming.stopReader ?_ now _
    exact htook (.failure err) rest
  | @finished rest =>
    refine Incoming.stopReader ?_ now _
    exact htook .finish rest
  | expired | unwanted | ended =>
    refine Incoming.stopReader ?_ now _
    exact hbegins
  | @delivered frame hr hc hi =>
    have hframes := hwhole (by simp [hr]) hc
    rw [hr, Reader.held, List.append_assoc] at hframes
    refine ⟨?_, fun _ _ => ?_, by simp⟩
    · exact hframes ▸ List.prefix_rfl
    · exact hframes.trans (List.append_nil _).symm

/-! ### Frames that go out -/

/-- What is in hand besides what the slot holds. -/
def Writer.held : Writer → List Bytes
  | .leaving _ (.wait frame) _ => [frame]
  | _ => []

/-- The writer holds what is in its slot and what waits for the slot. -/
theorem inHand_eq (e : Endpoint) :
    e.inHand = (e.slot.bind Message.frame?).toList ++ e.writer.held := by
  unfold inHand
  cases e.writer with
  | leaving _ stage _ => cases stage <;> rfl
  | _ => rfl

/-- What is written from the slot leaves the writer's hand. -/
theorem Outgoing.accepted_writeSlot (hl : Outgoing e) (now : Nat) {x : Message}
    (hs : e.slot = some x) :
    e.accepted.map (·.frame)
      = (e.writeSlot now x).framesWritten ++ e.writer.held ++ e.outbound ++ e.unwritten := by
  have haccepted := hl.accepted_eq
  rw [inHand_eq, hs] at haccepted
  rw [framesWritten_writeSlot]
  simpa using haccepted

/-- The reader leaves alone what goes out. -/
theorem Outgoing.readerStep (h : ReaderStep now e m e') (hl : Outgoing e) : Outgoing e' := by
  obtain ⟨haccepted, hunwritten, hidle, hwriting, hleaving, hstopped⟩ := hl
  cases h with
  | data | pong | other | delivered =>
    exact ⟨haccepted, hunwritten, hidle, hwriting, hleaving, hstopped⟩
  | _ =>
    rw [stopReader_eq]
    exact ⟨haccepted, hunwritten, hidle, hwriting, fun _ _ _ _ => rfl, fun _ => Or.inl rfl⟩

/-- A farewell begins with what the writer holds. -/
theorem Outgoing.beginFarewell (hl : Outgoing e) (hw : e.writer ≠ .stopped)
    (hh : e.writer.held = []) (now : Nat) (cause : Cause) :
    Outgoing (e.beginFarewell now cause) := by
  obtain ⟨haccepted, hunwritten, -, -, -, -⟩ := hl
  rw [beginFarewell_eq]
  refine ⟨?_, fun _ => hunwritten hw, by simp, by simp, fun _ _ _ _ => rfl, by simp⟩
  rw [inHand_eq, hh] at haccepted
  rw [inHand_eq]
  exact haccepted

/-- The writer keeps account of what goes out. -/
theorem Outgoing.writerStep (h : WriterStep now e m e') (hl : Outgoing e) : Outgoing e' := by
  cases h with
  | @take f rest hw ho =>
    have haccepted := hl.accepted_eq
    rw [inHand_eq, hl.slot_of_idle hw, hw, ho] at haccepted
    refine ⟨?_, fun _ => hl.unwritten_eq (by simp [hw]), by simp, by simp, by simp, by simp⟩
    rw [inHand_eq]
    simpa [framesWritten, Writer.held] using haccepted
  | ping hw hd =>
    have haccepted := hl.accepted_eq
    rw [inHand_eq, hl.slot_of_idle hw, hw] at haccepted
    refine ⟨?_, fun _ => hl.unwritten_eq (by simp [hw]), by simp, by simp, by simp, by simp⟩
    rw [inHand_eq]
    exact haccepted
  | ended hw _ | abandoned hw => exact hl.beginFarewell (by simp [hw]) (by rw [hw]; rfl) now _
  | @wrote deadline m hw hs hf =>
    have haccepted := hl.accepted_writeSlot now hs
    refine ⟨?_, fun _ => hl.unwritten_eq (by simp [hw]), fun _ => rfl, by simp, by simp, by simp⟩
    rw [hw] at haccepted
    rw [inHand_eq]
    exact haccepted
  | @failed _ _ hw hs hf log =>
    refine Outgoing.beginFarewell ?_ (by simp [hw]) (by simp [hw, Writer.held]) now _
    exact ⟨hl.1, hl.2, hl.3, hl.4, hl.5, hl.6⟩
  | @late _ hw hg hd log =>
    refine Outgoing.beginFarewell ?_ (by simp [hw]) (by simp [hw, Writer.held]) now _
    exact ⟨hl.1, hl.2, hl.3, hl.4, hl.5, hl.6⟩

/-- A writer that stops leaves what it did not write. -/
theorem Outgoing.stopWriter (hl : Outgoing e) (hw : e.writer ≠ .stopped) (hd : e.isDone = true) :
    Outgoing e.stopWriter := by
  refine ⟨?_, ?_, ?_, ?_, ?_, fun _ => Or.inl hd⟩
  · have haccepted := hl.accepted_eq
    rw [hl.unwritten_eq hw] at haccepted
    rw [inHand_eq]
    simpa [Endpoint.stopWriter, framesWritten, hl.unwritten_eq hw, Writer.held] using haccepted
  · simp [Endpoint.stopWriter]
  · simp [Endpoint.stopWriter]
  · simp [Endpoint.stopWriter]
  · simp [Endpoint.stopWriter]

/-- The writer keeps account in its farewell. -/
theorem Outgoing.farewellStep {code : CloseCode} {stage : Farewell} {deadline : Nat}
    (hw : e.writer = .leaving code stage deadline)
    (h : FarewellStep now e code deadline stage m e') (hl : Outgoing e) (hd : e.isDone = true) :
    Outgoing e' := by
  have hne : e.writer ≠ .stopped := by simp [hw]
  have hkept := hl.unwritten_eq hne
  cases h with
  | @fetch f rest ho =>
    refine ⟨?_, fun _ => hkept, by simp, by simp, fun _ _ _ _ => hd, by simp⟩
    have haccepted := hl.accepted_eq
    rw [inHand_eq, hw, ho] at haccepted
    rw [inHand_eq]
    simpa [Writer.held, framesWritten] using haccepted
  | drained ho =>
    refine ⟨?_, fun _ => hkept, by simp, by simp, fun _ _ _ _ => hd, by simp⟩
    have haccepted := hl.accepted_eq
    rw [inHand_eq, hw] at haccepted
    rw [inHand_eq]
    exact haccepted
  | @load f hs =>
    refine ⟨?_, fun _ => hkept, by simp, by simp, fun _ _ _ _ => hd, by simp⟩
    have haccepted := hl.accepted_eq
    rw [inHand_eq, hw, hs] at haccepted
    rw [inHand_eq]
    simpa [Writer.held, framesWritten] using haccepted
  | loadClose hs =>
    refine ⟨?_, fun _ => hkept, by simp, by simp, fun _ _ _ _ => hd, by simp⟩
    have haccepted := hl.accepted_eq
    rw [inHand_eq, hw, hs] at haccepted
    rw [inHand_eq]
    exact haccepted
  | @clear _ m hs hf ht =>
    refine ⟨?_, fun _ => hkept, fun h => absurd h (by simp [writeSlot, record, hw]),
      fun _ h => absurd h (by simp [writeSlot, record, hw]), fun _ _ _ _ => hd, fun _ => Or.inl hd⟩
    rw [inHand_eq]
    exact hl.accepted_writeSlot now hs
  | @flushed m hs hf =>
    refine ⟨?_, fun _ => hkept, by simp, by simp, fun _ _ _ _ => hd, by simp⟩
    have haccepted := hl.accepted_writeSlot now hs
    rw [hw] at haccepted
    rw [inHand_eq]
    exact haccepted
  | @flushedClose m hs hf =>
    refine ⟨?_, fun _ => hkept, by simp, by simp, fun _ _ _ _ => hd, by simp⟩
    have haccepted := hl.accepted_writeSlot now hs
    rw [hw] at haccepted
    rw [inHand_eq]
    exact haccepted
  | hungUp hs hf =>
    refine Outgoing.stopWriter ⟨?_, fun _ => hkept, hl.3, hl.4, hl.5, hl.6⟩ hne hd
    have haccepted := hl.accepted_eq
    simpa [record, framesWritten, Output.frame?, inHand_eq] using haccepted
  | failed hf ht => exact Outgoing.stopWriter ⟨hl.1, hl.2, hl.3, hl.4, hl.5, hl.6⟩ hne hd
  | failedClose hs hf ht =>
    refine ⟨?_, fun _ => hkept, by simp, by simp, fun _ _ _ _ => hd, by simp⟩
    have haccepted := hl.accepted_eq
    rw [inHand_eq, hw] at haccepted
    rw [inHand_eq]
    rcases ht with rfl | rfl <;> exact haccepted
  | late hg hd' log => exact Outgoing.stopWriter ⟨hl.1, hl.2, hl.3, hl.4, hl.5, hl.6⟩ hne hd

/-! ### The beginning -/

/-- At the beginning nothing has come in. -/
theorem Incoming.start (settings : Settings) (now : Nat) : Incoming (start settings now) := by
  refine ⟨?_, ?_, ?_⟩
  · exact List.prefix_rfl
  · intro _ _
    rfl
  · intro h
    cases h

/-- At the beginning the writer waits, or it could not begin. -/
theorem writer_start (settings : Settings) (now : Nat) :
    (Endpoint.start settings now).writer = .stopped ∧ settings.pingPeriod.toNanos = 0 ∨
      (Endpoint.start settings now).writer = .idle ∧ settings.pingPeriod.toNanos ≠ 0 := by
  by_cases hp : settings.pingPeriod.toNanos = 0 <;> simp [Endpoint.start, hp]

/-- At the beginning nothing goes out. -/
theorem Outgoing.start (settings : Settings) (now : Nat) : Outgoing (start settings now) := by
  have hw := writer_start settings now
  have hheld : (Endpoint.start settings now).writer.held = [] := by
    rcases hw with ⟨hw, -⟩ | ⟨hw, -⟩ <;> rw [hw] <;> rfl
  refine ⟨?_, ?_, ?_, ?_, ?_, ?_⟩
  · rw [inHand_eq, hheld]
    rfl
  · intro _
    rfl
  · intro _
    rfl
  · intro deadline h
    rcases hw with ⟨hw, -⟩ | ⟨hw, -⟩ <;> simp [hw] at h
  · intro code stage deadline h
    rcases hw with ⟨hw, -⟩ | ⟨hw, -⟩ <;> simp [hw] at h
  · intro h
    rcases hw with ⟨-, hp⟩ | ⟨hw, -⟩
    · have hsettings : (Endpoint.start settings now).settings = settings := rfl
      rw [hsettings]
      exact Or.inr hp
    · simp [hw] at h

/-- At the beginning no ticket was handed out. -/
theorem Ticketed.start (settings : Settings) (now : Nat) : Ticketed (start settings now) := by
  constructor
  · intro w h
    cases h
  · exact List.nodup_nil

/-- At the beginning nothing has happened. -/
theorem Ledger.start (settings : Settings) (now : Nat) : Ledger (start settings now) :=
  ⟨.start settings now, .start settings now, .start settings now, fun h => absurd rfl h⟩

/-! ### Tickets -/

/-- The place of a ticket is that of a send that waits. -/
theorem mem_of_place? {ticket i : Nat} {w : Waiting} (h : e.place? ticket = some (i, w)) :
    w ∈ e.waiting ∧ w.ticket = ticket := by
  obtain ⟨⟨x, j⟩, hfind, heq⟩ := Option.map_eq_some_iff.mp h
  obtain ⟨-, rfl⟩ := Prod.mk.inj heq
  have hmem := List.mem_of_find?_eq_some hfind
  have hticket := List.find?_some hfind
  exact ⟨(List.mem_zipIdx' hmem).2 ▸ List.getElem_mem _, by simpa using hticket⟩

/-- The send that has waited longest is in the first place. -/
theorem place?_head {w : Waiting} {rest : List Waiting} (h : e.waiting = w :: rest) :
    e.place? w.ticket = some (0, w) := by
  simp [place?, h]

/-- Where each send has a ticket of its own, a ticket finds one send. -/
theorem filter_ticket {ws : List Waiting} (hn : (ws.map (·.ticket)).Nodup) {w : Waiting}
    (hw : w ∈ ws) : ws.filter (·.ticket = w.ticket) = [w] := by
  induction ws with
  | nil => cases hw
  | cons x xs ih =>
    rw [List.map_cons, List.nodup_cons] at hn
    rcases List.mem_cons.mp hw with rfl | hw
    · have hnone : xs.filter (·.ticket = w.ticket) = [] := by
        rw [List.filter_eq_nil_iff]
        intro y hy hticket
        exact hn.1 (of_decide_eq_true hticket ▸ List.mem_map_of_mem hy)
      rw [List.filter_cons_of_pos (by simp), hnone]
    · have hne : x.ticket ≠ w.ticket := by
        intro hticket
        exact hn.1 (hticket ▸ List.mem_map_of_mem hw)
      rw [List.filter_cons_of_neg (by simpa using hne), ih hn.2 hw]

/-- A ticket that waits was not handed out again when its send is accepted. -/
theorem Ticketed.accept (hl : Ticketed e) {w : Waiting} (hw : w ∈ e.waiting)
    (ha : e'.accepted = e.accepted ++ [w])
    (hwait : e'.waiting = e.waiting.filter (·.ticket ≠ w.ticket)) (ht : e'.tickets = e.tickets) :
    Ticketed e' := by
  obtain ⟨hfresh, hdistinct⟩ := hl
  rw [List.map_append, List.nodup_append] at hdistinct
  obtain ⟨hacc, hwaiting, hdisjoint⟩ := hdistinct
  constructor
  · intro x hx
    rw [ht]
    apply hfresh
    rw [ha, hwait] at hx
    simp only [List.mem_append, List.mem_singleton, List.mem_filter] at hx ⊢
    rcases hx with (hx | rfl) | ⟨hx, -⟩
    · exact Or.inl hx
    · exact Or.inr hw
    · exact Or.inr hx
  · have hout : w.ticket ∉ e.accepted.map (·.ticket) := fun h =>
      hdisjoint _ h _ (List.mem_map_of_mem hw) rfl
    rw [ha, hwait, List.append_assoc, List.map_append, List.nodup_append]
    refine ⟨hacc, ?_, ?_⟩
    · rw [List.singleton_append, List.map_cons, List.nodup_cons]
      refine ⟨?_, hwaiting.sublist (List.filter_sublist.map _)⟩
      simp
    · intro t ht' u hu
      rw [List.singleton_append, List.map_cons, List.mem_cons] at hu
      rcases hu with rfl | hu
      · rintro rfl
        exact hout ht'
      · exact hdisjoint t ht' u ((List.filter_sublist.map _).subset hu)

/-- Sends that no longer wait leave the other tickets as they are. -/
theorem Ticketed.leave (hl : Ticketed e) (ha : e'.accepted = e.accepted)
    (hwait : e'.waiting.Sublist e.waiting) (ht : e.tickets ≤ e'.tickets) : Ticketed e' := by
  have hsub : (e'.accepted ++ e'.waiting).Sublist (e.accepted ++ e.waiting) := by
    rw [ha]
    exact List.Sublist.append_left hwait e.accepted
  refine ⟨fun w hw => ?_, ?_⟩
  · exact Nat.lt_of_lt_of_le (hl.fresh w (hsub.subset hw)) ht
  · exact hl.distinct.sublist (hsub.map _)

/-- A new send has a new ticket. -/
theorem Ticketed.issue (hl : Ticketed e) {w : Waiting} (hw : w.ticket = e.tickets)
    (hall : (e'.accepted ++ e'.waiting).Perm (w :: (e.accepted ++ e.waiting)))
    (ht : e'.tickets = e.tickets + 1) : Ticketed e' := by
  refine ⟨fun x hx => ?_, ?_⟩
  · rw [ht]
    rcases List.mem_cons.mp (hall.mem_iff.mp hx) with rfl | hx
    · omega
    · have := hl.fresh x hx
      omega
  · refine (hall.map _).nodup_iff.mpr (List.nodup_cons.mpr ⟨?_, hl.distinct⟩)
    intro h
    obtain ⟨x, hx, hxw⟩ := List.mem_map.mp h
    have := hl.fresh x hx
    exact absurd (hxw.trans hw) (Nat.ne_of_lt this)

/-! ### Every step -/

/-- What comes in depends on these fields alone. -/
theorem Incoming.of_eq (hl : Incoming e) (hr : e'.received = e.received)
    (hi : e'.inbound = e.inbound) (ht : e'.taken = e.taken) (hreader : e'.reader = e.reader)
    (hc : e'.consumer = e.consumer) (hd : e.isDone = true → e'.isDone = true) : Incoming e' := by
  obtain ⟨hbegins, hwhole, hdone⟩ := hl
  refine ⟨?_, ?_, ?_⟩
  · rwa [framesTaken, hr, hi, ht]
  · rwa [framesTaken, hr, hi, ht, hreader, hc]
  · intro h
    exact hd (hdone (hreader ▸ h))

/-- What goes out depends on these fields alone. -/
theorem Outgoing.of_eq (hl : Outgoing e) (ha : e'.accepted = e.accepted)
    (hwritten : e'.written = e.written) (hs : e'.slot = e.slot) (hw : e'.writer = e.writer)
    (ho : e'.outbound = e.outbound) (hu : e'.unwritten = e.unwritten)
    (hsettings : e'.settings = e.settings) (hd : e.isDone = true → e'.isDone = true) :
    Outgoing e' := by
  obtain ⟨haccepted, hunwritten, hidle, hwriting, hleaving, hstopped⟩ := hl
  refine ⟨?_, ?_, ?_, ?_, ?_, ?_⟩
  · rwa [framesWritten, inHand, ha, hwritten, hs, hw, ho, hu]
  · rwa [hw, hu]
  · rwa [hw, hs]
  · rwa [hw, hs]
  · intro code stage deadline h
    exact hd (hleaving code stage deadline (hw ▸ h))
  · intro h
    rw [hsettings]
    exact (hstopped (hw ▸ h)).imp_left hd

/-- The queue takes one more frame. -/
theorem Outgoing.accept (hl : Outgoing e) {w : Waiting} (hc : e.isClosed = false)
    (ha : e'.accepted = e.accepted ++ [w]) (ho : e'.outbound = e.outbound ++ [w.frame])
    (hwritten : e'.written = e.written) (hs : e'.slot = e.slot) (hw : e'.writer = e.writer)
    (hu : e'.unwritten = e.unwritten) : Outgoing e' := by
  have hne : e.writer ≠ .stopped := by
    intro h
    simp [isClosed, h] at hc
  have hkept := hl.unwritten_eq hne
  refine ⟨?_, ?_, ?_, ?_, ?_, ?_⟩
  · have haccepted := hl.accepted_eq
    rw [hkept] at haccepted
    rw [ha, ho, hu, hkept, framesWritten, inHand, hwritten, hs, hw, List.map_append, haccepted]
    simp [framesWritten, inHand]
  · intro _
    exact hu.trans hkept
  · exact hw ▸ hs ▸ hl.slot_of_idle
  · exact hw ▸ hs ▸ hl.slot_of_writing
  · intro code stage deadline h
    simp [isClosed, hw ▸ h] at hc
  · intro h
    exact absurd (hw ▸ h) hne

/-- The inbound queue is dropped with what it holds. -/
theorem Incoming.dropInbound (hl : Incoming e) : Incoming e.dropInbound := by
  refine ⟨?_, ?_, hl.done_of_stopped⟩
  · have hbegins : e.received <+: e.framesTaken :=
      (List.prefix_append _ _).trans hl.received_begins
    simpa [Endpoint.dropInbound, framesTaken] using hbegins
  · intro _ hc
    exact absurd rfl hc

/-- An owner that lets go drops the inbound queue unless that was handed out. -/
theorem dropOwner_eq (e : Endpoint) :
    e.dropOwner = if e.consumer = .untaken then { e with isOwned := false }.dropInbound
      else { e with isOwned := false } := rfl

/-- What no part of an endpoint changes by itself, apart from a send that waited: what was received
and sent, and the end of the lifetime and of the queue once they have come. -/
structure Keeps (e e' : Endpoint) : Prop where
  settings : e'.settings = e.settings
  received : e'.received = e.received
  accepted : e'.accepted = e.accepted
  waiting : e'.waiting = e.waiting
  tickets : e.tickets ≤ e'.tickets
  consumer : e.consumer ≠ .untaken → e'.consumer = e.consumer
  done : e.isDone = true → e'.isDone = true
  closed : e.isClosed = true → e'.isClosed = true

/-- An owner that lets go keeps the rest. -/
theorem Keeps.dropOwner (e : Endpoint) : Keeps e e.dropOwner := by
  rw [dropOwner_eq]
  split_ifs with h
  · exact ⟨rfl, rfl, rfl, rfl, Nat.le_refl _, fun hc => absurd h hc, id, id⟩
  · exact ⟨rfl, rfl, rfl, rfl, Nat.le_refl _, fun _ => rfl, id, id⟩

/-- No step changes these, except that of a send that waited. -/
theorem Keeps.step (h : Step now e m e') (hm : ∀ ticket, m ≠ .resume ticket) : Keeps e e' := by
  cases h with
  | reader h =>
    cases h with
    | data | pong | other | delivered =>
      exact ⟨rfl, rfl, rfl, rfl, Nat.le_refl _, fun _ => rfl, id, id⟩
    | _ =>
      rw [stopReader_eq]
      exact ⟨rfl, rfl, rfl, rfl, Nat.le_refl _, fun _ => rfl, fun _ => rfl, id⟩
  | writer h =>
    cases h with
    | take hw _ | ping hw _ | wrote hw _ _ =>
      exact ⟨rfl, rfl, rfl, rfl, Nat.le_refl _, fun _ => rfl, id,
        fun h => by simp [isClosed, hw] at h⟩
    | _ =>
      rw [beginFarewell_eq]
      exact ⟨rfl, rfl, rfl, rfl, Nat.le_refl _, fun _ => rfl, fun _ => rfl, fun _ => rfl⟩
  | farewell hw h =>
    cases h with
    | clear => exact ⟨rfl, rfl, rfl, rfl, Nat.le_refl _, fun _ => rfl, id, id⟩
    | _ => exact ⟨rfl, rfl, rfl, rfl, Nat.le_refl _, fun _ => rfl, id, fun _ => rfl⟩
  | @accepted ticket => exact absurd rfl (hm ticket)
  | @refused ticket => exact absurd rfl (hm ticket)
  | writerGone => exact ⟨rfl, rfl, rfl, rfl, Nat.le_refl _, fun _ => rfl, id, id⟩
  | readerGone =>
    obtain ⟨h₁, h₂, h₃, h₄, h₅, h₆, h₇, h₈⟩ := Keeps.dropOwner e
    exact ⟨h₁, h₂, h₃, h₄, h₅, h₆, h₇, h₈⟩
  | aborted => exact ⟨rfl, rfl, rfl, rfl, Nat.le_refl _, fun _ => rfl, id, fun _ => rfl⟩

/-- What has arrived is what was taken and what was not yet. -/
theorem seen_step (h : Step now e m e') : e'.seen = e.seen := by
  cases h with
  | reader h =>
    cases h with
    | data _ ha | pong _ ha | other _ ha => simp [seen, took, ha]
    | oversized _ ha | closed _ ha | refused _ ha | failed _ ha | finished _ ha =>
      rw [stopReader_eq]
      simp [seen, took, ha]
    | delivered => rfl
    | expired | unwanted | ended =>
      rw [stopReader_eq]
      rfl
  | writer h =>
    cases h with
    | take | ping | wrote => rfl
    | _ =>
      rw [beginFarewell_eq]
      rfl
  | farewell _ h => cases h <;> rfl
  | accepted | refused | writerGone | aborted => rfl
  | readerGone =>
    rw [dropOwner_eq]
    split_ifs <;> rfl

/-- No step makes a frame arrive. -/
theorem framesArrived_step (h : Step now e m e') : e'.framesArrived = e.framesArrived :=
  congrArg (List.filterMap Arrival.frame?) (seen_step h)

/-- Every step keeps account of what comes in. -/
theorem Incoming.step (h : Step now e m e') (hl : Incoming e) : Incoming e' := by
  cases h with
  | reader h => exact hl.readerStep h
  | writer h =>
    cases h with
    | take | ping | wrote => exact hl.of_eq rfl rfl rfl rfl rfl id
    | _ =>
      rw [beginFarewell_eq]
      exact hl.of_eq rfl rfl rfl rfl rfl fun _ => rfl
  | farewell _ h => cases h <;> exact hl.of_eq rfl rfl rfl rfl rfl id
  | accepted | refused | writerGone | aborted => exact hl.of_eq rfl rfl rfl rfl rfl id
  | readerGone =>
    have hdrop : Incoming e.dropOwner := by
      rw [dropOwner_eq]
      split_ifs
      · exact (hl.of_eq rfl rfl rfl rfl rfl id : Incoming { e with isOwned := false }).dropInbound
      · exact hl.of_eq rfl rfl rfl rfl rfl id
    exact hdrop.of_eq rfl rfl rfl rfl rfl id

/-- Every step keeps account of what goes out. -/
theorem Outgoing.step (h : Step now e m e') (hl : Outgoing e)
    (hs : e.shutdown ≠ .unasked → e.isDone = true) : Outgoing e' := by
  cases h with
  | reader h => exact hl.readerStep h
  | writer h => exact hl.writerStep h
  | farewell hw h => exact hl.farewellStep hw h (hl.done_of_leaving _ _ _ hw)
  | accepted hp hd hc hi => exact hl.accept hc rfl rfl rfl rfl rfl rfl
  | refused | writerGone => exact hl.of_eq rfl rfl rfl rfl rfl rfl rfl id
  | readerGone =>
    have hdrop : Outgoing e.dropOwner := by
      rw [dropOwner_eq]
      split_ifs <;> exact hl.of_eq rfl rfl rfl rfl rfl rfl rfl id
    exact hdrop.of_eq rfl rfl rfl rfl rfl rfl rfl id
  | @aborted _ hw hne hd log =>
    have hnoted : Outgoing { e with mishaps := e.mishaps ++ [Mishap.aborted], log := log } :=
      hl.of_eq rfl rfl rfl rfl rfl rfl rfl id
    have hstopped := hnoted.stopWriter hne (hs (by simp [hw]))
    exact hstopped.of_eq rfl rfl rfl rfl rfl rfl rfl id

/-- Every step leaves each send a ticket of its own. -/
theorem Ticketed.step (h : Step now e m e') (hl : Ticketed e) : Ticketed e' := by
  by_cases hm : ∃ ticket, m = .resume ticket
  · obtain ⟨ticket, rfl⟩ := hm
    cases h with
    | reader h => cases h
    | writer h => cases h
    | farewell _ h => cases h
    | accepted hp hd hc hi =>
      obtain ⟨hw, ht⟩ := mem_of_place? hp
      exact hl.accept hw rfl (by rw [ht]) rfl
    | refused => exact hl.leave rfl List.filter_sublist (Nat.le_refl _)
  · have hkeeps := Keeps.step h fun ticket hticket => hm ⟨ticket, hticket⟩
    exact hl.leave hkeeps.accepted (hkeeps.waiting ▸ List.Sublist.refl _)
      hkeeps.tickets

/-- A shutdown that goes on has begun. -/
theorem done_of_shutdown_step (h : Step now e m e')
    (hs : e.shutdown ≠ .unasked → e.isDone = true) : e'.shutdown ≠ .unasked → e'.isDone = true := by
  cases h with
  | reader h =>
    cases h with
    | data | pong | other | delivered => exact hs
    | _ =>
      rw [stopReader_eq]
      intro _
      rfl
  | writer h =>
    cases h with
    | take | ping | wrote => exact hs
    | _ =>
      rw [beginFarewell_eq]
      intro _
      rfl
  | farewell _ h => cases h <;> exact hs
  | accepted | refused => exact hs
  | writerGone hw => exact fun _ => hs (by simp [hw])
  | aborted hw => exact fun _ => hs (by simp [hw])
  | readerGone hw =>
    have hdone := hs (by simp [hw])
    intro _
    exact (Keeps.dropOwner e).done hdone

/-- Every step keeps the ledger. -/
theorem Ledger.step (h : Step now e m e') (hl : Ledger e) : Ledger e' :=
  ⟨hl.incoming.step h, hl.outgoing.step h hl.done_of_shutdown, hl.ticketed.step h,
    done_of_shutdown_step h hl.done_of_shutdown⟩

/-! ### What is done to an endpoint -/

/-- What is done to an endpoint without touching its queues keeps the ledger. -/
theorem Ledger.finish (hl : Ledger e) (now : Nat) (cause : Cause) :
    Ledger (e.finish now cause) := by
  rw [finish_eq]
  exact ⟨hl.incoming.of_eq rfl rfl rfl rfl rfl fun _ => rfl,
    hl.outgoing.of_eq rfl rfl rfl rfl rfl rfl rfl fun _ => rfl,
    hl.ticketed.leave rfl (List.Sublist.refl _) (Nat.le_refl _), fun _ => rfl⟩

/-- To close keeps the ledger. -/
theorem Ledger.close (hl : Ledger e) (now : Nat) (code : CloseCode) :
    Ledger (e.close now code) := by
  rw [close_eq]
  exact ⟨hl.incoming.of_eq rfl rfl rfl rfl rfl fun _ => rfl,
    hl.outgoing.of_eq rfl rfl rfl rfl rfl rfl rfl fun _ => rfl,
    hl.ticketed.leave rfl (List.Sublist.refl _) (Nat.le_refl _), fun _ => rfl⟩

/-- A shutdown keeps the ledger. -/
theorem Ledger.shutDown (hl : Ledger e) (now : Nat) : Ledger (e.shutDown now) := by
  obtain ⟨hin, hout, htickets, -⟩ := hl.close now CloseCode.normal
  refine ⟨hin.of_eq rfl rfl rfl rfl rfl id, hout.of_eq rfl rfl rfl rfl rfl rfl rfl id,
    htickets.leave rfl (List.Sublist.refl _) (Nat.le_refl _), fun _ => ?_⟩
  rw [Endpoint.shutDown, close_eq]
  rfl

/-- What arrives waits for the reader. -/
theorem Ledger.arrive (hl : Ledger e) (a : Arrival) : Ledger (e.arrive a) :=
  ⟨hl.incoming.of_eq rfl rfl rfl rfl rfl id, hl.outgoing.of_eq rfl rfl rfl rfl rfl rfl rfl id,
    hl.ticketed.leave rfl (List.Sublist.refl _) (Nat.le_refl _), hl.done_of_shutdown⟩

/-- The socket may take what is written in any way. -/
theorem Ledger.setFlow (hl : Ledger e) (flow : Flow) : Ledger (e.setFlow flow) :=
  ⟨hl.incoming.of_eq rfl rfl rfl rfl rfl id, hl.outgoing.of_eq rfl rfl rfl rfl rfl rfl rfl id,
    hl.ticketed.leave rfl (List.Sublist.refl _) (Nat.le_refl _), hl.done_of_shutdown⟩

/-- The inbound queue is dropped with what it holds. -/
theorem Ledger.dropInbound (hl : Ledger e) : Ledger e.dropInbound :=
  ⟨hl.incoming.dropInbound, hl.outgoing.of_eq rfl rfl rfl rfl rfl rfl rfl id,
    hl.ticketed.leave rfl (List.Sublist.refl _) (Nat.le_refl _), hl.done_of_shutdown⟩

/-- An inbound queue that nobody has let go of is taken. -/
theorem takeInbound_eq (h : e.consumer ≠ .gone) :
    e.takeInbound.2 = { e with consumer := .taken } := by
  unfold Endpoint.takeInbound
  split
  · rfl
  · next hc =>
    have htaken : e.consumer = .taken := by
      cases hconsumer : e.consumer with
      | untaken => exact absurd hconsumer hc
      | taken => rfl
      | gone => exact absurd hconsumer h
    rw [← htaken]

/-- The inbound queue is handed out. -/
theorem Ledger.takeInbound (hl : Ledger e) : Ledger e.takeInbound.2 := by
  unfold Endpoint.takeInbound
  split
  · next hc =>
    have hin : Incoming { e with consumer := .taken } :=
      ⟨hl.incoming.1, fun hr _ => hl.incoming.2 hr (by simp [hc]), hl.incoming.3⟩
    exact ⟨hin, hl.outgoing.of_eq rfl rfl rfl rfl rfl rfl rfl id,
      hl.ticketed.leave rfl (List.Sublist.refl _) (Nat.le_refl _), hl.done_of_shutdown⟩
  · exact hl

/-- A send that is given up no longer waits. -/
theorem Ledger.withdraw (hl : Ledger e) (ticket : Nat) : Ledger (e.withdraw ticket) :=
  ⟨hl.incoming.of_eq rfl rfl rfl rfl rfl id, hl.outgoing.of_eq rfl rfl rfl rfl rfl rfl rfl id,
    hl.ticketed.leave rfl List.filter_sublist (Nat.le_refl _), hl.done_of_shutdown⟩

/-- What is received comes from the front of the inbound queue. -/
theorem Ledger.receive (hl : Ledger e) : Ledger e.receive.2 := by
  unfold Endpoint.receive
  split
  · next f rest hi =>
    have hin : Incoming { e with inbound := rest, received := e.received ++ [f] } := by
      obtain ⟨hbegins, hwhole, hdone⟩ := hl.incoming
      rw [hi] at hbegins hwhole
      refine ⟨?_, fun hr hc => ?_, hdone⟩
      · rwa [List.append_assoc]
      · rw [List.append_assoc e.received]
        exact hwhole hr hc
    exact ⟨hin, hl.outgoing.of_eq rfl rfl rfl rfl rfl rfl rfl id,
      hl.ticketed.leave rfl (List.Sublist.refl _) (Nat.le_refl _), hl.done_of_shutdown⟩
  · exact hl

/-- What becomes of a send: it is refused, accepted, or it waits. -/
inductive Sent (e : Endpoint) (f : Bytes) : Sending × Endpoint → Prop
  | refused (hd : e.isDone = true ∨ e.isClosed = true) :
    Sent e f (.finished false, { e with
      tickets := e.tickets + 1
      refused := e.refused ++ [⟨e.tickets, f⟩] })
  | accepted (hd : e.isDone = false) (hc : e.isClosed = false) (hr : e.waiting.length < e.room) :
    Sent e f (.finished true, { e with
      tickets := e.tickets + 1
      outbound := e.outbound ++ [f]
      accepted := e.accepted ++ [⟨e.tickets, f⟩] })
  | waits (hd : e.isDone = false) (hc : e.isClosed = false) (hr : e.room ≤ e.waiting.length) :
    Sent e f (.waits e.tickets, { e with
      tickets := e.tickets + 1
      waiting := e.waiting ++ [⟨e.tickets, f⟩] })

/-- A send does one of these. -/
theorem sent_send (e : Endpoint) (f : Bytes) : Sent e f (e.send f) := by
  simp only [Endpoint.send, Bool.or_eq_true]
  split_ifs with hd hr
  · exact .refused hd
  · simp only [not_or, Bool.not_eq_true] at hd
    exact .accepted hd.1 hd.2 hr
  · simp only [not_or, Bool.not_eq_true] at hd
    exact .waits hd.1 hd.2 (Nat.le_of_not_lt hr)

/-- A send keeps the ledger. -/
theorem Ledger.send (hl : Ledger e) (f : Bytes) : Ledger (e.send f).2 := by
  rcases hsent : e.send f with ⟨sending, x⟩
  have hs := sent_send e f
  rw [hsent] at hs
  cases hs with
  | refused =>
    exact ⟨hl.incoming.of_eq rfl rfl rfl rfl rfl id,
      hl.outgoing.of_eq rfl rfl rfl rfl rfl rfl rfl id,
      hl.ticketed.leave rfl (List.Sublist.refl _) (Nat.le_succ _), hl.done_of_shutdown⟩
  | accepted hd hc hr =>
    refine ⟨hl.incoming.of_eq rfl rfl rfl rfl rfl id,
      hl.outgoing.accept (w := ⟨e.tickets, f⟩) hc rfl rfl rfl rfl rfl rfl,
      hl.ticketed.issue (w := ⟨e.tickets, f⟩) rfl ?_ rfl, hl.done_of_shutdown⟩
    simp
  | waits =>
    refine ⟨hl.incoming.of_eq rfl rfl rfl rfl rfl id,
      hl.outgoing.of_eq rfl rfl rfl rfl rfl rfl rfl id,
      hl.ticketed.issue (w := ⟨e.tickets, f⟩) rfl ?_ rfl, hl.done_of_shutdown⟩
    rw [← List.append_assoc]
    exact List.perm_append_singleton _ _

end

end Endpoint

end Switchboard
