import Switchboard.Proofs.Endpoint.Farewell
import Switchboard.Proofs.Endpoint.Run
/-!
# What an endpoint writes

An endpoint writes pings and messages that carry frames, then a close message, and then it hangs up.
Of what comes after the pings and frames something may be missing, but nothing else follows
(`Closes`). The frames are those whose sends have succeeded, in the order in which they did
(`outputs_run`), and a writer that stops without mishap has written all of them and has come to the
end of its farewell (`outputs_of_stopped`).
-/

namespace Switchboard

namespace Wire

/-- A message carries a frame: as a text when its bytes are one, and as binary otherwise. -/
inductive Message.Carries (frame : Bytes) : Message → Prop
  | text {s : String} (h : Utf8.encode s = frame) : Carries frame (.text s)
  | binary (h : ∀ s, Utf8.encode s ≠ frame) : Carries frame (.binary frame)

/-- A frame's message carries it. -/
theorem carries_ofFrame (f : Bytes) : Message.Carries f (.ofFrame f) := by
  unfold Message.ofFrame
  split
  · next s hs => exact .text (Utf8.encode_of_decode? hs)
  · next hs =>
    apply Message.Carries.binary
    rintro s rfl
    rw [Utf8.decode?_encode] at hs
    cases hs

/-- A frame's message is no ping. -/
theorem ofFrame_ne_emptyPing (f : Bytes) : Message.ofFrame f ≠ .emptyPing := by
  unfold Message.ofFrame
  split <;> rintro ⟨⟩

end Wire

namespace Endpoint

open Wire

/-! ### Definitions -/

/-- What was done to the socket, in order. -/
def outputs (e : Endpoint) : List Output := e.written.map (·.2)

/-- What a writer does in the end: it closes and hangs up. -/
def lastWords (code : CloseCode) : List Output := [.message (.closing code ""), .hangUp]

/-- An endpoint has written pings and messages of frames, and then these. -/
def Says (e : Endpoint) (closing : List Output) : Prop :=
  ∃ said : List Message, (∀ m ∈ said, IsPlain m) ∧ e.outputs = said.map .message ++ closing

/-- How much of the end was written, for each point of a writer's course. -/
def InClosing (e : Endpoint) (closing : List Output) : Writer → Prop
  | .idle => closing = []
  | .writing _ => closing = []
  | .leaving code .hangUp _ => closing = [] ∧ e.mishaps ≠ [] ∨
    closing = [.message (.closing code "")] ∧ e.slot = none
  | .leaving _ _ _ => closing = []
  | .stopped => ∃ code, closing.Sublist (lastWords code) ∧
    (e.mishaps = [] → e.settings.pingPeriod.toNanos ≠ 0 → closing = lastWords code)

/-- An endpoint writes its end last, and as much of it as its writer has come to. -/
def Closes (e : Endpoint) : Prop := ∃ closing, e.Says closing ∧ e.InClosing closing e.writer

section

variable {e e' : Endpoint} {now : Nat} {m : Move} {code : CloseCode} {stage : Farewell}
  {deadline : Nat} {closing : List Output}

/-! ### What is written -/

/-- What is written depends on this field alone. -/
theorem Says.of_eq (h : e.Says closing) (hw : e'.written = e.written) : e'.Says closing := by
  unfold Says outputs
  rw [hw]
  exact h

/-- What is written comes last. -/
theorem Says.record (h : e.Says closing) (now : Nat) (o : Output) :
    (e.record now o).Says (closing ++ [o]) := by
  obtain ⟨said, hplain, hsaid⟩ := h
  refine ⟨said, hplain, ?_⟩
  rw [← List.append_assoc, ← hsaid]
  simp [outputs, Endpoint.record]

/-- A ping or a frame is written before the end. -/
theorem Says.writeSlot (h : e.Says []) {m : Message} (hm : IsPlain m) (now : Nat) :
    (e.writeSlot now m).Says [] := by
  obtain ⟨said, hplain, hsaid⟩ := h
  refine ⟨said ++ [m], ?_, ?_⟩
  · intro x hx
    rcases List.mem_append.mp hx with hx | hx
    · exact hplain x hx
    · rw [List.mem_singleton.mp hx]
      exact hm
  · rw [List.append_nil] at hsaid ⊢
    rw [List.map_append, ← hsaid]
    simp [outputs, Endpoint.writeSlot, Endpoint.record]

/-- Before it hangs up a farewell has written nothing of the end. -/
theorem inClosing_leaving (hs : stage ≠ .hangUp) :
    e.InClosing closing (.leaving code stage deadline) ↔ closing = [] := by
  cases stage with
  | hangUp => exact absurd rfl hs
  | _ => exact Iff.rfl

/-- While the queue is open nothing of the end is written. -/
theorem InClosing.of_not_isClosed (h : e.InClosing closing e.writer) (hc : e.isClosed = false) :
    closing = [] := by
  cases hw : e.writer with
  | idle | writing => simpa [hw, InClosing] using h
  | leaving | stopped => simp [isClosed, hw] at hc

/-- At every point only the end was written. -/
theorem InClosing.sublist {w : Writer} (h : e.InClosing closing w) :
    ∃ code, closing.Sublist (lastWords code) := by
  have hnil (h : closing = []) : ∃ code, closing.Sublist (lastWords code) :=
    ⟨CloseCode.normal, h ▸ List.nil_sublist _⟩
  cases w with
  | idle | writing => exact hnil h
  | leaving code stage deadline =>
    by_cases hs : stage = .hangUp
    · subst hs
      rcases h with ⟨hempty, -⟩ | ⟨rfl, -⟩
      · exact hnil hempty
      · exact ⟨code, by simp [lastWords]⟩
    · exact hnil ((inClosing_leaving hs).mp h)
  | stopped =>
    obtain ⟨code, hsub, -⟩ := h
    exact ⟨code, hsub⟩

/-! ### Every step -/

/-- The fields that say how much of the end was written. -/
theorem Closes.of_eq (h : Closes e) (hw : e'.writer = e.writer) (hs : e'.slot = e.slot)
    (hwritten : e'.written = e.written) (hm : e'.mishaps = e.mishaps)
    (hsettings : e'.settings = e.settings) : Closes e' := by
  obtain ⟨closing, hsaid, hclosing⟩ := h
  refine ⟨closing, hsaid.of_eq hwritten, ?_⟩
  rw [hw]
  unfold InClosing at hclosing ⊢
  rwa [hs, hm, hsettings]

/-- A writer with which something went wrong stops. -/
theorem Closes.stopWriter (h : Closes e) (hw : e'.writer = .stopped)
    (hwritten : e'.written = e.written) (hm : e'.mishaps ≠ []) : Closes e' := by
  obtain ⟨closing, hsaid, hclosing⟩ := h
  obtain ⟨code, hsub⟩ := hclosing.sublist
  refine ⟨closing, hsaid.of_eq hwritten, ?_⟩
  rw [hw]
  exact ⟨code, hsub, fun hnone => absurd hnone hm⟩

/-- A writer that is at work has written nothing of the end. -/
theorem Closes.said (h : Closes e) (hc : e.isClosed = false) : e.Says [] := by
  obtain ⟨closing, hsaid, hclosing⟩ := h
  rwa [hclosing.of_not_isClosed hc] at hsaid

/-- A writer on its way out has written nothing of the end before it hangs up. -/
theorem Closes.said_leaving (h : Closes e) (hw : e.writer = .leaving code stage deadline)
    (hs : stage ≠ .hangUp) : e.Says [] := by
  obtain ⟨closing, hsaid, hclosing⟩ := h
  rw [hw, inClosing_leaving hs] at hclosing
  rwa [hclosing] at hsaid

/-- A farewell that goes on has written nothing of the end. -/
theorem Closes.leaving (h : e'.Says []) (hw : e'.writer = .leaving code stage deadline)
    (hs : stage ≠ .hangUp) : Closes e' := by
  refine ⟨[], h, ?_⟩
  rw [hw, inClosing_leaving hs]

/-- The end is not written while the lifetime lasts. -/
theorem Closes.writerStep (h : WriterStep now e m e') (hc : Courteous e) (hcl : Closes e) :
    Closes e' := by
  cases h with
  | take hw | ping hw => exact ⟨[], (hcl.said (by rw [isClosed, hw])).of_eq rfl, rfl⟩
  | @wrote deadline m hw hs hf =>
    obtain ⟨-, -, -, hplain⟩ := hc.lasting_of (by rw [isClosed, hw])
    have hsaid := (hcl.said (by rw [isClosed, hw])).writeSlot (hplain m hs) now
    exact ⟨[], hsaid.of_eq rfl, rfl⟩
  | ended hw | abandoned hw | failed hw | late hw =>
    have hsaid := hcl.said (by rw [isClosed, hw])
    rw [beginFarewell_eq]
    exact .leaving (hsaid.of_eq rfl) rfl (by simp)

/-- The end is written last. -/
theorem Closes.farewellStep (hw : e.writer = .leaving code stage deadline)
    (h : FarewellStep now e code deadline stage m e') (hc : Courteous e) (hcl : Closes e) :
    Closes e' := by
  have hs := hc.atStage hw
  cases h with
  | fetch | drained | load | loadClose =>
    have hsaid := hcl.said_leaving hw (by simp)
    exact .leaving (hsaid.of_eq rfl) rfl (by simp)
  | @clear stage m hslot hf ht =>
    rcases ht with ⟨f, rfl⟩ | rfl | rfl
    · have hsaid := (hcl.said_leaving hw (by simp)).writeSlot (hs.2 m hslot) now
      exact .leaving hsaid hw (by simp)
    · have hsaid := (hcl.said_leaving hw (by simp)).writeSlot (hs.2.2 m hslot) now
      exact .leaving hsaid hw (by simp)
    · obtain ⟨closing, hsaid, hclosing⟩ := hcl
      rw [hw] at hclosing
      rcases hclosing with ⟨rfl, hmishaps⟩ | ⟨-, hempty⟩
      · obtain ⟨-, ⟨-, hempty⟩ | ⟨-, -, hheld⟩⟩ := hs
        · simp [hempty] at hslot
        · rcases hheld m hslot with hplain | rfl
          · refine ⟨[], hsaid.writeSlot hplain now, ?_⟩
            rw [show (e.writeSlot now m).writer = _ from hw]
            exact Or.inl ⟨rfl, hmishaps⟩
          · refine ⟨_, (hsaid.of_eq rfl : Says { e with slot := none } []).record now _, ?_⟩
            rw [show (e.writeSlot now _).writer = _ from hw]
            exact Or.inr ⟨rfl, rfl⟩
      · simp [hempty] at hslot
  | @flushed m hslot hf =>
    obtain ⟨-, m', hm', hplain⟩ := hs
    obtain rfl : m = m' := Option.some.inj (hslot.symm.trans hm')
    have hsaid := (hcl.said_leaving hw (by simp)).writeSlot hplain now
    exact .leaving (hsaid.of_eq rfl) rfl (by simp)
  | @flushedClose m hslot hf =>
    obtain ⟨-, -, hclose⟩ := hs
    obtain rfl : m = .closing code "" := Option.some.inj (hslot.symm.trans hclose)
    have hsaid := hcl.said_leaving hw (by simp)
    refine ⟨_, ((hsaid.of_eq rfl : Says { e with slot := none } []).record now _).of_eq rfl, ?_⟩
    exact Or.inr ⟨rfl, rfl⟩
  | hungUp hslot hf =>
    obtain ⟨closing, hsaid, hclosing⟩ := hcl
    rw [hw] at hclosing
    refine ⟨_, (hsaid.record now .hangUp).of_eq rfl, code, ?_⟩
    rcases hclosing with ⟨rfl, hmishaps⟩ | ⟨rfl, -⟩
    · exact ⟨by simp [lastWords], fun hnone => absurd hnone hmishaps⟩
    · exact ⟨List.Sublist.refl _, fun _ _ => rfl⟩
  | failed | late => exact hcl.stopWriter rfl rfl (by simp [Endpoint.stopWriter])
  | failedClose hslot hf ht =>
    have hsaid : e.Says [] := by
      rcases ht with rfl | rfl <;> exact hcl.said_leaving hw (by simp)
    exact ⟨[], hsaid.of_eq rfl, Or.inl ⟨rfl, by simp⟩⟩

/-- Every act keeps the end last. -/
theorem Closes.act (h : Act now e e') (hc : Courteous e) (hcl : Closes e) : Closes e' := by
  cases writerAct_of_act h with
  | work h => exact hcl.writerStep h hc
  | farewell hw h => exact hcl.farewellStep hw h hc
  | aborted => exact hcl.stopWriter rfl rfl (by simp [Endpoint.stopWriter])
  | rests h => exact hcl.of_eq h.writer h.slot h.written h.mishaps h.settings

/-- At the beginning nothing was written. -/
theorem Closes.start (settings : Settings) (now : Nat) : Closes (start settings now) := by
  refine ⟨[], ⟨[], by simp, rfl⟩, ?_⟩
  rcases writer_start settings now with ⟨hw, hnone⟩ | ⟨hw, -⟩
  · rw [hw]
    exact ⟨CloseCode.normal, List.nil_sublist _, fun _ hp => absurd hnone hp⟩
  · rw [hw]
    rfl

/-- Courtesy and the place of the end are stable. -/
theorem isStable_closes : IsStable fun _ e => (Ledger e ∧ Courteous e) ∧ Closes e where
  act h hp := ⟨isStable_courteous.act h hp.1, hp.2.act h hp.1.2⟩
  arrive a hp := ⟨⟨hp.1.1.arrive a, hp.1.2.of_eq rfl rfl rfl rfl rfl rfl fun _ => rfl⟩,
    hp.2.of_eq rfl rfl rfl rfl rfl⟩
  setFlow flow hp := ⟨⟨hp.1.1.setFlow flow, hp.1.2.of_eq rfl rfl rfl rfl rfl rfl fun _ => rfl⟩,
    hp.2.of_eq rfl rfl rfl rfl rfl⟩
  later _ := id

/-! ### Frames -/

/-- Pings and frames carry the frames, in order. -/
theorem carries_frames {said : List Message} (h : ∀ m ∈ said, IsPlain m) :
    List.Forall₂ Message.Carries (said.filterMap Message.frame?) (said.filter (· ≠ .emptyPing)) := by
  induction said with
  | nil => exact .nil
  | cons m said ih =>
    have hrest := ih fun x hx => h x (List.mem_cons_of_mem _ hx)
    rcases h m List.mem_cons_self with rfl | ⟨f, rfl⟩
    · rw [List.filterMap_cons_none rfl, List.filter_cons_of_neg (by simp)]
      exact hrest
    · rw [List.filterMap_cons_some (frame?_ofFrame f),
        List.filter_cons_of_pos (by simpa using ofFrame_ne_emptyPing f)]
      exact .cons (carries_ofFrame f) hrest

/-- No frame is written in the end. -/
theorem framesWritten_eq {said : List Message} (h : e.outputs = said.map .message ++ closing)
    (hsub : closing.Sublist (lastWords code)) :
    e.framesWritten = said.filterMap Message.frame? := by
  have hnone : closing.filterMap Output.frame? = [] := by
    apply List.sublist_nil.mp
    exact hsub.filterMap Output.frame?
  have hframes : e.framesWritten = e.outputs.filterMap Output.frame? := by
    rw [outputs, List.filterMap_map]
    rfl
  rw [hframes, h, List.filterMap_append, hnone, List.append_nil, List.filterMap_map]
  rfl

end

/-! ### Main results -/

section

variable {settings : Settings} {now : Nat} {events : List Event} {s : Station}

/-- Whoever holds the sending side, the ledger is the same. -/
theorem Ledger.handles {e : Endpoint} (hl : Ledger e) (handles : Nat) :
    Ledger { e with handles := handles } :=
  ⟨hl.incoming.of_eq rfl rfl rfl rfl rfl id, hl.outgoing.of_eq rfl rfl rfl rfl rfl rfl rfl id,
    hl.ticketed.leave rfl (List.Sublist.refl _) (Nat.le_refl _), hl.done_of_shutdown⟩

/-- Whoever holds the sending side, the ledger and the course of the writer are the same. -/
theorem courteous_handles {e : Endpoint} (h : Ledger e ∧ Courteous e) (handles : Nat) :
    Ledger { e with handles := handles } ∧ Courteous { e with handles := handles } :=
  ⟨h.1.handles handles, h.2.of_eq rfl rfl rfl rfl rfl rfl fun _ => rfl⟩

/-- What holds of a writer holds in every run. -/
theorem closes_run (hrun : (Station.opening settings now).run events = some s) :
    (Ledger s.endpoint ∧ Courteous s.endpoint) ∧ Closes s.endpoint := by
  refine isStable_closes.run ?_ hrun ?_
  · rintro - e handles ⟨hc, hcl⟩
    exact ⟨courteous_handles hc handles, hcl.of_eq rfl rfl rfl rfl rfl⟩
  · exact ⟨⟨.start settings now, .start settings now⟩, .start settings now⟩

/-- In every run, an endpoint writes pings and messages that carry the first of the frames whose
sends succeeded, each in one message and in the order in which they did; then it closes and hangs
up, or does less than that, and nothing else. What a send that failed would have sent is not among
the frames. -/
theorem outputs_of_run (hrun : (Station.opening settings now).run events = some s) :
    ∃ (sent : List Waiting) (said : List Message) (closing : List Output) (code : CloseCode),
      sent <+: succeeded ((Station.opening settings now).returned events) ∧
      List.Forall₂ (fun w => Message.Carries w.frame) sent (said.filter (· ≠ .emptyPing)) ∧
      s.endpoint.outputs = said.map .message ++ closing ∧
      closing.Sublist [.message (.closing code ""), .hangUp] ∧
      (((Station.opening settings now).returned events).map (·.1.ticket)).Nodup ∧
      ∀ w ∈ failed ((Station.opening settings now).returned events),
        w.ticket ∉ sent.map (·.ticket) := by
  obtain ⟨⟨hledger, -⟩, closing, ⟨said, hplain, houtputs⟩, hclosing⟩ := closes_run hrun
  obtain ⟨code, hsub⟩ := hclosing.sublist
  obtain ⟨haccepted, hrefused, htallied⟩ := Station.returned_opening hrun
  rw [← haccepted, ← hrefused]
  have hframes := framesWritten_eq houtputs hsub
  have hsent : (s.endpoint.accepted.take s.endpoint.framesWritten.length).map (·.frame)
      = s.endpoint.framesWritten := by
    rw [List.map_take, hledger.outgoing.accepted_eq]
    simp
  refine ⟨s.endpoint.accepted.take s.endpoint.framesWritten.length, said, closing, code,
    List.take_prefix _ _, ?_, houtputs, hsub, Station.nodup_returned hrun, ?_⟩
  · have hcarries := carries_frames hplain
    rw [← hframes, ← hsent] at hcarries
    exact List.forall₂_map_left_iff.mp hcarries
  · intro w hw hmem
    exact htallied.ticket_notMem hw ((List.take_sublist _ _).map _ |>.subset hmem)

/-- A queue that holds one frame. -/
def narrow : Settings := { Settings.standard with outboundCapacity := 1 }

/-- A frame is queued, one waits for room and gets it, and one waits when the endpoint is closed. -/
def crowded : List Event :=
  [.send [0x61], .send [0xFF], .move .take, .move (.resume 1), .send [0x63],
    .close CloseCode.normal, .move (.resume 2), .move .write, .move .stopWriting,
    .move .write, .move .write, .move .write, .move .write, .move .write, .move .write,
    .move .write]

/-- Two frames are written, and the third is not. -/
theorem outputs_of_run_crowded :
    ∃ s, (Station.opening narrow 0).run crowded = some s ∧
      s.endpoint.outputs = [.message (.text "a"), .message (.binary [0xFF]),
        .message (.closing CloseCode.normal ""), .hangUp] ∧
      ∃ (sent : List Waiting) (said : List Message) (closing : List Output) (code : CloseCode),
        sent <+: [⟨0, [0x61]⟩, ⟨1, [0xFF]⟩] ∧
        List.Forall₂ (fun w => Message.Carries w.frame) sent (said.filter (· ≠ .emptyPing)) ∧
        s.endpoint.outputs = said.map .message ++ closing ∧
        closing.Sublist [.message (.closing code ""), .hangUp] ∧
        2 ∉ sent.map (·.ticket) := by
  have hrun : ∃ s ∈ (Station.opening narrow 0).run crowded, s.endpoint.outputs =
      [.message (.text "a"), .message (.binary [0xFF]),
        .message (.closing CloseCode.normal ""), .hangUp] := by
    decide +kernel
  have hreturned : (Station.opening narrow 0).returned crowded
      = [(⟨0, [0x61]⟩, true), (⟨1, [0xFF]⟩, true), (⟨2, [0x63]⟩, false)] := by
    decide +kernel
  obtain ⟨s, hs, houtputs⟩ := hrun
  obtain ⟨sent, said, closing, code, hsent, hcarried, hsaid, hclosing, -, hfailed⟩ :=
    outputs_of_run hs
  rw [hreturned] at hsent hfailed
  exact ⟨s, hs, houtputs, sent, said, closing, code, hsent, hcarried, hsaid, hclosing,
    hfailed ⟨2, [0x63]⟩ (by simp [failed])⟩

/-- When the writer of an endpoint has stopped and nothing went wrong with it, whatever ended the
lifetime and whatever sends waited then, every frame whose send succeeded was written, in order;
then the endpoint closed once, and hung up. A writer that could begin has a time between pings. -/
theorem outputs_of_stopped (hp : settings.pingPeriod.toNanos ≠ 0)
    (hrun : (Station.opening settings now).run events = some s)
    (hw : s.endpoint.writer = .stopped) (hm : s.endpoint.mishaps = []) :
    ∃ (said : List Message) (code : CloseCode),
      List.Forall₂ (fun w => Message.Carries w.frame)
        (succeeded ((Station.opening settings now).returned events))
        (said.filter (· ≠ .emptyPing)) ∧
      s.endpoint.outputs = said.map .message ++ [.message (.closing code ""), .hangUp] := by
  obtain ⟨⟨hledger, hcourteous⟩, closing, ⟨said, hplain, houtputs⟩, hclosing⟩ := closes_run hrun
  obtain ⟨haccepted, -, -⟩ := Station.returned_opening hrun
  have hp' : s.endpoint.settings.pingPeriod.toNanos ≠ 0 := by
    rwa [Station.settings_run hrun]
  rw [hw] at hclosing
  obtain ⟨code, hsub, hwhole⟩ := hclosing
  obtain rfl := hwhole hm hp'
  obtain ⟨hframes, -⟩ := hcourteous.finished_of_stopped hledger.outgoing hw hm hp'
  refine ⟨said, code, ?_, houtputs⟩
  have hcarries := carries_frames hplain
  rw [← framesWritten_eq houtputs hsub, ← hframes] at hcarries
  rw [← haccepted]
  exact List.forall₂_map_left_iff.mp hcarries

/-- Both frames that were accepted are written before the end. -/
theorem outputs_of_stopped_crowded :
    ∃ s, (Station.opening narrow 0).run crowded = some s ∧ s.endpoint.writer = .stopped ∧
      s.endpoint.mishaps = [] ∧
      ∃ (said : List Message) (code : CloseCode),
        List.Forall₂ (fun w => Message.Carries w.frame)
          [(⟨0, [0x61]⟩ : Waiting), ⟨1, [0xFF]⟩] (said.filter (· ≠ .emptyPing)) ∧
        s.endpoint.outputs = said.map .message ++ [.message (.closing code ""), .hangUp] := by
  have hrun : ∃ s ∈ (Station.opening narrow 0).run crowded,
      s.endpoint.writer = .stopped ∧ s.endpoint.mishaps = [] := by
    decide +kernel
  have hreturned : succeeded ((Station.opening narrow 0).returned crowded)
      = [⟨0, [0x61]⟩, ⟨1, [0xFF]⟩] := by
    decide +kernel
  obtain ⟨s, hs, hw, hm⟩ := hrun
  obtain ⟨said, code, hcarried, houtputs⟩ := outputs_of_stopped (by decide) hs hw hm
  rw [hreturned] at hcarried
  exact ⟨s, hs, hw, hm, said, code, hcarried, houtputs⟩

end

end Endpoint

end Switchboard
