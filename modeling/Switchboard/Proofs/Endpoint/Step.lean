import Switchboard.Endpoint.Step
import Mathlib
/-!
# The steps of an endpoint

What each move of an endpoint does, as a relation: `ReaderStep` and `WriterStep` have a constructor
for each way in which the reader or the writer can go on, with the guard under which it is possible
and the endpoint that comes out, and `Step` adds the sends that waited and the shutdown. A property
of all endpoints is then proved with one case for each constructor (`step_of_perform`), without
opening `perform` again.

Lines of the log are left open in the relation: no other part of an endpoint depends on them.
-/

namespace Switchboard.Endpoint

open Wire

/-! ### Updates -/

/-- The end of a lifetime that ends now unless it has ended. -/
def endedBy (e : Endpoint) (now : Nat) (cause : Cause) : Option Ending :=
  some (e.ending.getD ⟨now, cause⟩)

/-- The frame that the reader holds. -/
def Reader.held : Reader → List Bytes
  | .offering frame => [frame]
  | _ => []

/-- To finish sets the end. -/
theorem finish_eq (e : Endpoint) (now : Nat) (cause : Cause) :
    e.finish now cause = { e with ending := e.endedBy now cause } := by
  cases e
  rw [finish, endedBy]
  split
  · next h => simp_all
  · next h => simp_all

/-- To request sets the close code. -/
theorem request_eq (e : Endpoint) (code : CloseCode) :
    e.request code = { e with requested := some (e.requested.getD code) } := by
  cases e
  unfold request
  split
  · next h => simp_all
  · next h => simp_all

/-- To stop the reader ends the lifetime, and what the reader holds is lost. -/
theorem stopReader_eq (e : Endpoint) (now : Nat) (cause : Cause) :
    e.stopReader now cause = { e with
      reader := .stopped
      unreceived := e.unreceived ++ e.reader.held
      ending := e.endedBy now cause } := by
  cases h : e.reader <;> simp [stopReader, finish_eq, h, Reader.held, endedBy]

/-- To close sets the close code and the end. -/
theorem close_eq (e : Endpoint) (now : Nat) (code : CloseCode) :
    e.close now code = { e with
      requested := some (e.requested.getD code)
      ending := e.endedBy now (.closed code) } := by
  simp [close, finish_eq, request_eq, endedBy]

/-- A farewell begins with the end of the lifetime. -/
theorem beginFarewell_eq (e : Endpoint) (now : Nat) (cause : Cause) :
    e.beginFarewell now cause = { e with
      writer := .leaving (e.requested.getD CloseCode.normal) .fetch (now + e.writeWait)
      ending := e.endedBy now cause } := by
  simp [beginFarewell, finish_eq, endedBy]

/-- In a farewell the next stage is set. -/
theorem atStage_eq {e : Endpoint} {code : CloseCode} {old stage : Farewell} {deadline : Nat}
    (h : e.writer = .leaving code old deadline) :
    e.atStage stage = { e with writer := .leaving code stage deadline } := by
  rw [atStage, h]

/-- The line of a close message is all that is noted. -/
theorem noteClose_eq (e : Endpoint) (code : Option CloseCode) :
    ∃ log, e.noteClose code = { e with log := log } := by
  unfold noteClose
  split_ifs <;> exact ⟨_, rfl⟩

/-- Both queues have room when each may hold a frame. -/
theorem hasRoom_iff {s : Settings} :
    hasRoom s = true ↔ 0 < s.outboundCapacity ∧ 0 < s.inboundCapacity := by
  rw [hasRoom, Bool.and_eq_true, decide_eq_true_eq, decide_eq_true_eq]

/-! ### Relations -/

/-- The endpoint whose reader has taken what arrived first. -/
def took (e : Endpoint) (a : Arrival) (rest : List Arrival) : Endpoint :=
  { e with arrivals := rest, taken := e.taken ++ [a] }

/-- What the reader does. -/
inductive ReaderStep (now : Nat) (e : Endpoint) : Move → Endpoint → Prop
  /-- A data message is taken and held. -/
  | data {m : Message} {frame : Bytes} {rest : List Arrival} (hr : e.reader = .listening)
    (ha : e.arrivals = .message m :: rest) (hm : m.content = .data frame)
    (hs : frame.length ≤ e.settings.maxMessageSize) :
    ReaderStep now e .read { e.took (.message m) rest with reader := .offering frame }
  /-- A data message is too large. -/
  | oversized {m : Message} {frame : Bytes} {rest : List Arrival} (hr : e.reader = .listening)
    (ha : e.arrivals = .message m :: rest) (hm : m.content = .data frame)
    (hs : e.settings.maxMessageSize < frame.length) (log : List LogEntry) :
    ReaderStep now e .read
      ({ e.took (.message m) rest with
        unreceived := e.unreceived ++ [frame]
        requested := some (e.requested.getD CloseCode.tooBig)
        log := log }.stopReader now .tooLarge)
  | pong {m : Message} {rest : List Arrival} (hr : e.reader = .listening)
    (ha : e.arrivals = .message m :: rest) (hm : m.content = .pong) :
    ReaderStep now e .read { e.took (.message m) rest with heard := now }
  | other {m : Message} {rest : List Arrival} (hr : e.reader = .listening)
    (ha : e.arrivals = .message m :: rest) (hm : m.content = .ping ∨ m.content = .other) :
    ReaderStep now e .read (e.took (.message m) rest)
  | closed {m : Message} {code : Option CloseCode} {rest : List Arrival}
    (hr : e.reader = .listening) (ha : e.arrivals = .message m :: rest)
    (hm : m.content = .close code) (log : List LogEntry) :
    ReaderStep now e .read ({ e.took (.message m) rest with log := log }.stopReader now
      .remoteClosed)
  /-- The socket refuses to read something for its size. -/
  | refused {err : SocketError} {rest : List Arrival} (hr : e.reader = .listening)
    (ha : e.arrivals = .failure err :: rest) (he : err.isTooLarge = true) (log : List LogEntry) :
    ReaderStep now e .read
      ({ e.took (.failure err) rest with
        requested := some (e.requested.getD CloseCode.tooBig)
        log := log }.stopReader now .tooLarge)
  | failed {err : SocketError} {rest : List Arrival} (hr : e.reader = .listening)
    (ha : e.arrivals = .failure err :: rest) (he : err.isTooLarge = false) (log : List LogEntry) :
    ReaderStep now e .read ({ e.took (.failure err) rest with log := log }.stopReader now
      .readFailed)
  | finished {rest : List Arrival} (hr : e.reader = .listening) (ha : e.arrivals = .finish :: rest)
    (log : List LogEntry) :
    ReaderStep now e .read ({ e.took .finish rest with log := log }.stopReader now .remoteFinished)
  | expired (hr : e.reader = .listening) (ha : e.arrivals = []) (hd : e.readDeadline ≤ now)
    (log : List LogEntry) :
    ReaderStep now e .expireRead ({ e with log := log }.stopReader now .silent)
  | unwanted {frame : Bytes} (hr : e.reader = .offering frame) (hc : e.consumer = .gone) :
    ReaderStep now e .deliver (e.stopReader now .unwanted)
  | delivered {frame : Bytes} (hr : e.reader = .offering frame) (hc : e.consumer ≠ .gone)
    (hi : e.inbound.length < e.settings.inboundCapacity) :
    ReaderStep now e .deliver { e with reader := .listening, inbound := e.inbound ++ [frame] }
  | ended {ending : Ending} (hr : e.reader ≠ .stopped) (he : e.ending = some ending) :
    ReaderStep now e .stopReading (e.stopReader now ending.cause)

/-- What the writer does while the lifetime lasts, up to the beginning of its farewell. -/
inductive WriterStep (now : Nat) (e : Endpoint) : Move → Endpoint → Prop
  | take {f : Bytes} {rest : List Bytes} (hw : e.writer = .idle) (ho : e.outbound = f :: rest) :
    WriterStep now e .take { e with
      outbound := rest
      slot := some (.ofFrame f)
      writer := .writing (now + e.writeWait) }
  | ping (hw : e.writer = .idle) (hd : e.nextPing ≤ now) :
    WriterStep now e .ping { e with
      pings := e.pings + 1
      slot := some .emptyPing
      writer := .writing (now + e.writeWait) }
  | ended {ending : Ending} (hw : e.writer = .idle) (he : e.ending = some ending) :
    WriterStep now e .stopWriting (e.beginFarewell now ending.cause)
  | abandoned (hw : e.writer = .idle) (he : e.ending = none) (ho : e.outbound = [])
    (hs : e.hasSender = false) : WriterStep now e .stopWriting (e.beginFarewell now .abandoned)
  | wrote {deadline : Nat} {m : Message} (hw : e.writer = .writing deadline)
    (hs : e.slot = some m) (hf : e.flow = .open) :
    WriterStep now e .write { e.writeSlot now m with writer := .idle }
  | failed {deadline : Nat} {m : Message} (hw : e.writer = .writing deadline)
    (hs : e.slot = some m) (hf : e.flow = .failing) (log : List LogEntry) :
    WriterStep now e .write
      ({ e with mishaps := e.mishaps ++ [Mishap.writeFailed], log := log }.beginFarewell now
        .writeFailed)
  | late {deadline : Nat} (hw : e.writer = .writing deadline) (hg : e.goOn now = none)
    (hd : deadline ≤ now) (log : List LogEntry) :
    WriterStep now e .expireWrite
      ({ e with mishaps := e.mishaps ++ [Mishap.writeLate], log := log }.beginFarewell now
        .writeLate)

/-- What the writer does in its farewell. -/
inductive FarewellStep (now : Nat) (e : Endpoint) (code : CloseCode) (deadline : Nat) :
    Farewell → Move → Endpoint → Prop
  | fetch {f : Bytes} {rest : List Bytes} (ho : e.outbound = f :: rest) :
    FarewellStep now e code deadline .fetch .write
      { e with outbound := rest, writer := .leaving code (.wait f) deadline }
  | drained (ho : e.outbound = []) :
    FarewellStep now e code deadline .fetch .write
      { e with writer := .leaving code .waitClose deadline }
  | load {f : Bytes} (hs : e.slot = none) :
    FarewellStep now e code deadline (.wait f) .write
      { e with slot := some (.ofFrame f), writer := .leaving code .flush deadline }
  | loadClose (hs : e.slot = none) :
    FarewellStep now e code deadline .waitClose .write
      { e with slot := some (.closing code ""), writer := .leaving code .flushClose deadline }
  /-- The slot is emptied for what comes next. -/
  | clear {stage : Farewell} {m : Message} (hs : e.slot = some m) (hf : e.flow = .open)
    (ht : (∃ f, stage = .wait f) ∨ stage = .waitClose ∨ stage = .hangUp) :
    FarewellStep now e code deadline stage .write (e.writeSlot now m)
  | flushed {m : Message} (hs : e.slot = some m) (hf : e.flow = .open) :
    FarewellStep now e code deadline .flush .write
      { e.writeSlot now m with writer := .leaving code .fetch deadline }
  | flushedClose {m : Message} (hs : e.slot = some m) (hf : e.flow = .open) :
    FarewellStep now e code deadline .flushClose .write
      { e.writeSlot now m with writer := .leaving code .hangUp deadline }
  | hungUp (hs : e.slot = none) (hf : e.flow = .open) :
    FarewellStep now e code deadline .hangUp .write (e.record now .hangUp).stopWriter
  /-- A frame, or the end, cannot be written. -/
  | failed {stage : Farewell} (hf : e.flow = .failing)
    (ht : e.slot ≠ none ∧ ((∃ f, stage = .wait f) ∨ stage = .flush) ∨ stage = .hangUp) :
    FarewellStep now e code deadline stage .write
      { e with mishaps := e.mishaps ++ [Mishap.writeFailed] }.stopWriter
  /-- The close message cannot be written, or what has to be written before it. -/
  | failedClose {stage : Farewell} (hs : e.slot ≠ none) (hf : e.flow = .failing)
    (ht : stage = .waitClose ∨ stage = .flushClose) :
    FarewellStep now e code deadline stage .write
      { e with
        mishaps := e.mishaps ++ [Mishap.writeFailed]
        writer := .leaving code .hangUp deadline }
  | late {stage : Farewell} (hg : e.goOn now = none) (hd : deadline ≤ now) (log : List LogEntry) :
    FarewellStep now e code deadline stage .expireWrite
      { e with mishaps := e.mishaps ++ [Mishap.farewellLate], log := log }.stopWriter

/-- What an endpoint does. -/
inductive Step (now : Nat) (e : Endpoint) : Move → Endpoint → Prop
  | reader {m : Move} {e' : Endpoint} : ReaderStep now e m e' → Step now e m e'
  | writer {m : Move} {e' : Endpoint} : WriterStep now e m e' → Step now e m e'
  | farewell {m : Move} {e' : Endpoint} {code : CloseCode} {stage : Farewell} {deadline : Nat}
    (hw : e.writer = .leaving code stage deadline) :
    FarewellStep now e code deadline stage m e' → Step now e m e'
  | accepted {ticket i : Nat} {w : Waiting} (hp : e.place? ticket = some (i, w))
    (hd : e.isDone = false) (hc : e.isClosed = false) (hi : i < e.room) :
    Step now e (.resume ticket) { e with
      waiting := e.waiting.filter (·.ticket ≠ ticket)
      outbound := e.outbound ++ [w.frame]
      accepted := e.accepted ++ [w] }
  | refused {ticket i : Nat} {w : Waiting} (hp : e.place? ticket = some (i, w))
    (hd : e.isDone = true ∨ e.isClosed = true) :
    Step now e (.resume ticket) { e with
      waiting := e.waiting.filter (·.ticket ≠ ticket)
      refused := e.refused ++ [w] }
  /-- A shutdown has seen the writer stop. -/
  | writerGone {deadline : Nat} (hs : e.shutdown = .waiting deadline) (hw : e.writer = .stopped) :
    Step now e .join { e with shutdown := .joining }
  /-- A shutdown has seen the reader stop too. -/
  | readerGone (hs : e.shutdown = .joining) (hr : e.reader = .stopped) :
    Step now e .join { e.dropOwner with shutdown := .finished }
  | aborted {deadline : Nat} (hs : e.shutdown = .waiting deadline) (hw : e.writer ≠ .stopped)
    (hd : deadline ≤ now) (log : List LogEntry) :
    Step now e .abort
      { ({ e with mishaps := e.mishaps ++ [Mishap.aborted], log := log }.stopWriter) with
        shutdown := .joining }

/-! ### Inversion -/

section

variable {e e' : Endpoint} {now : Nat}

/-- What the reader makes of what arrived. -/
theorem readerStep_of_readArrival {a : Arrival} {rest : List Arrival}
    (hr : e.reader = .listening) (ha : e.arrivals = a :: rest) :
    ReaderStep now e .read ((e.took a rest).readArrival now a) := by
  cases a with
  | message m =>
    simp only [readArrival, readMessage]
    split
    · next frame hm =>
      split_ifs with hs
      · rw [stopTooLarge, request_eq]
        exact .oversized hr ha hm hs _
      · exact .data hr ha hm (Nat.le_of_not_lt hs)
    · next hm => exact .pong hr ha hm
    · next code hm =>
      obtain ⟨log, hlog⟩ := noteClose_eq (e.took (.message m) rest) code
      rw [hlog]
      exact .closed hr ha hm log
    · next hm => exact .other hr ha (Or.inl hm)
    · next hm => exact .other hr ha (Or.inr hm)
  | failure err =>
    simp only [readArrival]
    split_ifs with he
    · rw [stopTooLarge, request_eq]
      exact .refused hr ha he _
    · exact .failed hr ha (Bool.eq_false_iff.mpr he) _
  | finish => exact .finished hr ha _

/-- What the writer makes of its farewell. -/
theorem farewellStep_of_farewellOn {code : CloseCode} {stage : Farewell} {deadline : Nat}
    (hw : e.writer = .leaving code stage deadline) (h : e.farewellOn now code stage = some e') :
    FarewellStep now e code deadline stage .write e' := by
  have hstage (x : Endpoint) (hx : x.writer = e.writer) (next : Farewell) :
      x.atStage next = { x with writer := .leaving code next deadline } :=
    atStage_eq (hx.trans hw)
  cases stage with
  | fetch =>
    cases ho : e.outbound with
    | nil =>
      obtain rfl : e.atStage .waitClose = e' := by simpa [farewellOn, ho] using h
      rw [hstage e rfl]
      exact .drained ho
    | cons f rest =>
      obtain rfl : { e with outbound := rest }.atStage (.wait f) = e' := by
        simpa [farewellOn, ho] using h
      rw [hstage { e with outbound := rest } rfl]
      exact .fetch ho
  | wait f =>
    cases hs : e.slot with
    | none =>
      obtain rfl : { e with slot := some (.ofFrame f) }.atStage .flush = e' := by
        simpa [farewellOn, hs] using h
      rw [hstage { e with slot := some (.ofFrame f) } rfl]
      exact .load hs
    | some m =>
      cases hf : e.flow with
      | «open» =>
        obtain rfl : e.writeSlot now m = e' := by simpa [farewellOn, hs, hf] using h
        exact .clear hs hf (Or.inl ⟨f, rfl⟩)
      | blocked => simp [farewellOn, hs, hf] at h
      | failing =>
        obtain rfl : e.failFarewell = e' := by simpa [farewellOn, hs, hf] using h
        exact .failed hf (Or.inl ⟨by simp [hs], Or.inl ⟨f, rfl⟩⟩)
  | flush =>
    cases hs : e.slot with
    | none => simp [farewellOn, hs] at h
    | some m =>
      cases hf : e.flow with
      | «open» =>
        obtain rfl : (e.writeSlot now m).atStage .fetch = e' := by
          simpa [farewellOn, hs, hf] using h
        rw [hstage (e.writeSlot now m) rfl]
        exact .flushed hs hf
      | blocked => simp [farewellOn, hs, hf] at h
      | failing =>
        obtain rfl : e.failFarewell = e' := by simpa [farewellOn, hs, hf] using h
        exact .failed hf (Or.inl ⟨by simp [hs], Or.inr rfl⟩)
  | waitClose =>
    cases hs : e.slot with
    | none =>
      obtain rfl : { e with slot := some (.closing code "") }.atStage .flushClose = e' := by
        simpa [farewellOn, hs] using h
      rw [hstage { e with slot := some (.closing code "") } rfl]
      exact .loadClose hs
    | some m =>
      cases hf : e.flow with
      | «open» =>
        obtain rfl : e.writeSlot now m = e' := by simpa [farewellOn, hs, hf] using h
        exact .clear hs hf (Or.inr (Or.inl rfl))
      | blocked => simp [farewellOn, hs, hf] at h
      | failing =>
        obtain rfl : (e.suffer .writeFailed).atStage .hangUp = e' := by
          simpa [farewellOn, hs, hf] using h
        rw [hstage (e.suffer .writeFailed) rfl]
        exact .failedClose (by simp [hs]) hf (Or.inl rfl)
  | flushClose =>
    cases hs : e.slot with
    | none => simp [farewellOn, hs] at h
    | some m =>
      cases hf : e.flow with
      | «open» =>
        obtain rfl : (e.writeSlot now m).atStage .hangUp = e' := by
          simpa [farewellOn, hs, hf] using h
        rw [hstage (e.writeSlot now m) rfl]
        exact .flushedClose hs hf
      | blocked => simp [farewellOn, hs, hf] at h
      | failing =>
        obtain rfl : (e.suffer .writeFailed).atStage .hangUp = e' := by
          simpa [farewellOn, hs, hf] using h
        rw [hstage (e.suffer .writeFailed) rfl]
        exact .failedClose (by simp [hs]) hf (Or.inr rfl)
  | hangUp =>
    cases hf : e.flow with
    | «open» =>
      cases hs : e.slot with
      | none =>
        obtain rfl : (e.record now .hangUp).stopWriter = e' := by
          simpa [farewellOn, hs, hf] using h
        exact .hungUp hs hf
      | some m =>
        obtain rfl : e.writeSlot now m = e' := by simpa [farewellOn, hs, hf] using h
        exact .clear hs hf (Or.inr (Or.inr rfl))
    | blocked => cases hs : e.slot <;> simp [farewellOn, hs, hf] at h
    | failing =>
      obtain rfl : e.failFarewell = e' := by
        cases hs : e.slot <;> simpa [farewellOn, hs, hf] using h
      exact .failed hf (Or.inr rfl)

/-- What the writer makes of what it is writing. -/
theorem step_of_goOn (h : e.goOn now = some e') : Step now e .write e' := by
  unfold goOn at h
  split at h
  · next deadline hw =>
    unfold writeOn at h
    split at h
    · next m hs hf =>
      obtain rfl := Option.some.inj h
      exact .writer (.wrote hw hs hf)
    · next m hs hf =>
      obtain rfl := Option.some.inj h
      exact .writer (.failed hw hs hf _)
    · cases h
  · next code stage deadline hw => exact .farewell hw (farewellStep_of_farewellOn hw h)
  · cases h

/-- What a move makes of an endpoint is what the relation says. -/
theorem step_of_perform {m : Move} (h : e.perform now m = some e') : Step now e m e' := by
  cases m with
  | read =>
    simp only [perform] at h
    split at h
    · next a rest hr ha =>
      obtain rfl := Option.some.inj h
      exact .reader (readerStep_of_readArrival hr ha)
    · cases h
  | expireRead =>
    simp only [perform, Bool.and_eq_true, decide_eq_true_eq, List.isEmpty_iff] at h
    split_ifs at h with hd
    obtain rfl := Option.some.inj h
    obtain ⟨⟨hr, ha⟩, hd⟩ := hd
    exact .reader (.expired hr ha hd _)
  | deliver =>
    simp only [perform] at h
    split at h
    · next frame hr =>
      split_ifs at h with hc hi
      · obtain rfl := Option.some.inj h
        exact .reader (.unwanted hr hc)
      · obtain rfl := Option.some.inj h
        exact .reader (.delivered hr hc hi)
    · cases h
  | stopReading =>
    simp only [perform] at h
    split at h
    · next ending he =>
      split_ifs at h with hr
      obtain rfl := Option.some.inj h
      exact .reader (.ended hr he)
    · cases h
  | take =>
    simp only [perform] at h
    split at h
    · next f rest hw ho =>
      obtain rfl := Option.some.inj h
      exact .writer (.take hw ho)
    · cases h
  | ping =>
    simp only [perform, Bool.and_eq_true, decide_eq_true_eq] at h
    split_ifs at h with hd
    obtain rfl := Option.some.inj h
    exact .writer (.ping hd.1 hd.2)
  | stopWriting =>
    by_cases hw : e.writer = .idle
    · simp only [perform, if_pos hw, Bool.and_eq_true, List.isEmpty_iff, Bool.not_eq_true'] at h
      split at h
      · next ending he =>
        obtain rfl := Option.some.inj h
        exact .writer (.ended hw he)
      · next he =>
        split_ifs at h with hs
        obtain rfl := Option.some.inj h
        exact .writer (.abandoned hw he hs.1 hs.2)
    · simp [perform, hw] at h
  | write => exact step_of_goOn h
  | expireWrite =>
    simp only [perform, Bool.and_eq_true, decide_eq_true_eq, Option.isNone_iff_eq_none] at h
    split at h
    · next deadline hw =>
      split_ifs at h with hg
      obtain rfl := Option.some.inj h
      exact .writer (.late hw hg.1 hg.2 _)
    · next code stage deadline hw =>
      split_ifs at h with hg
      obtain rfl := Option.some.inj h
      exact .farewell hw (.late hg.1 hg.2 _)
    · cases h
  | resume ticket =>
    simp only [perform, resumeSend] at h
    split at h
    · cases h
    · next i w hp =>
      simp only [Bool.or_eq_true] at h
      split_ifs at h with hd hi
      · obtain rfl := Option.some.inj h
        exact .refused hp hd
      · obtain rfl := Option.some.inj h
        simp only [not_or, Bool.not_eq_true] at hd
        exact .accepted hp hd.1 hd.2 hi
      · cases h
  | join =>
    simp only [perform] at h
    split at h
    · next deadline hs =>
      split_ifs at h with hw
      obtain rfl := Option.some.inj h
      exact .writerGone hs hw
    · next hs =>
      split_ifs at h with hr
      obtain rfl := Option.some.inj h
      exact .readerGone hs hr
    · cases h
  | abort =>
    simp only [perform, Bool.and_eq_true, decide_eq_true_eq] at h
    split at h
    · next deadline hs =>
      split_ifs at h with hw
      obtain rfl := Option.some.inj h
      exact .aborted hs hw.1 hw.2 _
    · cases h

end

end Switchboard.Endpoint
