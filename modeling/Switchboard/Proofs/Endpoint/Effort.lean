import Switchboard.Proofs.Endpoint.Observation
/-!
# Moves come to an end

Each move of an endpoint leaves less to do (`remaining_step`), as long as there is a time between
its pings. So at any time an endpoint can make only so many moves by itself, no more than its effort
(`Station.length_moves_le_effort`), whatever has arrived, is queued or is due. This is also the fuel
with which a station settles its endpoint, so that it finds a state in which nothing can move
(`Station.settled_settle`).

What is left to do is counted for each part of the endpoint (`remaining`). A part counts for more
the more moves it may still make, so a frame counts for more while its send waits than in the
queue, and for more in the queue than in the writer's hands.
-/

namespace Switchboard.Endpoint

open Wire

/-! ### Definitions -/

/-- How much is left to do for a reader. -/
def Reader.remaining : Reader → Nat
  | .listening => 1
  | .offering _ => 2
  | .stopped => 0

/-- How much is left to do at a stage of a farewell. -/
def Farewell.remaining : Farewell → Nat
  | .fetch => 5
  | .wait _ => 7
  | .flush => 5
  | .waitClose => 4
  | .flushClose => 2
  | .hangUp => 1

/-- How much is left to do for a writer. -/
def Writer.remaining : Writer → Nat
  | .idle => 6
  | .writing _ => 6
  | .leaving _ stage _ => stage.remaining
  | .stopped => 0

/-- How much is left to do for a shutdown. -/
def Shutdown.remaining : Shutdown → Nat
  | .unasked => 0
  | .waiting _ => 2
  | .joining => 1
  | .finished => 0

/-- How many pings are due and not taken up. -/
def overdue (now : Nat) (e : Endpoint) : Nat :=
  (now - e.born) / e.settings.pingPeriod.toNanos - e.pings

/-- How much is left to do at a time. -/
def remaining (now : Nat) (e : Endpoint) : Nat :=
  2 * e.arrivals.length + e.reader.remaining + 3 * e.outbound.length + 4 * e.waiting.length
    + e.slot.toList.length + e.writer.remaining + 2 * e.overdue now + e.shutdown.remaining

section

variable {e e' : Endpoint} {now : Nat} {m : Move} {s s' : Station}

/-! ### Every move -/

/-- A ping that is taken up was due. -/
theorem overdue_ping (hp : e.settings.pingPeriod.toNanos ≠ 0) (hd : e.nextPing ≤ now) :
    e.pings + 1 ≤ (now - e.born) / e.settings.pingPeriod.toNanos := by
  rw [nextPing] at hd
  rw [Nat.le_div_iff_mul_le (Nat.pos_of_ne_zero hp)]
  omega

/-- A reader that has not stopped has something left to do. -/
theorem Reader.remaining_pos {r : Reader} (h : r ≠ .stopped) : 0 < r.remaining := by
  cases r with
  | stopped => exact absurd rfl h
  | _ => simp [remaining]

/-- A writer that has not stopped has something left to do. -/
theorem Writer.remaining_pos {w : Writer} (h : w ≠ .stopped) : 0 < w.remaining := by
  cases w with
  | stopped => exact absurd rfl h
  | leaving code stage deadline => cases stage <;> simp [remaining, Farewell.remaining]
  | _ => simp [remaining]

/-- The reader leaves less to do. -/
theorem remaining_readerStep (h : ReaderStep now e m e') : e'.remaining now < e.remaining now := by
  cases h with
  | data hr ha =>
    simp [remaining, overdue, took, hr, ha, Reader.remaining]
    omega
  | pong hr ha | other hr ha => simp [remaining, overdue, took, hr, ha, Reader.remaining]
  | oversized hr ha | closed hr ha | refused hr ha | failed hr ha | finished hr ha =>
    simp [stopReader_eq, remaining, overdue, took, hr, ha, Reader.remaining]
  | expired hr | unwanted hr => simp [stopReader_eq, remaining, overdue, hr, Reader.remaining]
  | delivered hr => simp [remaining, overdue, hr, Reader.remaining]
  | ended hr =>
    have hpos := Reader.remaining_pos hr
    simpa [stopReader_eq, remaining, overdue, Reader.remaining] using hpos

/-- A writer that stops leaves less to do. -/
theorem remaining_stopWriter (now : Nat) (hw : e.writer ≠ .stopped) :
    e.stopWriter.remaining now < e.remaining now := by
  have hpos := Writer.remaining_pos hw
  have hnone : Writer.stopped.remaining = 0 := rfl
  simp only [stopWriter, remaining, overdue, hnone, List.length_nil, Option.toList_none]
  omega

/-- The writer leaves less to do while the lifetime lasts. -/
theorem remaining_writerStep (h : WriterStep now e m e')
    (hp : e.settings.pingPeriod.toNanos ≠ 0) : e'.remaining now < e.remaining now := by
  cases h with
  | take hw ho =>
    simp [remaining, overdue, hw, ho, Writer.remaining]
    omega
  | ping hw hd =>
    have hdue := overdue_ping hp hd
    simp [remaining, overdue, hw, Writer.remaining]
    omega
  | wrote hw hs => simp [remaining, overdue, writeSlot, record, hw, hs, Writer.remaining]
  | ended hw | abandoned hw | failed hw | late hw =>
    simp [beginFarewell_eq, remaining, overdue, hw, Writer.remaining, Farewell.remaining]

/-- The writer leaves less to do in its farewell. -/
theorem remaining_farewellStep {code : CloseCode} {stage : Farewell} {deadline : Nat}
    (hw : e.writer = .leaving code stage deadline)
    (h : FarewellStep now e code deadline stage m e') : e'.remaining now < e.remaining now := by
  have hne : e.writer ≠ .stopped := by simp [hw]
  cases h with
  | fetch ho =>
    simp [remaining, overdue, hw, ho, Writer.remaining, Farewell.remaining]
    omega
  | drained => simp [remaining, overdue, hw, Writer.remaining, Farewell.remaining]
  | load hs | loadClose hs =>
    simp [remaining, overdue, hw, hs, Writer.remaining, Farewell.remaining]
  | clear hs => simp [remaining, overdue, writeSlot, record, hs]
  | flushed hs | flushedClose hs =>
    simp [remaining, overdue, writeSlot, record, hw, hs, Writer.remaining, Farewell.remaining]
  | hungUp => exact remaining_stopWriter now (e := e.record now .hangUp) hne
  | failed => exact remaining_stopWriter now (e := { e with mishaps := _ }) hne
  | failedClose _ _ ht =>
    rcases ht with rfl | rfl <;>
      simp [remaining, overdue, hw, Writer.remaining, Farewell.remaining]
  | late => exact remaining_stopWriter now (e := { e with mishaps := _, log := _ }) hne

/-- A send that waited leaves those that wait. -/
theorem length_leave {ticket i : Nat} {w : Waiting} (h : e.place? ticket = some (i, w)) :
    (e.waiting.filter (·.ticket ≠ ticket)).length < e.waiting.length := by
  obtain ⟨hw, rfl⟩ := mem_of_place? h
  exact List.length_filter_lt_length_iff_exists.mpr ⟨w, hw, by simp⟩

/-- Every move leaves less to do. -/
theorem remaining_step (h : Step now e m e') (hp : e.settings.pingPeriod.toNanos ≠ 0) :
    e'.remaining now < e.remaining now := by
  cases h with
  | reader h => exact remaining_readerStep h
  | writer h => exact remaining_writerStep h hp
  | farewell hw h => exact remaining_farewellStep hw h
  | accepted hplace =>
    have hless := length_leave hplace
    simp only [remaining, overdue, List.length_append, List.length_singleton]
    omega
  | refused hplace =>
    have hless := length_leave hplace
    simp only [remaining, overdue]
    omega
  | writerGone hs => simp [remaining, overdue, hs, Shutdown.remaining]
  | readerGone hs =>
    rw [dropOwner_eq]
    split_ifs <;> simp [dropInbound, remaining, overdue, hs, Shutdown.remaining]
  | aborted hs hw _ log =>
    have hless := remaining_stopWriter now
      (e := { e with mishaps := e.mishaps ++ [Mishap.aborted], log := log }) hw
    simp [remaining, overdue, hs, Shutdown.remaining, stopWriter] at hless ⊢
    omega

/-- The effort is a bound on what is left to do. -/
theorem remaining_lt_effort (e : Endpoint) (now : Nat) : e.remaining now < e.effort now := by
  have hreader : e.reader.remaining ≤ 2 := by cases e.reader <;> simp [Reader.remaining]
  have hwriter : e.writer.remaining ≤ 7 := by
    cases e.writer with
    | leaving code stage deadline => cases stage <;> simp [Writer.remaining, Farewell.remaining]
    | _ => simp [Writer.remaining]
  have hshutdown : e.shutdown.remaining ≤ 2 := by cases e.shutdown <;> simp [Shutdown.remaining]
  have hslot : e.slot.toList.length ≤ 1 := by cases e.slot <;> simp
  simp only [remaining, overdue, effort]
  omega

/-! ### Runs of moves -/

/-- An endpoint that makes moves by itself has less to do by as many. -/
theorem Station.length_moves {moves : List Move} (hrun : s.run (moves.map .move) = some s')
    (hp : s.endpoint.settings.pingPeriod.toNanos ≠ 0) :
    moves.length + s'.endpoint.remaining s'.now ≤ s.endpoint.remaining s.now := by
  induction moves generalizing s with
  | nil =>
    obtain rfl := Option.some.inj hrun
    simp
  | cons m moves ih =>
    obtain ⟨t, ht, hrest⟩ := Option.bind_eq_some_iff.mp hrun
    have hsettings := Station.settings_after ht
    obtain ⟨e, he, rfl⟩ := Option.map_eq_some_iff.mp ht
    have hless := remaining_step (step_of_perform he) hp
    have hlater := ih hrest (by rw [hsettings]; exact hp)
    simp only [List.length_cons] at hlater ⊢
    omega

/-- By itself an endpoint can make no more moves than its effort, at any time. -/
theorem Station.length_moves_le_effort {moves : List Move}
    (hrun : s.run (moves.map .move) = some s')
    (hp : s.endpoint.settings.pingPeriod.toNanos ≠ 0) :
    moves.length ≤ s.endpoint.effort s.now := by
  have hmoves := Station.length_moves hrun hp
  have heffort := remaining_lt_effort s.endpoint s.now
  omega

/-! ### Settling -/

/-- Whether a farewell gives up first or not, the same moves are tried. -/
theorem mem_order_of {farewellFirst : Bool} (h : m ∈ e.order false) : m ∈ e.order farewellFirst := by
  cases farewellFirst with
  | false => exact h
  | true =>
    simp only [order, List.mem_append] at h ⊢
    grind

/-- With fuel for all that is left to do, settling ends where nothing can move. -/
theorem settled_settle_of_lt {fuel : Nat} {farewellFirst : Bool}
    (hp : e.settings.pingPeriod.toNanos ≠ 0) (hfuel : e.remaining now < fuel) :
    Settled now (settle now farewellFirst fuel e) := by
  induction fuel generalizing e with
  | zero => exact absurd hfuel (Nat.not_lt_zero _)
  | succ fuel ih =>
    unfold settle
    split
    · next e' hmove =>
      obtain ⟨m, -, he⟩ := List.exists_of_findSome?_eq_some hmove
      have hstep := step_of_perform he
      have hsettings : e'.settings = e.settings := (Follows.act (.step hstep)).settings
      have hless := remaining_step hstep hp
      exact ih (by rw [hsettings]; exact hp) (by omega)
    · next hnone =>
      rw [List.findSome?_eq_none_iff] at hnone
      refine settled_iff.mpr fun m hm => ?_
      rw [hnone m (mem_order_of hm)]
      rfl

/-- A station comes to rest: when it has settled nothing can move. -/
theorem Station.settled_settle (hp : s.endpoint.settings.pingPeriod.toNanos ≠ 0) :
    Settled s.settle.now s.settle.endpoint := by
  have heffort := remaining_lt_effort s.endpoint s.now
  rw [Station.settle]
  -- The amount of fuel must not be computed.
  generalize s.endpoint.effort s.now = fuel at heffort
  exact settled_settle_of_lt hp heffort

end

end Switchboard.Endpoint
