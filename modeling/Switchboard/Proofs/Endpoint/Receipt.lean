import Switchboard.Proofs.Endpoint.Observation
/-!
# What is received

What receiving gives in a run are the first of the frames that have arrived, in order, and none of
them is longer than the endpoint's limit. A reader that meets what stops it (`Station.Meets`) has
put all frames that came before into the inbound queue. What of them was not received stays there,
whatever has ended the lifetime and however full the queue was (`Holds`), so receiving goes on with
the next of them, and gives the end when none is left (`handed_of_run`).
-/

namespace Switchboard.Endpoint

open Wire

/-! ### Definitions -/

/-- The frame that receiving gives. -/
def Receipt.frame? : Receipt → Option Bytes
  | .frame f => some f
  | .pending => none
  | .ended => none

/-- The frame that receiving gives by an event. -/
def Station.handed? (s : Station) : Event → Option Bytes
  | .receive => s.endpoint.receive.1.frame?
  | _ => none

/-- The frames that receiving gives in a run. -/
def Station.handed (s : Station) (events : List Event) : List Bytes :=
  s.observe Station.handed? events

/-- By an event the reader meets what makes it stop. -/
inductive Station.Meets (s : Station) : Event → Prop
  /-- The other side closes, what arrives ends or fails, or a message is too large. -/
  | arrival {a : Arrival} {rest : List Arrival} (hr : s.endpoint.reader = .listening)
    (ha : s.endpoint.arrivals = a :: rest)
    (hend : a.isEnd = true ∨ a.isTooLarge s.endpoint.settings.maxMessageSize = true) :
    s.Meets (.move .read)
  /-- Nothing has arrived, and no pong came in time. -/
  | silence (hr : s.endpoint.reader = .listening) (ha : s.endpoint.arrivals = [])
    (hd : s.endpoint.readDeadline ≤ s.now) : s.Meets (.move .expireRead)

/-- The reader has stopped, and these frames were received or are in the queue, unless that was
dropped. -/
structure Holds (frames : List Bytes) (e : Endpoint) : Prop where
  stopped : e.reader = .stopped
  whole : e.consumer ≠ .gone → e.received ++ e.inbound = frames

section

variable {e e' : Endpoint} {now : Nat} {m : Move} {frames : List Bytes} {s s' : Station}
  {event : Event} {events : List Event}

/-! ### What receiving gives -/

/-- No part of an endpoint receives by itself. -/
theorem received_step (h : Step now e m e') : e'.received = e.received := by
  by_cases hm : ∃ ticket, m = .resume ticket
  · obtain ⟨ticket, rfl⟩ := hm
    cases h with
    | reader h => cases h
    | writer h => cases h
    | farewell _ h => cases h
    | accepted | refused => rfl
  · exact (Keeps.step h fun ticket hticket => hm ⟨ticket, hticket⟩).received

/-- What an event gives comes last. -/
theorem received_after (h : s.after event = some s') :
    s'.endpoint.received = s.endpoint.received ++ (s.handed? event).toList := by
  have hrests {x : Endpoint} (hx : x.received = s.endpoint.received) :
      x.received = s.endpoint.received ++ (none : Option Bytes).toList :=
    hx.trans (List.append_nil _).symm
  cases event with
  | move m =>
    obtain ⟨e, he, rfl⟩ := Option.map_eq_some_iff.mp h
    exact hrests (received_step (step_of_perform he))
  | receive =>
    cases h
    unfold Station.handed? Endpoint.receive
    split
    · rfl
    · split_ifs <;> exact hrests rfl
  | send frame =>
    cases h
    apply hrests
    have hs := sent_send s.endpoint frame
    generalize s.endpoint.send frame = sent at hs
    cases hs <;> rfl
  | takeInbound =>
    cases h
    apply hrests
    dsimp only
    unfold Endpoint.takeInbound
    split <;> rfl
  | dropOwner => cases h; exact hrests (Keeps.dropOwner _).received
  | close code => cases h; exact hrests (by rw [close_eq])
  | shutDown => cases h; exact hrests (by rw [Endpoint.shutDown, close_eq])
  | cancel => cases h; exact hrests (by rw [Endpoint.cancel, finish_eq])
  | _ => cases h; exact hrests rfl

/-- What receiving gives in a run is what was received. -/
theorem received_run (hrun : s.run events = some s') :
    s'.endpoint.received = s.endpoint.received ++ s.handed events := by
  refine Station.observe_run (R := fun s frames => s.endpoint.received = frames) ?_ hrun rfl
  rintro s t event frames ht rfl
  exact received_after ht

/-! ### A reader that has met what stops it -/

/-- A reader that listens and stops has put all frames into the queue that it took before. -/
theorem Holds.of_listening (hl : Incoming e) (hr : e.reader = .listening)
    (hr' : e'.reader = .stopped) (hv : e'.received = e.received) (hi : e'.inbound = e.inbound)
    (hc : e'.consumer = e.consumer) : Holds e.framesTaken e' := by
  refine ⟨hr', fun hgone => ?_⟩
  have hwhole := hl.received_whole (by simp [hr]) (hc ▸ hgone)
  have hheld : e.reader.held = [] := by
    rw [hr]
    rfl
  rw [hwhole, hheld, List.append_nil, hv, hi]

/-- A message that neither closes nor is too large does not stop the reader. -/
theorem not_stops {limit : Nat} {m : Message} (hclose : ∀ code, m.content ≠ .close code)
    (hdata : ∀ f, m.content = .data f → f.length ≤ limit) :
    ¬ ((Arrival.message m).isEnd = true ∨ (Arrival.message m).isTooLarge limit = true) := by
  rintro (hend | hlarge)
  · obtain ⟨code, hcode⟩ := isEnd_message.mp hend
    exact hclose code hcode
  · obtain ⟨f, hf, hlength⟩ := isTooLarge_message.mp hlarge
    exact absurd (hdata f hf) (Nat.not_le_of_lt hlength)

/-- A reader that meets what stops it has put all frames into the queue that it took before. -/
theorem Holds.of_meets (hl : Incoming s.endpoint) (hm : s.Meets event)
    (h : s.after event = some s') : Holds s.endpoint.framesTaken s'.endpoint := by
  cases hm with
  | @arrival a rest hr ha hend =>
    obtain ⟨e, he, rfl⟩ := Option.map_eq_some_iff.mp h
    have hfirst {b : Arrival} {rest' : List Arrival} (hb : s.endpoint.arrivals = b :: rest') :
        b.isEnd = true ∨ b.isTooLarge s.endpoint.settings.maxMessageSize = true := by
      obtain ⟨rfl, -⟩ := List.cons.inj (ha.symm.trans hb)
      exact hend
    cases step_of_perform he with
    | reader hstep =>
      cases hstep with
      | data _ hb hm hs =>
        refine absurd (hfirst hb) (not_stops (by simp [hm]) fun f hf => ?_)
        obtain rfl := Content.data.inj (hm.symm.trans hf)
        exact hs
      | pong _ hb hm => exact absurd (hfirst hb) (not_stops (by simp [hm]) (by simp [hm]))
      | other _ hb hm =>
        refine absurd (hfirst hb) (not_stops ?_ ?_)
        · rcases hm with hm | hm <;> simp [hm]
        · rcases hm with hm | hm <;> simp [hm]
      | _ =>
        rw [stopReader_eq]
        exact .of_listening hl hr rfl rfl rfl rfl
    | writer hstep => cases hstep
    | farewell _ hstep => cases hstep
  | silence hr ha hd =>
    obtain ⟨e, he, rfl⟩ := Option.map_eq_some_iff.mp h
    cases step_of_perform he with
    | reader hstep =>
      cases hstep
      rw [stopReader_eq]
      exact .of_listening hl hr rfl rfl rfl rfl
    | writer hstep => cases hstep
    | farewell _ hstep => cases hstep

/-- The frames stay until they are received. -/
theorem isStable_holds (frames : List Bytes) : IsStable fun _ e => Holds frames e where
  act h hp := by
    cases readerAct_of_act h with
    | work h =>
      cases h with
      | ended hr => exact absurd hp.stopped hr
      | data hr | pong hr | other hr | oversized hr | closed hr | refused hr | failed hr
      | finished hr | expired hr | unwanted hr | delivered hr => cases hr.symm.trans hp.stopped
    | rests h =>
      refine ⟨h.reader.trans hp.stopped, fun hc => ?_⟩
      obtain ⟨hc', hqueue⟩ := h.queue hc
      rw [hqueue]
      exact hp.whole hc'
  arrive _ hp := ⟨hp.stopped, hp.whole⟩
  setFlow _ hp := ⟨hp.stopped, hp.whole⟩
  later _ := id

/-- Receiving goes on with the frames that are left, and gives the end when none is. -/
theorem Holds.receive (h : Holds frames e) (hc : e.consumer ≠ .gone) :
    (∃ f, e.receive.1 = .frame f ∧ e.received ++ [f] <+: frames) ∨
      e.receive.1 = .ended ∧ e.received = frames := by
  have hwhole := h.whole hc
  cases hi : e.inbound with
  | nil =>
    right
    rw [hi, List.append_nil] at hwhole
    exact ⟨by simp [Endpoint.receive, hi, h.stopped], hwhole⟩
  | cons f rest =>
    left
    refine ⟨f, by simp [Endpoint.receive, hi], rest, ?_⟩
    rw [List.append_assoc, List.singleton_append, ← hi, hwhole]

end

/-! ### Main result -/

section

variable {settings : Settings} {now : Nat} {events : List Event} {s : Station}

/-- In every run, what receiving gives are the first frames of the messages that arrived, in order,
and none is longer than the limit. When the reader meets a message that closes, the end of what
arrives, an error, a message that is too large, or its deadline, then receiving gives all frames
that arrived before that, each in its turn, and only then the end. -/
theorem handed_of_run (hrun : (Station.opening settings now).run events = some s) :
    (Station.opening settings now).handed events <+: (arrived events).filterMap Arrival.frame? ∧
      (∀ f ∈ (Station.opening settings now).handed events, f.length ≤ settings.maxMessageSize) ∧
      ∀ {first last : List Event} {event : Event} {t : Station}, events = first ++ event :: last →
        (Station.opening settings now).run first = some t → t.Meets event →
        s.endpoint.consumer ≠ .gone →
        ∃ before, arrived first = before ++ t.endpoint.arrivals ∧
          ((∃ f, s.endpoint.receive.1 = .frame f ∧
              (Station.opening settings now).handed events ++ [f]
                <+: before.filterMap Arrival.frame?) ∨
            s.endpoint.receive.1 = .ended ∧
              (Station.opening settings now).handed events
                = before.filterMap Arrival.frame?) := by
  have hreceived : s.endpoint.received = (Station.opening settings now).handed events :=
    received_run hrun
  have hseen : s.endpoint.seen = arrived events := Station.seen_run hrun
  have hsized : IsSized settings.maxMessageSize s.endpoint :=
    (isStable_sized settings.maxMessageSize).run (fun _ hs => ⟨hs.settings, hs.frames⟩) hrun
      (.start (Nat.le_refl _) now)
  rw [← hreceived]
  refine ⟨?_, ?_, ?_⟩
  · rw [← hseen]
    exact (closes_run hrun).1.1.incoming.received_arrived
  · intro f hf
    exact hsized.frames f (List.mem_append_left _ (List.mem_append_left _ hf))
  · rintro first last event t rfl ht hm hc
    obtain ⟨t', ht', hlast⟩ := Option.bind_eq_some_iff.mp (Station.run_of_prefix ht hrun)
    have hholds : Holds t.endpoint.framesTaken s.endpoint :=
      (isStable_holds _).run (fun _ hp => ⟨hp.stopped, hp.whole⟩) hlast
        (.of_meets (closes_run ht).1.1.incoming hm ht')
    exact ⟨t.endpoint.taken, (Station.seen_run ht).symm, hholds.receive hc⟩

/-- An inbound queue that holds one frame. -/
def shallow : Settings := { Settings.standard with inboundCapacity := 1 }

/-- Two frames, a ping and the end of what arrives; the second frame waits for room when the
endpoint is closed, and the queue is full again when the reader meets the end. -/
def overtaken : List Event :=
  [.takeInbound, .arrive (.message (.text "a")), .arrive (.message (.ping [])),
    .arrive (.message (.binary [0xFF])), .arrive .finish, .move .read, .move .deliver, .move .read,
    .move .read, .close CloseCode.normal, .receive, .move .deliver]

/-- Both frames are received before the end. -/
theorem handed_of_run_overtaken :
    ∃ s t before,
      (Station.opening shallow 0).run (overtaken ++ .move .read :: [.receive]) = some s ∧
      (Station.opening shallow 0).run overtaken = some t ∧ t.Meets (.move .read) ∧
      t.endpoint.isDone = true ∧ t.endpoint.inbound = [[0xFF]] ∧ s.endpoint.consumer ≠ .gone ∧
      s.endpoint.receive.1 = .ended ∧ arrived overtaken = before ++ t.endpoint.arrivals ∧
      (Station.opening shallow 0).handed (overtaken ++ .move .read :: [.receive])
        = before.filterMap Arrival.frame? := by
  have hend : ∃ s ∈ (Station.opening shallow 0).run (overtaken ++ .move .read :: [.receive]),
      s.endpoint.consumer ≠ .gone ∧ s.endpoint.receive.1 = .ended := by
    decide +kernel
  have hmeet : ∃ t ∈ (Station.opening shallow 0).run overtaken, t.endpoint.isDone = true ∧
      t.endpoint.inbound = [[0xFF]] ∧ t.endpoint.reader = .listening ∧
      t.endpoint.arrivals = [.finish] := by
    decide +kernel
  obtain ⟨s, hs, hc, hended⟩ := hend
  obtain ⟨t, ht, hdone, hinbound, hr, ha⟩ := hmeet
  have hm : t.Meets (.move .read) := .arrival hr ha (Or.inl rfl)
  obtain ⟨-, -, hmet⟩ := handed_of_run hs
  obtain ⟨before, hbefore, hmore | ⟨-, hall⟩⟩ := hmet rfl ht hm hc
  · obtain ⟨f, hf, -⟩ := hmore
    cases hended.symm.trans hf
  · exact ⟨s, t, before, hs, ht, hm, hdone, hinbound, hc, hended, hbefore, hall⟩

end

end Switchboard.Endpoint
