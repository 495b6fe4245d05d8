import Switchboard.Endpoint.Station
import Switchboard.Proofs.Endpoint.Act
/-!
# Runs of an endpoint

A run of one endpoint is any sequence of events: moves of its parts in any order in which they are
possible, with anything between them that its holders or its socket do. What is stable holds in all
runs (`IsStable.run`).

A run also tells what each send came to: `returned` lists the sends that have succeeded or failed,
in the order in which they did. A send comes to one end at most and keeps its ticket until then
(`Sends.IsTallied`), so what was accepted and what was refused can be told apart (`returned_run`).
-/

namespace Switchboard.Endpoint

open Wire

/-! ### Events -/

/-- What happens to an endpoint. -/
inductive Event
  /-- A part of the endpoint moves. -/
  | move (m : Move)
  | arrive (a : Arrival)
  /-- The socket changes how it takes what is written. -/
  | setFlow (flow : Flow)
  | send (frame : Bytes)
  /-- A send that waits is given up by its caller. -/
  | withdraw (ticket : Nat)
  | takeInbound
  | receive
  | dropInbound
  | dropOwner
  | addHandle
  | dropHandle
  | close (code : CloseCode)
  | cancel
  | shutDown
  /-- Time passes. -/
  | tick (nanos : Nat)
  deriving DecidableEq, Repr

/-- What an event makes of an endpoint and its clock, where it is possible. -/
def Station.after (s : Station) : Event → Option Station
  | .move m => (s.endpoint.perform s.now m).map fun e => { s with endpoint := e }
  | .arrive a => some { s with endpoint := s.endpoint.arrive a }
  | .setFlow flow => some { s with endpoint := s.endpoint.setFlow flow }
  | .send frame => some { s with endpoint := (s.endpoint.send frame).2 }
  | .withdraw ticket => some { s with endpoint := s.endpoint.withdraw ticket }
  | .takeInbound => some { s with endpoint := s.endpoint.takeInbound.2 }
  | .receive => some { s with endpoint := s.endpoint.receive.2 }
  | .dropInbound => some { s with endpoint := s.endpoint.dropInbound }
  | .dropOwner => some { s with endpoint := s.endpoint.dropOwner }
  | .addHandle => some { s with endpoint := s.endpoint.addHandle }
  | .dropHandle => some { s with endpoint := s.endpoint.dropHandle }
  | .close code => some { s with endpoint := s.endpoint.close s.now code }
  | .cancel => some { s with endpoint := s.endpoint.cancel s.now }
  | .shutDown => some { s with endpoint := s.endpoint.shutDown s.now }
  | .tick nanos => some { s with now := s.now + nanos }

/-- What a sequence of events makes of an endpoint and its clock. -/
def Station.run (s : Station) : List Event → Option Station
  | [] => some s
  | event :: events => (s.after event).bind (·.run events)

/-- What arrives by an event. -/
def Event.arrival? : Event → Option Arrival
  | .arrive a => some a
  | _ => none

/-- Whether an event is what a holder of the endpoint does. -/
def Event.isHolders : Event → Bool
  | .move _ => false
  | .arrive _ => false
  | .setFlow _ => false
  | .tick _ => false
  | _ => true

/-- What an event means: a part of the endpoint moves, or a holder uses it or comes or goes, or
something comes from its socket, or time passes. -/
inductive Station.Turn (s : Station) : Event → Station → Prop
  | move {m : Move} {e : Endpoint} (h : Step s.now s.endpoint m e) :
    Turn s (.move m) { s with endpoint := e }
  | use {event : Event} {e : Endpoint} (h : Use s.now s.endpoint e)
    (ha : event.isHolders = true) : Turn s event { s with endpoint := e }
  | handles {event : Event} (handles : Nat) (ha : event.isHolders = true) :
    Turn s event { s with endpoint := { s.endpoint with handles := handles } }
  | arrive (a : Arrival) : Turn s (.arrive a) { s with endpoint := s.endpoint.arrive a }
  | setFlow (flow : Flow) : Turn s (.setFlow flow) { s with endpoint := s.endpoint.setFlow flow }
  | tick (nanos : Nat) : Turn s (.tick nanos) { s with now := s.now + nanos }

/-- Whether a send succeeded, unless it waits. -/
def Sending.success? : Sending → Option Bool
  | .finished success => some success
  | .waits _ => none

/-- The send that an event brings to its end, and whether it succeeded. -/
def Station.outcome? (s : Station) : Event → Option (Waiting × Bool)
  | .send frame =>
    (s.endpoint.send frame).1.success?.map fun success => (⟨s.endpoint.tickets, frame⟩, success)
  | .move (.resume ticket) =>
    (s.endpoint.place? ticket).bind fun place =>
      (s.endpoint.resumeSend ticket).map fun resumed => (place.2, resumed.1)
  | _ => none

/-- The sends that come to their end in a run, each with whether it succeeded. -/
def Station.returned (s : Station) : List Event → List (Waiting × Bool)
  | [] => []
  | event :: events => (s.outcome? event).toList ++
    match s.after event with
    | some s => s.returned events
    | none => []

/-- The sends among these that succeeded. -/
def succeeded (outcomes : List (Waiting × Bool)) : List Waiting :=
  (outcomes.filter (·.2)).map (·.1)

/-- The sends among these that failed. -/
def failed (outcomes : List (Waiting × Bool)) : List Waiting :=
  (outcomes.filter (!·.2)).map (·.1)

/-! ### Stable properties -/

section

variable {s s' : Station} {event : Event} {events : List Event}

/-- What an event means. -/
theorem Station.turn (h : s.after event = some s') : s.Turn event s' := by
  cases event with
  | move m =>
    obtain ⟨e, he, rfl⟩ := Option.map_eq_some_iff.mp h
    exact .move (step_of_perform he)
  | arrive a => cases h; exact .arrive a
  | setFlow flow => cases h; exact .setFlow flow
  | send frame => cases h; exact .use (.send frame) rfl
  | withdraw ticket => cases h; exact .use (.withdraw ticket) rfl
  | takeInbound => cases h; exact .use .takeInbound rfl
  | receive => cases h; exact .use .receive rfl
  | dropInbound => cases h; exact .use .dropInbound rfl
  | dropOwner => cases h; exact .use .dropOwner rfl
  | addHandle => cases h; exact .handles _ rfl
  | dropHandle => cases h; exact .handles _ rfl
  | close code => cases h; exact .use (.close code) rfl
  | cancel => cases h; exact .use .cancel rfl
  | shutDown => cases h; exact .use .shutDown rfl
  | tick nanos => cases h; exact .tick nanos

/-- What is stable, whoever holds the sending side, is kept by every event. -/
theorem IsStable.after {P : Nat → Endpoint → Prop} (hP : IsStable P)
    (hhandles : ∀ {now e} handles, P now e → P now { e with handles := handles })
    (h : s.after event = some s') (hp : P s.now s.endpoint) : P s'.now s'.endpoint := by
  cases Station.turn h with
  | move hstep => exact hP.act (.step hstep) hp
  | use huse => exact hP.act huse.act hp
  | handles handles => exact hhandles handles hp
  | arrive a => exact hP.arrive a hp
  | setFlow flow => exact hP.setFlow flow hp
  | tick nanos => exact hP.later (Nat.le_add_right _ _) hp

/-- What is stable, whoever holds the sending side, is kept by every run. -/
theorem IsStable.run {P : Nat → Endpoint → Prop} (hP : IsStable P)
    (hhandles : ∀ {now e} handles, P now e → P now { e with handles := handles })
    (hrun : s.run events = some s') (hp : P s.now s.endpoint) : P s'.now s'.endpoint := by
  induction events generalizing s with
  | nil =>
    obtain rfl := Option.some.inj hrun
    exact hp
  | cons event events ih =>
    obtain ⟨t, ht, hrest⟩ := Option.bind_eq_some_iff.mp hrun
    exact ih hrest (hP.after (fun _ => hhandles _) ht hp)

end

/-! ### What becomes of sends -/

/-- What has become of the sends. -/
structure Sends where
  accepted : List Waiting
  refused : List Waiting
  withdrawn : List Waiting
  waiting : List Waiting
  tickets : Nat

/-- What has become of the sends. -/
def sends (e : Endpoint) : Sends := ⟨e.accepted, e.refused, e.withdrawn, e.waiting, e.tickets⟩

namespace Sends

/-- What an event means for the sends, with the send that it brings to its end. -/
inductive Step (s : Sends) : Option (Waiting × Bool) → Sends → Prop
  | rests : Step s none s
  | refused (frame : Bytes) : Step s (some (⟨s.tickets, frame⟩, false))
    { s with tickets := s.tickets + 1, refused := s.refused ++ [⟨s.tickets, frame⟩] }
  | accepted (frame : Bytes) : Step s (some (⟨s.tickets, frame⟩, true))
    { s with tickets := s.tickets + 1, accepted := s.accepted ++ [⟨s.tickets, frame⟩] }
  | waits (frame : Bytes) : Step s none
    { s with tickets := s.tickets + 1, waiting := s.waiting ++ [⟨s.tickets, frame⟩] }
  /-- A send that waited is accepted. -/
  | granted {w : Waiting} (hw : w ∈ s.waiting) : Step s (some (w, true))
    { s with
      waiting := s.waiting.filter (·.ticket ≠ w.ticket)
      accepted := s.accepted ++ [w] }
  /-- A send that waited is refused. -/
  | denied {w : Waiting} (hw : w ∈ s.waiting) : Step s (some (w, false))
    { s with
      waiting := s.waiting.filter (·.ticket ≠ w.ticket)
      refused := s.refused ++ [w] }
  | withdrawn (ticket : Nat) : Step s none
    { s with
      waiting := s.waiting.filter (·.ticket ≠ ticket)
      withdrawn := s.withdrawn ++ s.waiting.filter (·.ticket = ticket) }

/-- All sends, those that wait at the end. -/
def all (s : Sends) : List Waiting := s.accepted ++ s.refused ++ s.withdrawn ++ s.waiting

/-- Each ticket that was handed out belongs to one send, which waits or has come to one end. -/
def IsTallied (s : Sends) : Prop := (s.all.map (·.ticket)).Perm (List.range s.tickets)

section

variable {s s' : Sends} {outcome : Option (Waiting × Bool)}

/-- What comes to its end is added to what has. -/
theorem Step.ends (h : Step s outcome s') :
    s'.accepted = s.accepted ++ succeeded outcome.toList ∧
      s'.refused = s.refused ++ failed outcome.toList := by
  cases h <;> simp [succeeded, failed]

/-- A new send has the next ticket. -/
theorem IsTallied.issue (h : s.IsTallied) {f : Bytes}
    (hall : s'.all.Perm (s.all ++ [⟨s.tickets, f⟩])) (ht : s'.tickets = s.tickets + 1) :
    s'.IsTallied := by
  unfold IsTallied
  rw [ht, List.range_succ]
  refine (hall.map _).trans ?_
  rw [List.map_append]
  exact h.append_right _

/-- A send that leaves those that wait keeps its ticket. -/
theorem IsTallied.move (h : s.IsTallied) (hall : s'.all.Perm s.all) (ht : s'.tickets = s.tickets) :
    s'.IsTallied := by
  unfold IsTallied
  rw [ht]
  exact (hall.map _).trans h

/-- The sends that wait have tickets of their own. -/
theorem IsTallied.waiting_nodup (h : s.IsTallied) : (s.waiting.map (·.ticket)).Nodup := by
  have hall : (s.all.map (·.ticket)).Nodup := h.nodup_iff.mpr List.nodup_range
  rw [all, List.map_append, List.nodup_append] at hall
  exact hall.2.1

/-- A send that failed is none of those that succeeded. -/
theorem IsTallied.ticket_notMem (h : s.IsTallied) {w : Waiting} (hw : w ∈ s.refused) :
    w.ticket ∉ s.accepted.map (·.ticket) := by
  have hall : (s.all.map (·.ticket)).Nodup := h.nodup_iff.mpr List.nodup_range
  rw [all, List.append_assoc, List.append_assoc, List.map_append, List.nodup_append] at hall
  intro hmem
  apply hall.2.2 _ hmem w.ticket _ rfl
  exact List.mem_map_of_mem (List.mem_append_left _ hw)

/-- A send is one of those that wait. -/
theorem IsTallied.waiting_perm (h : s.IsTallied) {w : Waiting} (hw : w ∈ s.waiting) :
    (w :: s.waiting.filter (·.ticket ≠ w.ticket)).Perm s.waiting := by
  have hparts := List.filter_append_perm (fun x : Waiting => decide (x.ticket = w.ticket)) s.waiting
  rw [filter_ticket h.waiting_nodup hw] at hparts
  simpa using hparts

/-- Every event keeps the tally. -/
theorem IsTallied.step (hs : s.IsTallied) (h : Step s outcome s') : s'.IsTallied := by
  cases h with
  | rests => exact hs
  | refused frame =>
    refine hs.issue (f := frame) ?_ rfl
    simp only [all]
    grind
  | accepted frame =>
    refine hs.issue (f := frame) ?_ rfl
    simp only [all]
    grind
  | waits frame =>
    refine hs.issue (f := frame) ?_ rfl
    simp only [all]
    grind
  | granted hw =>
    have hwaiting := hs.waiting_perm hw
    refine hs.move ?_ rfl
    simp only [all]
    grind
  | denied hw =>
    have hwaiting := hs.waiting_perm hw
    refine hs.move ?_ rfl
    simp only [all]
    grind
  | withdrawn ticket =>
    have hparts := List.filter_append_perm (fun w : Waiting => decide (w.ticket = ticket)) s.waiting
    refine hs.move ?_ rfl
    simp only [all]
    grind

end

end Sends

section

variable {e e' : Endpoint} {now : Nat} {m : Move} {s s' : Station} {event : Event}
  {events : List Event}

/-- To let go brings no send to its end. -/
theorem sends_dropOwner (e : Endpoint) : e.dropOwner.sends = e.sends := by
  rw [dropOwner_eq]
  split_ifs <;> rfl

/-- To close brings no send to its end at once. -/
theorem sends_close (e : Endpoint) (now : Nat) (code : CloseCode) :
    (e.close now code).sends = e.sends := by
  rw [close_eq]
  rfl

/-- Only a send that waited comes to its end by a step. -/
theorem sends_step (h : Step now e m e') (hm : ∀ ticket, m ≠ .resume ticket) :
    e'.sends = e.sends := by
  cases h with
  | reader h =>
    cases h with
    | data | pong | other | delivered => rfl
    | _ =>
      rw [stopReader_eq]
      rfl
  | writer h =>
    cases h with
    | take | ping | wrote => rfl
    | _ =>
      rw [beginFarewell_eq]
      rfl
  | farewell _ h => cases h <;> rfl
  | accepted | refused => exact absurd rfl (hm _)
  | writerGone | aborted => rfl
  | readerGone => exact sends_dropOwner e

/-- What a send that waited comes to. -/
theorem sends_resume {ticket : Nat} (h : e.perform now (.resume ticket) = some e') :
    e.sends.Step ((e.place? ticket).bind fun place =>
      (e.resumeSend ticket).map fun resumed => (place.2, resumed.1)) e'.sends := by
  obtain ⟨resumed, hresume, rfl⟩ := Option.map_eq_some_iff.mp h
  have hresumed := hresume
  unfold resumeSend at hresumed
  split at hresumed
  · cases hresumed
  · next i w hplace =>
    obtain ⟨hw, rfl⟩ := mem_of_place? hplace
    rw [hplace, Option.bind_some, hresume]
    dsimp only at hresumed
    split_ifs at hresumed
    · cases hresumed
      exact .denied hw
    · cases hresumed
      exact .granted hw

/-- What an event means for the sends. -/
theorem Station.sends_after (h : s.after event = some s') :
    s.endpoint.sends.Step (s.outcome? event) s'.endpoint.sends := by
  have hrests (x : Endpoint) (hx : x.sends = s.endpoint.sends) :
      s.endpoint.sends.Step none x.sends := by
    rw [hx]
    exact .rests
  cases event with
  | move m =>
    obtain ⟨e, he, rfl⟩ := Option.map_eq_some_iff.mp h
    by_cases hm : ∃ ticket, m = .resume ticket
    · obtain ⟨ticket, rfl⟩ := hm
      exact sends_resume he
    · have hnone : s.outcome? (.move m) = none := by
        cases m with
        | resume ticket => exact absurd ⟨ticket, rfl⟩ hm
        | _ => rfl
      rw [hnone]
      apply hrests
      apply sends_step (step_of_perform he)
      rintro ticket rfl
      exact hm ⟨ticket, rfl⟩
  | send frame =>
    cases h
    rcases hsend : s.endpoint.send frame with ⟨sending, x⟩
    have hsent := sent_send s.endpoint frame
    rw [hsend] at hsent
    cases hsent with
    | refused =>
      rw [outcome?, hsend]
      exact .refused frame
    | accepted =>
      rw [outcome?, hsend]
      exact .accepted frame
    | waits =>
      rw [outcome?, hsend]
      exact .waits frame
  | withdraw ticket =>
    cases h
    exact .withdrawn ticket
  | takeInbound =>
    cases h
    apply hrests
    dsimp only
    unfold Endpoint.takeInbound
    split <;> rfl
  | receive =>
    cases h
    apply hrests
    dsimp only
    unfold Endpoint.receive
    split <;> rfl
  | dropOwner =>
    cases h
    exact hrests _ (sends_dropOwner _)
  | close code =>
    cases h
    exact hrests _ (sends_close _ _ code)
  | shutDown =>
    cases h
    exact hrests _ (sends_close _ _ CloseCode.normal)
  | cancel =>
    cases h
    apply hrests
    rw [Endpoint.cancel, finish_eq]
    rfl
  | _ =>
    cases h
    exact .rests

/-- What came to its end in a run is what was accepted and refused. -/
theorem Station.returned_run (hrun : s.run events = some s') (ht : s.endpoint.sends.IsTallied) :
    s'.endpoint.accepted = s.endpoint.accepted ++ succeeded (s.returned events) ∧
      s'.endpoint.refused = s.endpoint.refused ++ failed (s.returned events) ∧
      s'.endpoint.sends.IsTallied := by
  induction events generalizing s with
  | nil =>
    obtain rfl := Option.some.inj hrun
    simpa [returned, succeeded, failed] using ht
  | cons event events ih =>
    obtain ⟨t, hafter, hrest⟩ := Option.bind_eq_some_iff.mp hrun
    have hstep := Station.sends_after hafter
    obtain ⟨haccepted, hrefused⟩ := hstep.ends
    obtain ⟨haccepted', hrefused', ht'⟩ := ih hrest (ht.step hstep)
    have hreturned : s.returned (event :: events)
        = (s.outcome? event).toList ++ t.returned events := by
      rw [returned, hafter]
    refine ⟨?_, ?_, ht'⟩
    · rw [haccepted', hreturned, show t.endpoint.accepted = _ from haccepted]
      simp [succeeded, sends]
    · rw [hrefused', hreturned, show t.endpoint.refused = _ from hrefused]
      simp [failed, sends]

/-- Settings stay as they are. -/
theorem Station.settings_run (hrun : s.run events = some s') :
    s'.endpoint.settings = s.endpoint.settings := by
  have hstable : IsStable fun _ e => e.settings = s.endpoint.settings :=
    ⟨fun h he => (Follows.act h).settings.trans he, fun _ => id, fun _ => id, fun _ => id⟩
  exact hstable.run (fun _ => id) hrun rfl

/-- A new endpoint and its clock. -/
def Station.opening (settings : Settings) (now : Nat) : Station := ⟨now, .start settings now, false⟩

/-- In a run from the beginning, all that was accepted and refused came to its end in it. -/
theorem Station.returned_opening {settings : Settings}
    (hrun : (Station.opening settings now).run events = some s) :
    s.endpoint.accepted = succeeded ((Station.opening settings now).returned events) ∧
      s.endpoint.refused = failed ((Station.opening settings now).returned events) ∧
      s.endpoint.sends.IsTallied := by
  have hstart : (Station.opening settings now).endpoint.sends.IsTallied := List.Perm.refl _
  exact Station.returned_run hrun hstart

/-- Every send comes to one end at most, and has a ticket of its own. -/
theorem Station.nodup_returned {settings : Settings}
    (hrun : (Station.opening settings now).run events = some s) :
    (((Station.opening settings now).returned events).map (·.1.ticket)).Nodup := by
  obtain ⟨haccepted, hrefused, htallied⟩ := Station.returned_opening hrun
  generalize (Station.opening settings now).returned events = outcomes at *
  have hends : (s.endpoint.accepted ++ s.endpoint.refused).Perm (outcomes.map (·.1)) := by
    rw [haccepted, hrefused, succeeded, failed, ← List.map_append]
    exact (List.filter_append_perm (·.2) outcomes).map (·.1)
  have hall : (s.endpoint.sends.all.map (·.ticket)).Nodup := htallied.nodup_iff.mpr List.nodup_range
  have hsub : (s.endpoint.accepted ++ s.endpoint.refused).Sublist s.endpoint.sends.all := by
    rw [Sends.all, List.append_assoc]
    exact List.sublist_append_left _ _
  have hticket : (outcomes.map (·.1)).map (·.ticket) = outcomes.map (·.1.ticket) := List.map_map
  rw [← hticket]
  exact (hends.map (·.ticket)).nodup_iff.mp (hall.sublist (hsub.map _))

end

end Switchboard.Endpoint
