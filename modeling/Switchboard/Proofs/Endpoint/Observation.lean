import Switchboard.Proofs.Endpoint.Outputs
import Switchboard.Proofs.Endpoint.Reading
/-!
# What is seen of a run

A run can be watched from outside. What is seen of its events is a list, in their order
(`Station.observe`), and what every event keeps between the state and the list so far holds of the
whole run (`Station.observe_run`). What arrives is seen by itself (`arrived`): the reader has taken
the first of it, and the rest still waits in the socket (`Station.seen_run`).
-/

namespace Switchboard

namespace Wire

/-- Whether something is too large for a reader: a data message that is longer than its limit, or
what the socket refuses for its size. -/
def Arrival.isTooLarge (limit : Nat) : Arrival → Bool
  | .message m => m.frame?.any (limit < ·.length)
  | .failure err => err.isTooLarge
  | .finish => false

/-- A message is too large when it carries a frame that is. -/
theorem isTooLarge_message {limit : Nat} {m : Message} :
    (Arrival.message m).isTooLarge limit = true ↔ ∃ f, m.content = .data f ∧ limit < f.length := by
  simp only [Arrival.isTooLarge, Option.any_eq_true, decide_eq_true_eq, content_eq_data]

end Wire

namespace Endpoint

open Wire

/-! ### Definitions -/

/-- What is seen in a run, when this is what is seen of each event. -/
def Station.observe {α : Type} (f : Station → Event → Option α) (s : Station) : List Event → List α
  | [] => []
  | event :: events => (f s event).toList ++
    match s.after event with
    | some s => s.observe f events
    | none => []

/-- What arrives in a run. -/
def arrived (events : List Event) : List Arrival := events.filterMap Event.arrival?

/-- Whether all events of a run are of this kind. -/
def Station.always (p : Station → Event → Bool) (s : Station) : List Event → Bool
  | [] => true
  | event :: events => p s event && (s.after event).all (·.always p events)

/-- The events of a run that are not of this kind. -/
def Station.lapses (p : Station → Event → Bool) (s : Station) (events : List Event) : List Event :=
  s.observe (fun s event => if p s event then none else some event) events

/-- Whether an event neither moves a part of the endpoint nor asks for its end. -/
def Event.isQuiet : Event → Bool
  | .move _ => false
  | .close _ => false
  | .cancel => false
  | .shutDown => false
  | _ => true

/-- The lifetime goes on, or has ended, as before, and so does a shutdown. -/
structure Undisturbed (e e' : Endpoint) : Prop where
  ending : e'.ending = e.ending
  requested : e'.requested = e.requested
  heard : e'.heard = e.heard
  shutdown : e'.shutdown = e.shutdown

section

variable {α : Type} {f : Station → Event → Option α} {p q : Station → Event → Bool}
  {s s' : Station} {event : Event} {events : List Event}

/-! ### Runs in parts -/

/-- Events after events. -/
theorem Station.run_append {later : List Event} (h : s.run (events ++ later) = some s') :
    ∃ t, s.run events = some t ∧ t.run later = some s' := by
  induction events generalizing s with
  | nil => exact ⟨s, rfl, h⟩
  | cons event events ih =>
    obtain ⟨t, ht, hrest⟩ := Option.bind_eq_some_iff.mp h
    obtain ⟨u, hu, hlater⟩ := ih hrest
    exact ⟨u, Option.bind_eq_some_iff.mpr ⟨t, ht, hu⟩, hlater⟩

/-- A run that begins as another one goes on from where that has led. -/
theorem Station.run_of_prefix {t : Station} {later : List Event} (ht : s.run events = some t)
    (h : s.run (events ++ later) = some s') : t.run later = some s' := by
  obtain ⟨u, hu, hlater⟩ := Station.run_append h
  rw [ht] at hu
  obtain rfl := Option.some.inj hu
  exact hlater

/-- Settings stay as they are. -/
theorem Station.settings_after (h : s.after event = some s') :
    s'.endpoint.settings = s.endpoint.settings := by
  have hrun : s.run [event] = some s' := Option.bind_eq_some_iff.mpr ⟨s', h, rfl⟩
  exact Station.settings_run hrun

/-- What is seen of the first event comes first. -/
theorem Station.observe_cons (h : s.after event = some s') :
    s.observe f (event :: events) = (f s event).toList ++ s'.observe f events := by
  rw [observe, h]

/-- What every event of a kind keeps between the state and what was seen so far holds of a run in
which all events are of this kind. -/
theorem Station.always_observe {R : Station → List α → Prop}
    (hafter : ∀ {s t : Station} {event : Event} {l : List α}, s.after event = some t →
      p s event = true → R s l → R t (l ++ (f s event).toList))
    {l : List α} (hrun : s.run events = some s') (halways : s.always p events = true) (h : R s l) :
    R s' (l ++ s.observe f events) := by
  induction events generalizing s l with
  | nil =>
    obtain rfl := Option.some.inj hrun
    rwa [observe, List.append_nil]
  | cons event events ih =>
    obtain ⟨t, ht, hrest⟩ := Option.bind_eq_some_iff.mp hrun
    simp only [always, Bool.and_eq_true, Option.all_eq_true] at halways
    rw [Station.observe_cons ht, ← List.append_assoc]
    exact ih hrest (halways.2 t ht) (hafter ht halways.1 h)

/-- Every run is one of events of any kind. -/
theorem Station.always_of_forall (h : ∀ s event, p s event = true) :
    s.always p events = true := by
  induction events generalizing s with
  | nil => rfl
  | cons event events ih =>
    simp only [always, Bool.and_eq_true, Option.all_eq_true]
    exact ⟨h s event, fun t _ => ih⟩

/-- What every event keeps between the state and what was seen so far holds of the whole run. -/
theorem Station.observe_run {R : Station → List α → Prop}
    (hafter : ∀ {s t : Station} {event : Event} {l : List α}, s.after event = some t → R s l →
      R t (l ++ (f s event).toList))
    {l : List α} (hrun : s.run events = some s') (h : R s l) :
    R s' (l ++ s.observe f events) :=
  Station.always_observe (p := fun _ _ => true) (fun ht _ => hafter ht) hrun
    (always_of_forall fun _ _ => rfl) h

/-- Events that are of a kind and therefore of another. -/
theorem Station.always_mono (hpq : ∀ s event, p s event = true → q s event = true)
    (hp : s.always p events = true) : s.always q events = true := by
  induction events generalizing s with
  | nil => rfl
  | cons event events ih =>
    simp only [always, Bool.and_eq_true, Option.all_eq_true] at hp ⊢
    exact ⟨hpq s event hp.1, fun t ht => ih (hp.2 t ht)⟩

/-- Where all events are of a kind there are none that are not. -/
theorem Station.lapses_eq_nil (h : s.always p events = true) : s.lapses p events = [] := by
  induction events generalizing s with
  | nil => rfl
  | cons event events ih =>
    simp only [always, Bool.and_eq_true, Option.all_eq_true] at h
    unfold lapses observe
    rw [if_pos h.1]
    cases ht : s.after event with
    | none => rfl
    | some t => exact ih (h.2 t ht)

/-! ### Quiet events -/

/-- An owner that lets go does not end the lifetime. -/
theorem Undisturbed.dropOwner (e : Endpoint) : Undisturbed e e.dropOwner := by
  rw [dropOwner_eq]
  split_ifs <;> exact ⟨rfl, rfl, rfl, rfl⟩

/-- A quiet event does not disturb the lifetime. -/
theorem Undisturbed.of_isQuiet (h : s.after event = some s') (hq : event.isQuiet = true) :
    Undisturbed s.endpoint s'.endpoint := by
  cases event with
  | move | close | cancel | shutDown => cases hq
  | send frame =>
    cases h
    have hs := sent_send s.endpoint frame
    generalize s.endpoint.send frame = sent at hs
    cases hs <;> exact ⟨rfl, rfl, rfl, rfl⟩
  | takeInbound =>
    cases h
    dsimp only
    unfold Endpoint.takeInbound
    split <;> exact ⟨rfl, rfl, rfl, rfl⟩
  | receive =>
    cases h
    dsimp only
    unfold Endpoint.receive
    split <;> exact ⟨rfl, rfl, rfl, rfl⟩
  | dropOwner =>
    cases h
    exact .dropOwner _
  | _ =>
    cases h
    exact ⟨rfl, rfl, rfl, rfl⟩

/-! ### Settled states -/

/-- Every move that is possible is among those that are tried. -/
theorem mem_order {e : Endpoint} {now : Nat} {m : Move} (h : e.perform now m ≠ none) :
    m ∈ e.order false := by
  cases m with
  | resume ticket =>
    have hplace : e.place? ticket ≠ none := by
      intro hnone
      simp [perform, resumeSend, hnone] at h
    obtain ⟨⟨i, w⟩, hw⟩ := Option.ne_none_iff_exists'.mp hplace
    obtain ⟨hmem, rfl⟩ := mem_of_place? hw
    simp only [order, List.mem_append, List.mem_map]
    exact Or.inl (Or.inl (Or.inl ⟨w, hmem, rfl⟩))
  | _ => simp [order]

/-- An endpoint is settled when none of the moves that are tried is possible. -/
theorem settled_iff {e : Endpoint} {now : Nat} :
    Settled now e ↔ ∀ m ∈ e.order false, (e.perform now m).isNone = true := by
  constructor
  · intro h m _
    rw [h m]
    rfl
  · intro h m
    by_contra hm
    exact hm (Option.isNone_iff_eq_none.mp (h m (mem_order hm)))

instance {now : Nat} {e : Endpoint} : Decidable (Settled now e) := decidable_of_iff' _ settled_iff

/-! ### What arrives -/

/-- Nothing arrives by what a holder does. -/
theorem Event.arrival?_of_isHolders (h : event.isHolders = true) : event.arrival? = none := by
  cases event with
  | arrive => cases h
  | _ => rfl

/-- What arrives by an event comes last. -/
theorem Station.seen_after (h : s.after event = some s') :
    s'.endpoint.seen = s.endpoint.seen ++ event.arrival?.toList := by
  cases Station.turn h with
  | move hstep => exact (seen_step hstep).trans (List.append_nil _).symm
  | use huse ha =>
    rw [seen_act huse.act, Event.arrival?_of_isHolders ha, Option.toList_none, List.append_nil]
  | handles _ ha =>
    rw [Event.arrival?_of_isHolders ha, Option.toList_none, List.append_nil]
    rfl
  | arrive a => exact (List.append_assoc _ _ _).symm
  | setFlow | tick => exact (List.append_nil _).symm

/-- What has arrived is what the reader has taken and what still waits for it. -/
theorem Station.seen_run (hrun : s.run events = some s') :
    s'.endpoint.seen = s.endpoint.seen ++ arrived events := by
  induction events generalizing s with
  | nil =>
    obtain rfl := Option.some.inj hrun
    exact (List.append_nil _).symm
  | cons event events ih =>
    obtain ⟨t, ht, hrest⟩ := Option.bind_eq_some_iff.mp hrun
    have harrived : arrived (event :: events) = event.arrival?.toList ++ arrived events := by
      cases ha : event.arrival? <;> simp [arrived, ha]
    rw [ih hrest, Station.seen_after ht, harrived, List.append_assoc]

end

end Endpoint

end Switchboard
