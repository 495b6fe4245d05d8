import Switchboard.Proofs.Endpoint.Act
/-!
# What an endpoint reads

A reader that meets the end of what arrives, because the other side closes or its socket fails or
ends, stops there, with all frames that came before in the inbound queue (`Heeds`). The end of the
queue shows only when the queue is empty, and so all of them were received then (`Drained`). No
frame gets into the queue that is longer than the endpoint's limit (`IsSized`).
-/

namespace Switchboard

namespace Wire

/-- Whether this is the end of what arrives: the other side closes, or the socket fails or ends. -/
def Arrival.isEnd : Arrival → Bool
  | .message (.close _) => true
  | .message _ => false
  | .failure _ => true
  | .finish => true

/-- The frames that arrive before the first end. -/
def framesBeforeEnd (arrivals : List Arrival) : List Bytes :=
  (arrivals.takeWhile (!·.isEnd)).filterMap Arrival.frame?

/-- A message that closes is the only one that is an end. -/
theorem isEnd_message {m : Message} :
    (Arrival.message m).isEnd = true ↔ ∃ code, m.content = .close code := by
  cases m <;> simp [Arrival.isEnd, Message.content]

/-- No frame arrives with an end. -/
theorem frame?_of_isEnd {a : Arrival} (h : a.isEnd = true) : a.frame? = none := by
  cases a with
  | message m =>
    obtain ⟨code, hm⟩ := isEnd_message.mp h
    exact frame?_eq_none (by simp [hm])
  | failure | finish => rfl

/-- What arrives before an end, when it is the first. -/
theorem framesBeforeEnd_append {before : List Arrival} (hbefore : ∀ b ∈ before, b.isEnd = false)
    {a : Arrival} (ha : a.isEnd = true) (rest : List Arrival) :
    framesBeforeEnd (before ++ a :: rest) = before.filterMap Arrival.frame? := by
  have hall : ∀ b ∈ before, (!b.isEnd) = true := by
    intro b hb
    rw [hbefore b hb]
    rfl
  rw [framesBeforeEnd, List.takeWhile_append_of_pos hall, List.takeWhile_cons_of_neg (by simp [ha]),
    List.append_nil]

end Wire

namespace Endpoint

open Wire

/-! ### Definitions -/

/-- The reader has met an end. -/
def HasMet (e : Endpoint) : Prop := ∃ a ∈ e.taken, a.isEnd = true

/-- A reader that has met an end takes nothing more, and all frames that it took before can be
received. -/
structure Heeds (e : Endpoint) : Prop where
  stopped : e.HasMet → e.reader = .stopped
  last : e.HasMet → ∃ before a, e.taken = before ++ [a] ∧ a.isEnd = true ∧
    ∀ b ∈ before, b.isEnd = false
  whole : e.HasMet → e.consumer ≠ .gone → e.framesTaken = e.received ++ e.inbound

/-- The frames that were let in are no longer than a limit, which is at least that of the reader. -/
structure IsSized (limit : Nat) (e : Endpoint) : Prop where
  settings : e.settings.maxMessageSize ≤ limit
  frames : ∀ f ∈ e.received ++ e.inbound ++ e.reader.held, f.length ≤ limit

/-- No frame will be received any more, and if the reader has met an end then none is missing. -/
structure Drained (e : Endpoint) : Prop where
  stopped : e.reader = .stopped
  empty : e.inbound = []
  whole : e.HasMet → e.received = e.framesTaken

section

variable {e e' : Endpoint} {now : Nat} {m : Move} {a : Arrival} {rest : List Arrival}

/-- What was taken before an end are the frames that arrived before the first end. -/
theorem Heeds.framesTaken_eq (h : Heeds e) (hmet : e.HasMet) :
    e.framesTaken = framesBeforeEnd e.seen := by
  obtain ⟨before, a, htaken, ha, hbefore⟩ := h.last hmet
  have hseen : e.seen = before ++ a :: e.arrivals := by
    rw [seen, htaken, List.append_assoc, List.singleton_append]
  rw [hseen, framesBeforeEnd_append hbefore ha, framesTaken, htaken, List.filterMap_append,
    List.filterMap_cons_none (frame?_of_isEnd ha), List.filterMap_nil, List.append_nil]

/-! ### The reader -/

/-- The reader rests: at most something leaves the inbound queue. -/
structure Awaits (e e' : Endpoint) : Prop where
  reader : e'.reader = e.reader
  taken : e'.taken = e.taken
  arrivals : e'.arrivals = e.arrivals
  inbound : e'.inbound <:+ e.inbound
  received : e.inbound = [] → e'.received = e.received
  begins : e'.received ++ e'.inbound <+: e.received ++ e.inbound
  queue : e'.consumer ≠ .gone → e.consumer ≠ .gone ∧
    e'.received ++ e'.inbound = e.received ++ e.inbound

/-- What an act can mean for the reader. -/
inductive ReaderAct (now : Nat) (e e' : Endpoint) : Prop
  | work {m : Move} (h : ReaderStep now e m e')
  | rests (h : Awaits e e')

/-- The reader rests while nothing that it holds changes. -/
theorem Awaits.of_eq (hr : e'.reader = e.reader) (ht : e'.taken = e.taken)
    (ha : e'.arrivals = e.arrivals) (hi : e'.inbound = e.inbound) (hv : e'.received = e.received)
    (hc : e'.consumer = e.consumer) : Awaits e e' :=
  ⟨hr, ht, ha, hi ▸ List.suffix_rfl, fun _ => hv, by rw [hv, hi],
    fun h => ⟨hc ▸ h, by rw [hv, hi]⟩⟩

/-- The reader rests while the queue is dropped. -/
theorem Awaits.dropInbound (e : Endpoint) : Awaits e e.dropInbound :=
  ⟨rfl, rfl, rfl, List.nil_suffix, fun _ => rfl, by simp [Endpoint.dropInbound],
    fun h => absurd rfl h⟩

/-- The reader rests while its owner lets go. -/
theorem Awaits.dropOwner (e : Endpoint) : Awaits e e.dropOwner := by
  have hfree : Awaits e { e with isOwned := false } := .of_eq rfl rfl rfl rfl rfl rfl
  rw [dropOwner_eq]
  split_ifs
  · have hdrop := Awaits.dropInbound { e with isOwned := false }
    exact ⟨hdrop.1, hdrop.2, hdrop.3, hdrop.4, hdrop.5, hdrop.6, hdrop.7⟩
  · exact hfree

/-- The reader rests while the endpoint is closed. -/
theorem Awaits.close (e : Endpoint) (now : Nat) (code : CloseCode) :
    Awaits e (e.close now code) := by
  rw [close_eq]
  exact .of_eq rfl rfl rfl rfl rfl rfl

/-- The reader rests while a frame is received. -/
theorem Awaits.receive (e : Endpoint) : Awaits e e.receive.2 := by
  unfold Endpoint.receive
  split
  · next f rest hi =>
    have hqueue : e.received ++ [f] ++ rest = e.received ++ e.inbound := by
      rw [hi, List.append_assoc, List.singleton_append]
    refine ⟨rfl, rfl, rfl, hi ▸ List.suffix_cons f rest, fun h => ?_, hqueue ▸ List.prefix_rfl,
      fun h => ⟨h, hqueue⟩⟩
    cases hi.symm.trans h
  · exact .of_eq rfl rfl rfl rfl rfl rfl

/-- What a step means for the reader. -/
theorem readerAct_of_step (h : Step now e m e') : ReaderAct now e e' := by
  cases h with
  | reader h => exact .work h
  | writer h =>
    cases h with
    | take | ping | wrote => exact .rests (.of_eq rfl rfl rfl rfl rfl rfl)
    | _ =>
      rw [beginFarewell_eq]
      exact .rests (.of_eq rfl rfl rfl rfl rfl rfl)
  | farewell _ h => cases h <;> exact .rests (.of_eq rfl rfl rfl rfl rfl rfl)
  | accepted | refused | writerGone | aborted => exact .rests (.of_eq rfl rfl rfl rfl rfl rfl)
  | readerGone =>
    have h : Awaits e e.dropOwner := .dropOwner e
    exact .rests { h with }

/-- The reader rests while a holder uses the endpoint. -/
theorem Use.awaits (h : Use now e e') : Awaits e e' := by
  cases h with
  | send frame =>
    rcases hsent : e.send frame with ⟨sending, x⟩
    have hs := sent_send e frame
    rw [hsent] at hs
    cases hs <;> exact .of_eq rfl rfl rfl rfl rfl rfl
  | takeInbound =>
    unfold Endpoint.takeInbound
    split
    · next hc =>
      refine ⟨rfl, rfl, rfl, List.suffix_rfl, fun _ => rfl, List.prefix_rfl, fun _ => ⟨?_, rfl⟩⟩
      simp [hc]
    · exact .of_eq rfl rfl rfl rfl rfl rfl
  | receive => exact .receive e
  | dropInbound => exact .dropInbound e
  | dropOwner => exact .dropOwner e
  | withdraw => exact .of_eq rfl rfl rfl rfl rfl rfl
  | close code => exact .close e now code
  | shutDown =>
    have h : Awaits e (e.close now CloseCode.normal) := .close e now _
    exact { h with }
  | cancel =>
    rw [Endpoint.cancel, finish_eq]
    exact .of_eq rfl rfl rfl rfl rfl rfl

/-- What an act means for the reader. -/
theorem readerAct_of_act (h : Act now e e') : ReaderAct now e e' := by
  rcases h.step_or_use with ⟨m, h⟩ | h
  · exact readerAct_of_step h
  · exact .rests h.awaits

/-- No act makes anything arrive. -/
theorem seen_act (h : Act now e e') : e'.seen = e.seen := by
  cases readerAct_of_act h with
  | work h => exact seen_step (.reader h)
  | rests h => rw [seen, seen, h.taken, h.arrivals]

/-! ### Every act -/

/-- A reader that has not met an end has nothing to heed. -/
theorem Heeds.of_not_hasMet (h : ¬e.HasMet) : Heeds e :=
  ⟨fun hmet => absurd hmet h, fun hmet => absurd hmet h, fun hmet => absurd hmet h⟩

/-- A reader that goes on has not met an end. -/
theorem Heeds.not_hasMet (h : Heeds e) (hr : e.reader ≠ .stopped) : ¬e.HasMet :=
  fun hmet => hr (h.stopped hmet)

/-- A reader that takes something else has not met an end by that. -/
theorem Heeds.pass (h : Heeds e) (hr : e.reader ≠ .stopped) (ha : a.isEnd = false)
    (ht : e'.taken = e.taken ++ [a]) : Heeds e' := by
  apply Heeds.of_not_hasMet
  rintro ⟨b, hb, hend⟩
  rw [ht, List.mem_append, List.mem_singleton] at hb
  rcases hb with hb | rfl
  · exact h.not_hasMet hr ⟨b, hb, hend⟩
  · rw [ha] at hend
    cases hend

/-- A reader that listens and meets an end stops with all frames in the queue. -/
theorem Heeds.meet (h : Heeds e) (hl : Incoming e) (hr : e.reader = .listening)
    (ha : a.isEnd = true) (ht : e'.taken = e.taken ++ [a]) (hr' : e'.reader = .stopped)
    (hv : e'.received = e.received) (hi : e'.inbound = e.inbound)
    (hc : e'.consumer = e.consumer) : Heeds e' := by
  refine ⟨fun _ => hr', fun _ => ⟨e.taken, a, ht, ha, ?_⟩, fun _ hgone => ?_⟩
  · intro b hb
    by_contra hend
    exact h.not_hasMet (by simp [hr]) ⟨b, hb, Bool.of_not_eq_false hend⟩
  · have hwhole := hl.received_whole (by simp [hr]) (hc ▸ hgone)
    have hheld : e.reader.held = [] := by
      rw [hr]
      rfl
    rw [hheld, List.append_nil] at hwhole
    rw [framesTaken, ht, List.filterMap_append, List.filterMap_cons_none (frame?_of_isEnd ha),
      List.filterMap_nil, List.append_nil, hv, hi]
    exact hwhole

/-- The reader heeds an end. -/
theorem Heeds.readerStep (h : ReaderStep now e m e') (hl : Incoming e) (hh : Heeds e) :
    Heeds e' := by
  have hmessage {m : Message} (hm : ∀ code, m.content ≠ .close code) :
      (Arrival.message m).isEnd = false := by
    by_contra hend
    obtain ⟨code, hcode⟩ := isEnd_message.mp (Bool.of_not_eq_false hend)
    exact hm code hcode
  cases h with
  | data hr _ hm => exact hh.pass (by simp [hr]) (hmessage (by simp [hm])) rfl
  | pong hr _ hm => exact hh.pass (by simp [hr]) (hmessage (by simp [hm])) rfl
  | other hr _ hm =>
    refine hh.pass (by simp [hr]) (hmessage fun code hcode => ?_) rfl
    rcases hm with hm | hm <;> simp [hm] at hcode
  | oversized hr _ hm =>
    rw [stopReader_eq]
    exact hh.pass (by simp [hr]) (hmessage (by simp [hm])) rfl
  | closed hr _ hm =>
    rw [stopReader_eq]
    exact hh.meet hl hr (isEnd_message.mpr ⟨_, hm⟩) rfl rfl rfl rfl rfl
  | refused hr | failed hr | finished hr =>
    rw [stopReader_eq]
    exact hh.meet hl hr rfl rfl rfl rfl rfl rfl
  | expired hr | unwanted hr =>
    rw [stopReader_eq]
    exact .of_not_hasMet (hh.not_hasMet (by simp [hr]))
  | ended hr =>
    rw [stopReader_eq]
    exact .of_not_hasMet (hh.not_hasMet hr)
  | delivered hr => exact .of_not_hasMet (hh.not_hasMet (by simp [hr]))

/-- A reader that rests heeds what it has met. -/
theorem Heeds.awaits (h : Awaits e e') (hh : Heeds e) : Heeds e' := by
  have hmet (hmet' : e'.HasMet) : e.HasMet := by
    unfold HasMet at hmet' ⊢
    rwa [h.taken] at hmet'
  refine ⟨fun hm => h.reader.trans (hh.stopped (hmet hm)), fun hm => ?_, fun hm hgone => ?_⟩
  · rw [h.taken]
    exact hh.last (hmet hm)
  · obtain ⟨hgone', hqueue⟩ := h.queue hgone
    rw [framesTaken, h.taken, hqueue]
    exact hh.whole (hmet hm) hgone'

/-- What arrives later is not taken. -/
theorem Heeds.of_eq (hh : Heeds e) (hr : e'.reader = e.reader) (ht : e'.taken = e.taken)
    (hi : e'.inbound = e.inbound) (hv : e'.received = e.received)
    (hc : e'.consumer = e.consumer) : Heeds e' := by
  obtain ⟨hstopped, hlast, hwhole⟩ := hh
  constructor
  · rwa [HasMet, hr, ht]
  · rwa [HasMet, ht]
  · rwa [HasMet, framesTaken, ht, hc, hv, hi]

/-- At the beginning no end was met. -/
theorem Heeds.start (settings : Settings) (now : Nat) : Heeds (start settings now) := by
  apply Heeds.of_not_hasMet
  rintro ⟨a, ha, -⟩
  cases ha

/-- To heed an end is stable. -/
theorem isStable_heeds : IsStable fun _ e => Ledger e ∧ Heeds e where
  act h hp := by
    refine ⟨hp.1.act h, ?_⟩
    cases readerAct_of_act h with
    | work h => exact hp.2.readerStep h hp.1.incoming
    | rests h => exact hp.2.awaits h
  arrive a hp := ⟨hp.1.arrive a, hp.2.of_eq rfl rfl rfl rfl rfl⟩
  setFlow flow hp := ⟨hp.1.setFlow flow, hp.2.of_eq rfl rfl rfl rfl rfl⟩
  later _ := id

/-! ### The end of the queue -/

/-- When the end shows, no frame is missing. -/
theorem Drained.dropInbound (hh : Heeds e) (hc : e.consumer ≠ .gone)
    (he : e.receive.1 = .ended) : Drained e.dropInbound := by
  unfold Endpoint.receive at he
  split at he
  · cases he
  · next hi =>
    split_ifs at he with hr
    refine ⟨hr, rfl, fun hmet => ?_⟩
    have hwhole := hh.whole hmet hc
    rw [hi, List.append_nil] at hwhole
    exact hwhole.symm

/-- What arrives later does not count. -/
theorem Drained.of_eq (h : Drained e) (hr : e'.reader = e.reader) (ht : e'.taken = e.taken)
    (hi : e'.inbound = e.inbound) (hv : e'.received = e.received) : Drained e' := by
  obtain ⟨hstopped, hempty, hwhole⟩ := h
  refine ⟨hr.trans hstopped, hi.trans hempty, ?_⟩
  rwa [HasMet, framesTaken, ht, hv]

/-- A queue that has come to its end stays so. -/
theorem isStable_drained : IsStable fun _ e => Drained e where
  act h hd := by
    cases readerAct_of_act h with
    | work h =>
      cases h with
      | ended hr => exact absurd hd.stopped hr
      | data hr | pong hr | other hr | oversized hr | closed hr | refused hr | failed hr
      | finished hr | expired hr | unwanted hr | delivered hr => cases hr.symm.trans hd.stopped
    | rests h =>
      refine ⟨h.reader.trans hd.stopped, ?_, fun hmet => ?_⟩
      · have hsuffix := h.inbound
        rwa [hd.empty, List.suffix_nil] at hsuffix
      · rw [h.received hd.empty, framesTaken, h.taken]
        apply hd.whole
        unfold HasMet at hmet ⊢
        rwa [h.taken] at hmet
  arrive a hd := hd.of_eq rfl rfl rfl rfl
  setFlow flow hd := hd.of_eq rfl rfl rfl rfl
  later _ := id

/-! ### Sizes -/

/-- At the beginning no frame was let in. -/
theorem IsSized.start {limit : Nat} {settings : Settings} (h : settings.maxMessageSize ≤ limit)
    (now : Nat) : IsSized limit (start settings now) :=
  ⟨h, List.forall_mem_nil _⟩

/-- The reader lets in no frame that is longer than its limit. -/
theorem frames_readerStep {limit : Nat} (h : ReaderStep now e m e') (hs : IsSized limit e) :
    ∀ f ∈ e'.received ++ e'.inbound ++ e'.reader.held, f.length ≤ limit := by
  have hqueue : ∀ f ∈ e.received ++ e.inbound, f.length ≤ limit := fun f hf =>
    hs.frames f (List.mem_append_left _ hf)
  have hstopped : ∀ f ∈ e.received ++ e.inbound ++ Reader.stopped.held, f.length ≤ limit := by
    rwa [show Reader.stopped.held = [] from rfl, List.append_nil]
  cases h with
  | data _ _ _ hlength =>
    refine List.forall_mem_append.mpr ⟨hqueue, ?_⟩
    rintro f hf
    obtain rfl := List.mem_singleton.mp hf
    exact hlength.trans hs.settings
  | pong | other => exact hs.frames
  | oversized | closed | refused | failed | finished | expired | unwanted | ended =>
    rw [stopReader_eq]
    exact hstopped
  | @delivered frame hr =>
    have hall := hs.frames
    rw [hr] at hall
    simpa [Reader.held] using hall

/-- That no frame is let in that is longer than a limit is stable. -/
theorem isStable_sized (limit : Nat) : IsStable fun _ e => IsSized limit e where
  act h hs := by
    refine ⟨(Follows.act h).settings ▸ hs.settings, ?_⟩
    cases readerAct_of_act h with
    | work h => exact frames_readerStep h hs
    | rests h =>
      obtain ⟨hqueue, hheld⟩ := List.forall_mem_append.mp hs.frames
      rw [h.reader]
      exact List.forall_mem_append.mpr ⟨fun f hf => hqueue f (h.begins.subset hf), hheld⟩
  arrive _ hs := ⟨hs.settings, hs.frames⟩
  setFlow _ hs := ⟨hs.settings, hs.frames⟩
  later _ := id

end

end Endpoint

end Switchboard
