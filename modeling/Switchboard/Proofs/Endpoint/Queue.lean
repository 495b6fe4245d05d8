import Switchboard.Proofs.Endpoint.Capacity
import Switchboard.Proofs.Endpoint.Retirement
/-!
# The place of a send that waits

The sends that wait stand in the order in which they were made, and so do their tickets (`Lined`).
A send waits for those before it and for itself: so many frames have to leave the queue before it
can go on (`ahead`). Nothing that happens to an endpoint makes them more, whoever else sends; and a
writer that begins a write takes one of them, or else it is a ping that it takes up (`Advances`).

What a relay has left to receive becomes less too, once the reader has stopped
(`isStable_left`).
-/

namespace Switchboard.Endpoint

/-! ### Definitions -/

/-- How many frames have to leave the queue before there is room for the send with a ticket and for
those that waited before it. -/
def ahead (e : Endpoint) (ticket : Nat) : Nat := e.waiting.countP (·.ticket ≤ ticket) - e.room

/-- An endpoint whose sends wait in the order in which they were made, for a queue that holds no
more than it may. -/
structure Lined (e : Endpoint) : Prop where
  ledger : Ledger e
  fits : Fits e
  ordered : e.waiting.Pairwise (·.ticket < ·.ticket)

/-- The writer takes up nothing, and no ticket is taken back. -/
structure Pauses (e e' : Endpoint) : Prop where
  tickets : e.tickets ≤ e'.tickets
  pings : e'.pings = e.pings
  writing {deadline : Nat} : e'.writer = .writing deadline → e.writer = .writing deadline

/-- What an act can mean for the queue and for the sends that wait for it. -/
inductive QueueAct (e e' : Endpoint) : Prop
  /-- No frame comes into the queue. -/
  | rests (hp : Pauses e e') (hw : e'.waiting = e.waiting)
    (ho : e'.outbound.length ≤ e.outbound.length)
  | takes (ht : e'.tickets = e.tickets) (hp : e'.pings = e.pings) (hw : e'.waiting = e.waiting)
    (ho : e'.outbound.length + 1 = e.outbound.length)
  | pings (ht : e'.tickets = e.tickets) (hp : e'.pings = e.pings + 1) (hw : e'.waiting = e.waiting)
    (ho : e'.outbound = e.outbound)
  /-- There is room for a new send and for all that wait. -/
  | passes (hp : Pauses e e') (hw : e'.waiting = e.waiting) (hr : e.waiting.length < e.room)
    (ho : e'.outbound.length = e.outbound.length + 1)
  | joins {frame : Bytes} (hp : Pauses e e') (hw : e'.waiting = e.waiting ++ [⟨e.tickets, frame⟩])
    (ht : e'.tickets = e.tickets + 1) (ho : e'.outbound = e.outbound)
  | leaves {ticket : Nat} (hp : Pauses e e')
    (hw : e'.waiting = e.waiting.filter (·.ticket ≠ ticket)) (ho : e'.outbound = e.outbound)
  /-- There is room for a send that waits. -/
  | granted {ticket i : Nat} {w : Waiting} (hp : Pauses e e')
    (hplace : e.place? ticket = some (i, w))
    (hw : e'.waiting = e.waiting.filter (·.ticket ≠ ticket)) (hi : i < e.room)
    (ho : e'.outbound.length = e.outbound.length + 1)

/-- One endpoint comes from another: no more frames have to leave the queue before the send with a
ticket can go on, and fewer if a write has begun that is none of a ping. -/
structure Advances (ticket : Nat) (e e' : Endpoint) : Prop where
  ahead : e'.ahead ticket ≤ e.ahead ticket
  pings : e.pings ≤ e'.pings
  writing {deadline : Nat} : 0 < e.ahead ticket → e'.ahead ticket = e.ahead ticket →
    e'.pings = e.pings → e'.writer = .writing deadline → e.writer = .writing deadline

section

variable {e e' e'' : Endpoint} {now ticket : Nat} {m : Move}

/-! ### Every act -/

/-- What a step means for the queue. -/
theorem queueAct_of_step (h : Step now e m e') : QueueAct e e' := by
  cases h with
  | reader h =>
    cases h with
    | data | pong | other | delivered => exact .rests ⟨Nat.le_refl _, rfl, id⟩ rfl (Nat.le_refl _)
    | _ =>
      rw [stopReader_eq]
      exact .rests ⟨Nat.le_refl _, rfl, id⟩ rfl (Nat.le_refl _)
  | writer h =>
    cases h with
    | take _ ho => exact .takes rfl rfl rfl (by rw [ho, List.length_cons])
    | ping => exact .pings rfl rfl rfl rfl
    | wrote => exact .rests ⟨Nat.le_refl _, rfl, nofun⟩ rfl (Nat.le_refl _)
    | _ =>
      rw [beginFarewell_eq]
      exact .rests ⟨Nat.le_refl _, rfl, nofun⟩ rfl (Nat.le_refl _)
  | farewell _ h =>
    cases h with
    | fetch ho => exact .rests ⟨Nat.le_refl _, rfl, nofun⟩ rfl (by simp [ho])
    | clear => exact .rests ⟨Nat.le_refl _, rfl, id⟩ rfl (Nat.le_refl _)
    | hungUp | failed | late => exact .rests ⟨Nat.le_refl _, rfl, nofun⟩ rfl (Nat.zero_le _)
    | _ => exact .rests ⟨Nat.le_refl _, rfl, nofun⟩ rfl (Nat.le_refl _)
  | accepted hplace _ _ hi =>
    exact .granted ⟨Nat.le_refl _, rfl, id⟩ hplace rfl hi (List.length_append ..)
  | refused => exact .leaves ⟨Nat.le_refl _, rfl, id⟩ rfl rfl
  | writerGone => exact .rests ⟨Nat.le_refl _, rfl, id⟩ rfl (Nat.le_refl _)
  | readerGone =>
    rw [dropOwner_eq]
    split_ifs <;> exact .rests ⟨Nat.le_refl _, rfl, id⟩ rfl (Nat.le_refl _)
  | aborted => exact .rests ⟨Nat.le_refl _, rfl, nofun⟩ rfl (Nat.zero_le _)

/-- What a use means for the queue. -/
theorem queueAct_of_use (h : Use now e e') : QueueAct e e' := by
  cases h with
  | send frame =>
    have hs := sent_send e frame
    generalize e.send frame = sent at hs
    cases hs with
    | refused => exact .rests ⟨Nat.le_succ _, rfl, id⟩ rfl (Nat.le_refl _)
    | accepted _ _ hr => exact .passes ⟨Nat.le_succ _, rfl, id⟩ rfl hr (List.length_append ..)
    | waits => exact .joins ⟨Nat.le_succ _, rfl, id⟩ rfl rfl rfl
  | takeInbound =>
    unfold Endpoint.takeInbound
    split <;> exact .rests ⟨Nat.le_refl _, rfl, id⟩ rfl (Nat.le_refl _)
  | receive =>
    unfold Endpoint.receive
    split <;> exact .rests ⟨Nat.le_refl _, rfl, id⟩ rfl (Nat.le_refl _)
  | dropOwner =>
    rw [dropOwner_eq]
    split_ifs <;> exact .rests ⟨Nat.le_refl _, rfl, id⟩ rfl (Nat.le_refl _)
  | dropInbound => exact .rests ⟨Nat.le_refl _, rfl, id⟩ rfl (Nat.le_refl _)
  | withdraw => exact .leaves ⟨Nat.le_refl _, rfl, id⟩ rfl rfl
  | close =>
    rw [close_eq]
    exact .rests ⟨Nat.le_refl _, rfl, id⟩ rfl (Nat.le_refl _)
  | shutDown =>
    rw [Endpoint.shutDown, close_eq]
    exact .rests ⟨Nat.le_refl _, rfl, id⟩ rfl (Nat.le_refl _)
  | cancel =>
    rw [Endpoint.cancel, finish_eq]
    exact .rests ⟨Nat.le_refl _, rfl, id⟩ rfl (Nat.le_refl _)

/-- What an act means for the queue. -/
theorem queueAct_of_act (h : Act now e e') : QueueAct e e' := by
  rcases h.step_or_use with ⟨m, h⟩ | h
  · exact queueAct_of_step h
  · exact queueAct_of_use h

/-- No ping is taken back. -/
theorem QueueAct.pings_le (h : QueueAct e e') : e.pings ≤ e'.pings := by
  cases h with
  | rests hp | passes hp | joins hp | leaves hp | granted hp => exact hp.pings.ge
  | takes _ hp => exact hp.ge
  | pings _ hp => exact hp ▸ Nat.le_succ _

/-- No ticket is taken back. -/
theorem QueueAct.tickets_le (h : QueueAct e e') : e.tickets ≤ e'.tickets := by
  cases h with
  | rests hp | passes hp | joins hp | leaves hp | granted hp => exact hp.tickets
  | takes ht | pings ht => exact ht.ge

/-! ### The order -/

/-- The sends that wait stay in order. -/
theorem QueueAct.ordered (h : QueueAct e e') (hl : Lined e) :
    e'.waiting.Pairwise (·.ticket < ·.ticket) := by
  have hordered := hl.ordered
  cases h with
  | rests _ hw | takes _ _ hw | pings _ _ hw | passes _ hw => rwa [hw]
  | leaves _ hw | granted _ _ hw =>
    rw [hw]
    exact hordered.filter _
  | joins _ hw =>
    rw [hw, List.pairwise_append]
    refine ⟨hordered, List.pairwise_singleton _ _, ?_⟩
    intro w hmem new hnew
    obtain rfl := List.mem_singleton.mp hnew
    exact hl.ledger.ticketed.fresh w (List.mem_append_right _ hmem)

/-- All that wait before a send stand before its place. -/
theorem Lined.countP_le_place (hl : Lined e) {later i : Nat} {w : Waiting}
    (hplace : e.place? later = some (i, w)) (hlt : ticket < later) :
    e.waiting.countP (·.ticket ≤ ticket) ≤ i := by
  obtain ⟨⟨x, j⟩, hfind, heq⟩ := Option.map_eq_some_iff.mp hplace
  obtain ⟨rfl, rfl⟩ := Prod.mk.inj heq
  obtain ⟨hj, hx⟩ := List.mem_zipIdx' (List.mem_of_find?_eq_some hfind)
  have hticket : x.ticket = later := by simpa using List.find?_some hfind
  have hsorted : (e.waiting.drop j).Pairwise (·.ticket < ·.ticket) := hl.ordered.drop
  have hrest : (e.waiting.drop j).countP (·.ticket ≤ ticket) = 0 := by
    rw [List.drop_eq_getElem_cons hj, ← hx] at hsorted ⊢
    rw [List.countP_eq_zero]
    intro y hy
    rw [decide_eq_true_eq, Nat.not_le]
    rcases List.mem_cons.mp hy with rfl | hy
    · rwa [hticket]
    · exact (hticket ▸ hlt).trans ((List.pairwise_cons.mp hsorted).1 y hy)
  calc e.waiting.countP (·.ticket ≤ ticket)
      = (e.waiting.take j).countP (·.ticket ≤ ticket)
          + (e.waiting.drop j).countP (·.ticket ≤ ticket) := by
        rw [← List.countP_append, List.take_append_drop]
    _ ≤ (e.waiting.take j).length := by
        rw [hrest, Nat.add_zero]
        exact List.countP_le_length
    _ ≤ j := List.length_take_le _ _

/-- A send that goes on is no more among those that wait. -/
theorem countP_filter_lt {ws : List Waiting} {w : Waiting} (hw : w ∈ ws) (hle : w.ticket ≤ ticket) :
    (ws.filter (·.ticket ≠ w.ticket)).countP (·.ticket ≤ ticket)
      < ws.countP (·.ticket ≤ ticket) := by
  have hparts := List.countP_eq_countP_filter_add ws (·.ticket ≤ ticket) (·.ticket ≠ w.ticket)
  have hgone :
      0 < (ws.filter fun x => !decide (x.ticket ≠ w.ticket)).countP (·.ticket ≤ ticket) := by
    rw [List.countP_pos_iff]
    exact ⟨w, List.mem_filter.mpr ⟨hw, by simp⟩, decide_eq_true hle⟩
  omega

/-! ### What is ahead of a send -/

/-- No more is ahead of a send than waits. -/
theorem ahead_le_length (e : Endpoint) (ticket : Nat) : e.ahead ticket ≤ e.waiting.length :=
  (Nat.sub_le _ _).trans List.countP_le_length

/-- A send that waits for a full queue has something ahead. -/
theorem ahead_pos {w : Waiting} (hw : w ∈ e.waiting) (hroom : e.room = 0) :
    0 < e.ahead w.ticket := by
  rw [ahead, hroom, Nat.sub_zero, List.countP_pos_iff]
  exact ⟨w, hw, decide_eq_true (Nat.le_refl _)⟩

/-- No act puts more frames ahead of a send, and a write that begins takes one of them, or else it
is a ping's. -/
theorem QueueAct.advances (h : QueueAct e e') (hl : Lined e) (hs : e'.settings = e.settings)
    (ht : ticket < e.tickets) : Advances ticket e e' := by
  have hfits := hl.fits.outbound
  have hcount : e.waiting.countP (·.ticket ≤ ticket) ≤ e.waiting.length := List.countP_le_length
  cases h with
  | rests hp hw ho =>
    refine ⟨?_, hp.pings.ge, fun _ _ _ => hp.writing⟩
    rw [ahead, ahead, room, room, hw, hs]
    omega
  | takes _ hp hw ho =>
    have hless : 0 < e.ahead ticket → e'.ahead ticket < e.ahead ticket := by
      rw [ahead, ahead, room, room, hw, hs]
      omega
    refine ⟨?_, hp.ge, fun hpos hsame => absurd hsame (hless hpos).ne⟩
    rw [ahead, ahead, room, room, hw, hs]
    omega
  | pings _ hp hw ho =>
    refine ⟨?_, by omega, fun _ _ hsame => by omega⟩
    rw [ahead, ahead, room, room, hw, hs, ho]
  | passes hp hw hr ho =>
    refine ⟨?_, hp.pings.ge, fun _ _ _ => hp.writing⟩
    rw [room] at hr
    rw [ahead, ahead, room, room, hw, hs]
    omega
  | joins hp hw _ ho =>
    refine ⟨?_, hp.pings.ge, fun _ _ _ => hp.writing⟩
    have hlast : ¬e.tickets ≤ ticket := Nat.not_le.mpr ht
    rw [ahead, ahead, room, room, hw, hs, ho, List.countP_append]
    simp [hlast]
  | leaves hp hw ho =>
    refine ⟨?_, hp.pings.ge, fun _ _ _ => hp.writing⟩
    rw [ahead, ahead, room, room, hw, hs, ho]
    exact Nat.sub_le_sub_right List.filter_sublist.countP_le _
  | @granted other i w hp hplace hw hi ho =>
    refine ⟨?_, hp.pings.ge, fun _ _ _ => hp.writing⟩
    obtain ⟨hmem, rfl⟩ := mem_of_place? hplace
    have hroom : e'.room + 1 = e.room := by
      rw [room] at hi
      rw [room, room, hs]
      omega
    rw [ahead, ahead, hw]
    by_cases hle : w.ticket ≤ ticket
    · have hfewer := countP_filter_lt hmem hle
      omega
    · -- There is room for all that stand before the one that goes on.
      have hplaces := hl.countP_le_place hplace (Nat.lt_of_not_le hle)
      have hsub : (e.waiting.filter (·.ticket ≠ w.ticket)).countP (·.ticket ≤ ticket)
          ≤ e.waiting.countP (·.ticket ≤ ticket) := List.filter_sublist.countP_le
      omega

/-- An endpoint comes from itself. -/
theorem Advances.refl (ticket : Nat) (e : Endpoint) : Advances ticket e e :=
  ⟨Nat.le_refl _, Nat.le_refl _, fun _ _ _ => id⟩

/-- What comes from it later comes from it too. -/
theorem Advances.trans (h : Advances ticket e e') (h' : Advances ticket e' e'') :
    Advances ticket e e'' where
  ahead := h'.ahead.trans h.ahead
  pings := h.pings.trans h'.pings
  writing hpos hahead hpings hw := by
    have hfirst := h.ahead
    have hlast := h'.ahead
    have hfewer := h.pings
    have hmore := h'.pings
    exact h.writing hpos (by omega) (by omega) (h'.writing (by omega) (by omega) (by omega) hw)

/-- Every act leaves the sends that wait in order. -/
theorem Lined.act (h : Act now e e') (hl : Lined e) : Lined e' :=
  ⟨hl.ledger.act h, isStable_fits.act h hl.fits, (queueAct_of_act h).ordered hl⟩

/-- So does whatever arrives. -/
theorem Lined.arrive (hl : Lined e) (a : Wire.Arrival) : Lined (e.arrive a) :=
  ⟨hl.ledger.arrive a, hl.fits.of_eq rfl rfl rfl, hl.ordered⟩

/-- So does the socket. -/
theorem Lined.setFlow (hl : Lined e) (flow : Wire.Flow) : Lined (e.setFlow flow) :=
  ⟨hl.ledger.setFlow flow, hl.fits.of_eq rfl rfl rfl, hl.ordered⟩

/-- That the sends wait in order is stable. -/
theorem isStable_lined : IsStable fun _ e => Lined e where
  act := Lined.act
  arrive a hl := hl.arrive a
  setFlow flow hl := hl.setFlow flow
  later _ := id

/-- At the beginning no send waits. -/
theorem Lined.start (settings : Settings) (now : Nat) : Lined (start settings now) :=
  ⟨.start settings now, .start settings now, .nil⟩

/-- Nothing that happens to an endpoint puts more frames ahead of a send that was made. -/
theorem isStable_advances (ticket : Nat) (e : Endpoint) :
    IsStable fun _ e' => (Lined e' ∧ ticket < e'.tickets) ∧ Advances ticket e e' where
  act h hp := by
    obtain ⟨⟨hl, ht⟩, hadvances⟩ := hp
    have hact := queueAct_of_act h
    exact ⟨⟨hl.act h, ht.trans_le hact.tickets_le⟩,
      hadvances.trans (hact.advances hl (Follows.act h).settings ht)⟩
  arrive a hp := ⟨⟨hp.1.1.arrive a, hp.1.2⟩, hp.2.1, hp.2.2, hp.2.3⟩
  setFlow flow hp := ⟨⟨hp.1.1.setFlow flow, hp.1.2⟩, hp.2.1, hp.2.2, hp.2.3⟩
  later _ := id

/-- An endpoint that comes from another has no more frames ahead of a send that was made. -/
theorem Outlasts.advances {now' : Nat} (h : Outlasts now now' e e') (hl : Lined e)
    (ht : ticket < e.tickets) : Advances ticket e e' :=
  (h _ (isStable_advances ticket e) ⟨⟨hl, ht⟩, .refl ticket e⟩).2

/-- No ping that was taken up is taken back. -/
theorem isStable_pings (pings : Nat) : IsStable fun _ e => pings ≤ e.pings where
  act h hp := hp.trans (queueAct_of_act h).pings_le
  arrive _ := id
  setFlow _ := id
  later _ := id

/-! ### What is left to receive -/

/-- A reader that does something has not stopped. -/
theorem ReaderStep.reader_ne (h : ReaderStep now e m e') : e.reader ≠ .stopped := by
  cases h <;> simp_all

/-- A step of an endpoint whose reader has stopped puts nothing into its inbound queue. -/
theorem length_inbound_step (h : Step now e m e') (hr : e.reader = .stopped) :
    e'.inbound.length ≤ e.inbound.length := by
  cases h with
  | reader h => exact absurd hr h.reader_ne
  | writer h =>
    cases h with
    | take | ping | wrote => exact Nat.le_refl _
    | _ => rw [beginFarewell_eq]
  | farewell _ h => cases h <;> exact Nat.le_refl _
  | accepted | refused | writerGone | aborted => exact Nat.le_refl _
  | readerGone =>
    rw [dropOwner_eq]
    split_ifs
    · exact Nat.zero_le _
    · exact Nat.le_refl _

/-- No use puts anything into an inbound queue. -/
theorem length_inbound_use (h : Use now e e') : e'.inbound.length ≤ e.inbound.length := by
  cases h with
  | send frame =>
    have hs := sent_send e frame
    generalize e.send frame = sent at hs
    cases hs <;> exact Nat.le_refl _
  | takeInbound =>
    unfold Endpoint.takeInbound
    split <;> exact Nat.le_refl _
  | receive =>
    unfold Endpoint.receive
    split
    · next hi => simp [hi]
    · exact Nat.le_refl _
  | dropOwner =>
    rw [dropOwner_eq]
    split_ifs
    · exact Nat.zero_le _
    · exact Nat.le_refl _
  | dropInbound => exact Nat.zero_le _
  | withdraw => exact Nat.le_refl _
  | close => rw [close_eq]
  | shutDown => rw [Endpoint.shutDown, close_eq]
  | cancel => rw [Endpoint.cancel, finish_eq]

/-- When the reader has stopped, what is left to receive becomes no more. -/
theorem isStable_left (left : Nat) :
    IsStable fun _ e => e.reader = .stopped ∧ e.inbound.length ≤ left where
  act h hp := by
    refine ⟨reader_act h hp.1, le_trans ?_ hp.2⟩
    rcases h.step_or_use with ⟨m, h⟩ | h
    · exact length_inbound_step h hp.1
    · exact length_inbound_use h
  arrive _ := id
  setFlow _ := id
  later _ := id

end

end Switchboard.Endpoint
