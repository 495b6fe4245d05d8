import Switchboard.Proofs.Endpoint.Retirement
/-!
# The code of the close message

An endpoint says at most one close message, the last of all, and it has then written everything that
it has accepted. The code is the one that was asked for first, as far as that was asked for before
the farewell began (`Concludes`). So an endpoint that was asked for a code before it ended says no
other (`isStable_closesWith`), and one that was not asked for a code never says it (`Avoids`).
-/

namespace Switchboard.Endpoint

open Wire

/-! ### Definitions -/

/-- The codes of which the endpoint says one when it closes. Its close message comes at the end of
the lifetime, after all that was accepted. -/
structure Concludes (K : CloseCode → Prop) (e : Endpoint) : Prop where
  leaving {code : CloseCode} {stage : Farewell} {deadline : Nat} :
    e.writer = .leaving code stage deadline → K code
  closed {code : CloseCode} : e.HasClosed code →
    K code ∧ e.isDone = true ∧ e.accepted.map (·.frame) = e.framesWritten

/-- An endpoint that was asked for a code and says no other. -/
structure ClosesWith (code : CloseCode) (e : Endpoint) : Prop where
  ledger : Ledger e
  courteous : Courteous e
  requested : e.requested = some code
  concludes : Concludes (· = code) e

/-- An endpoint that was not asked for a code and does not say it. -/
structure Avoids (code : CloseCode) (e : Endpoint) : Prop where
  ledger : Ledger e
  courteous : Courteous e
  requested : e.requested ≠ some code
  concludes : Concludes (· ≠ code) e

section

variable {member : Bool} {e e' : Endpoint} {now : Nat} {code code' : CloseCode}
  {K K' : CloseCode → Prop}

/-! ### Close messages -/

/-- No close message was written, or one was. -/
theorem IsOpenEnded.not_hasClosed (h : e.IsOpenEnded) : ¬ e.HasClosed code := by
  intro hc
  unfold IsOpenEnded at h
  unfold HasClosed at hc
  simp [h] at hc

/-- There is one close message. -/
theorem HasClosed.code_eq (h : e.HasClosed code) (h' : e.HasClosed code') : code = code' := by
  unfold HasClosed at h h'
  rw [h] at h'
  simpa [Message.closing] using h'

/-- A frame is written in a message of its own. -/
theorem close_notMem_frames (frames : List Bytes) (frame : Option (CloseCode × String)) :
    Message.close frame ∉ frames.map Message.ofFrame := by
  intro h
  obtain ⟨f, -, hf⟩ := List.mem_map.mp h
  unfold Message.ofFrame at hf
  split at hf <;> cases hf

/-- A close message that was said is the one of which the endpoint keeps account. -/
theorem Courteous.hasClosed_of_mem (h : Courteous e) {frame : Option (CloseCode × String)}
    (hm : .close frame ∈ e.spoken) : ∃ code, frame = some (code, "") ∧ e.HasClosed code := by
  rcases h.spoken_eq with hopen | ⟨code, hclosed⟩
  · unfold IsOpenEnded at hopen
    rw [hopen] at hm
    exact absurd hm (close_notMem_frames _ _)
  · have hspoken := hclosed
    unfold HasClosed at hspoken
    rw [hspoken, List.mem_append, List.mem_singleton, Message.closing] at hm
    refine ⟨code, ?_, hclosed⟩
    exact Message.close.inj (hm.resolve_left (close_notMem_frames _ _))

/-! ### What becomes of the code -/

/-- A writer that stops says nothing. -/
theorem spoken_of_stops (h : Act now e e') (hw : e'.writer = .stopped) :
    e'.spoken = e.spoken ∧ e'.framesWritten = e.framesWritten ∧
      (e'.accepted = e.accepted ∨ Rests e e') := by
  cases writerAct_of_act h with
  | work h =>
    cases h with
    | take | ping | wrote => simp at hw
    | _ => simp [beginFarewell_eq] at hw
  | farewell hl h =>
    cases h with
    | clear => simp [writeSlot, record, hl] at hw
    | hungUp =>
      obtain ⟨hspoken, hframes⟩ := spoken_hangUp e now
      exact ⟨hspoken, hframes, Or.inl rfl⟩
    | failed | late => exact ⟨rfl, rfl, Or.inl rfl⟩
    | _ => simp at hw
  | aborted => exact ⟨rfl, rfl, Or.inl rfl⟩
  | rests h =>
    refine ⟨?_, ?_, Or.inr h⟩
    · rw [spoken, spoken, h.written]
    · rw [framesWritten, framesWritten, h.written]

/-- Once its queue is closed an endpoint whose writer rests accepts nothing. -/
theorem accepted_of_rests (h : Rests e e') (hl : Outgoing e) (hl' : Outgoing e')
    (hc : e.isClosed = true) : e'.accepted.map (·.frame) = e.accepted.map (·.frame) := by
  have hframes : e'.framesWritten = e.framesWritten := by
    rw [framesWritten, framesWritten, h.written]
  rw [hl'.accepted_eq, hl.accepted_eq, hframes, inHand_eq, inHand_eq, h.slot, h.writer,
    h.outbound hc, h.unwritten]

/-- A writer that has nothing left but to hang up has written all that was accepted. -/
theorem Outgoing.accepted_of_hangUp (hl : Outgoing e) {deadline : Nat}
    (hw : e.writer = .leaving code .hangUp deadline) (hs : e.slot = none) (ho : e.outbound = []) :
    e.accepted.map (·.frame) = e.framesWritten := by
  have hkept : e.unwritten = [] := hl.unwritten_eq (by simp [hw])
  rw [hl.accepted_eq, inHand_eq, hs, hw, ho, hkept]
  simp [Writer.held]

/-- The code of a farewell was chosen at its beginning. -/
theorem Concludes.leaving_act (hp : Concludes K e) (h : Act now e e')
    (hk : K (e.requested.getD CloseCode.normal)) {stage : Farewell} {deadline : Nat}
    (hw : e'.writer = .leaving code stage deadline) : K code := by
  cases writerAct_of_act h with
  | work h =>
    cases h with
    | take | ping | wrote => simp at hw
    | _ =>
      rw [beginFarewell_eq] at hw
      obtain ⟨rfl, -, -⟩ := Writer.leaving.inj hw
      exact hk
  | farewell hl h =>
    cases h with
    | clear => exact hp.leaving hw
    | hungUp | failed | late => simp [stopWriter] at hw
    | _ =>
      obtain ⟨rfl, -, -⟩ := Writer.leaving.inj hw
      exact hp.leaving hl
  | aborted => simp [stopWriter] at hw
  | rests h => exact hp.leaving (h.writer ▸ hw)

/-- Every act leaves the endpoint to say one of these codes, if what is asked for is one of them. -/
theorem Concludes.act (hp : Concludes K e) (h : Act now e e') (hl : Ledger e) (hc : Courteous e)
    (hk : K (e.requested.getD CloseCode.normal)) : Concludes K e' := by
  have hl' := (hl.act h).outgoing
  have hleaving {code : CloseCode} {stage : Farewell} {deadline : Nat}
      (hw : e'.writer = .leaving code stage deadline) : K code := hp.leaving_act h hk hw
  refine ⟨hleaving, ?_⟩
  intro code hclosed
  -- A writer that has stopped has said what it says now before.
  have hstopped (hw : e'.writer = .stopped) :
      K code ∧ e'.isDone = true ∧ e'.accepted.map (·.frame) = e'.framesWritten := by
    obtain ⟨hspoken, hframes, haccepted⟩ := spoken_of_stops h hw
    have hbefore : e.HasClosed code := by
      unfold HasClosed at hclosed ⊢
      rwa [← hspoken, ← hframes]
    obtain ⟨hk, hdone, hall⟩ := hp.closed hbefore
    refine ⟨hk, (Follows.act h).done hdone, ?_⟩
    rw [hframes, ← hall]
    rcases haccepted with haccepted | hrests
    · rw [haccepted]
    · exact accepted_of_rests hrests hl.outgoing hl' (by rw [isClosed, ← hrests.writer, hw])
  cases hc.act h hl.outgoing with
  | lasting _ _ hopen => exact absurd hclosed hopen.not_hasClosed
  | failed hw => exact hstopped hw
  | finished hw => exact hstopped hw
  | @leaving _ stage deadline hw hs =>
    have hdone := hl'.done_of_leaving _ _ _ hw
    cases stage with
    | hangUp =>
      obtain ⟨hempty, ⟨hsaid, hslot⟩ | ⟨hopen, -⟩⟩ := hs
      · obtain rfl := hclosed.code_eq hsaid
        exact ⟨hleaving hw, hdone, hl'.accepted_of_hangUp hw hslot hempty⟩
      · exact absurd hclosed hopen.not_hasClosed
    | _ => exact absurd hclosed hs.1.not_hasClosed

/-- An endpoint that has not ended has chosen no code. -/
theorem Concludes.of_notDone (hp : Concludes K e) (hl : Outgoing e) (hd : e.isDone = false) :
    Concludes K' e where
  leaving hw := by simp [hl.done_of_leaving _ _ _ hw] at hd
  closed hc := by simp [(hp.closed hc).2.1] at hd

/-- The fields that say which code was chosen. -/
theorem Concludes.of_eq (hp : Concludes K e) (hw : e'.writer = e.writer)
    (hwritten : e'.written = e.written) (ha : e'.accepted = e.accepted)
    (he : e'.ending = e.ending) : Concludes K e' where
  leaving hl := hp.leaving (hw ▸ hl)
  closed hc := by
    have hframes : e'.framesWritten = e.framesWritten := by
      rw [framesWritten, framesWritten, hwritten]
    unfold HasClosed spoken at hc
    rw [hwritten, hframes] at hc
    rw [isDone, he, ha, hframes]
    exact hp.closed hc

/-- At the beginning no code was chosen. -/
theorem Concludes.start (settings : Settings) (now : Nat) : Concludes K (start settings now) where
  leaving hw := by
    rcases writer_start settings now with ⟨hstart, -⟩ | ⟨hstart, -⟩
    · cases hstart.symm.trans hw
    · cases hstart.symm.trans hw
  closed hc := absurd hc (IsOpenEnded.not_hasClosed rfl)

/-! ### What is asked for -/

/-- While nobody closes an endpoint only a frame that is too large asks for a code, and that ends
the lifetime. -/
theorem requested_tacit (h : Tacit now e member e') : e'.requested = e.requested ∨
    e'.requested = some (e.requested.getD CloseCode.tooBig) ∧ e'.isDone = true := by
  rcases h.step_or_spares with ⟨m, h⟩ | h | ⟨-, rfl | rfl⟩
  · cases h with
    | reader h =>
      cases h with
      | oversized | refused =>
        rw [stopReader_eq]
        exact Or.inr ⟨rfl, rfl⟩
      | data | pong | other | delivered => exact Or.inl rfl
      | _ =>
        rw [stopReader_eq]
        exact Or.inl rfl
    | writer h =>
      cases h with
      | take | ping | wrote => exact Or.inl rfl
      | _ =>
        rw [beginFarewell_eq]
        exact Or.inl rfl
    | farewell _ h => cases h <;> exact Or.inl rfl
    | readerGone =>
      rw [dropOwner_eq]
      split_ifs <;> exact Or.inl rfl
    | accepted | refused | writerGone | aborted => exact Or.inl rfl
  · exact Or.inl h.requested
  · rw [dropOwner_eq]
    split_ifs <;> exact Or.inl rfl
  · rw [Endpoint.cancel, finish_eq]
    exact Or.inl rfl

/-- The first code that is asked for stays. -/
theorem requested_act (h : Act now e e') (hr : e.requested = some code) :
    e'.requested = some code := by
  rcases tacit_or_closed h with h | ⟨code', rfl⟩ | rfl
  · rcases requested_tacit h with heq | ⟨heq, -⟩
    · exact heq.trans hr
    · rw [heq, hr, Option.getD_some]
  · rw [close_eq, hr, Option.getD_some]
  · rw [Endpoint.shutDown, close_eq, hr, Option.getD_some]

/-- Who asks for a code ends the lifetime. -/
theorem isStable_requested : IsStable fun _ e => e.requested ≠ none → e.isDone = true where
  act h hp := by
    intro hr
    rcases tacit_or_closed h with htacit | ⟨code, rfl⟩ | rfl
    · rcases requested_tacit htacit with heq | ⟨-, hdone⟩
      · exact (Follows.act h).done (hp (heq ▸ hr))
      · exact hdone
    · rw [close_eq]
      rfl
    · rw [Endpoint.shutDown, close_eq]
      rfl
  arrive _ := id
  setFlow _ := id
  later _ := id

/-! ### An endpoint that says a code -/

/-- An endpoint that is closed with a code before it has ended and before anybody has asked for one
says this code. -/
theorem ClosesWith.close (hl : Ledger e) (hc : Courteous e) (hp : Concludes K e)
    (hd : e.isDone = false) (hr : e.requested = none) (now : Nat) (code : CloseCode) :
    ClosesWith code (e.close now code) := by
  have hact : Act now e (e.close now code) := .close code
  obtain ⟨hledger, hcourteous⟩ := isStable_courteous.act hact ⟨hl, hc⟩
  refine ⟨hledger, hcourteous, by rw [close_eq, hr, Option.getD_none], ?_⟩
  have hnone : Concludes (· = code) e := hp.of_notDone hl.outgoing hd
  rw [close_eq]
  refine ⟨hnone.leaving, ?_⟩
  intro code' hclosed
  obtain ⟨hcode, -, hall⟩ := hnone.closed hclosed
  exact ⟨hcode, rfl, hall⟩

/-- The close message comes last, after everything that was accepted. -/
theorem ClosesWith.spoken_eq (h : ClosesWith code e) {frame : Option (CloseCode × String)}
    (hm : .close frame ∈ e.spoken) : frame = some (code, "") ∧
      e.spoken = e.accepted.map (fun w => .ofFrame w.frame) ++ [.closing code ""] := by
  obtain ⟨code', rfl, hclosed⟩ := h.courteous.hasClosed_of_mem hm
  obtain ⟨rfl, -, hall⟩ := h.concludes.closed hclosed
  refine ⟨rfl, ?_⟩
  unfold HasClosed at hclosed
  rw [hclosed, ← hall, List.map_map]
  rfl

/-! ### An endpoint that does not say a code -/

/-- What was asked for is not the code, whatever stands in for it. -/
theorem getD_ne {requested : Option CloseCode} (h : requested ≠ some code) (hne : code ≠ code') :
    requested.getD code' ≠ code := by
  cases requested with
  | none => exact hne.symm
  | some c => exact fun hc => h (congrArg some hc)

/-- Acts that do not ask for a code leave an endpoint that avoids it so. -/
theorem Avoids.act (hp : Avoids code e) (h : Act now e e') (hnormal : code ≠ CloseCode.normal)
    (hr : e'.requested ≠ some code) : Avoids code e' := by
  obtain ⟨hledger, hcourteous⟩ := isStable_courteous.act h ⟨hp.ledger, hp.courteous⟩
  exact ⟨hledger, hcourteous, hr,
    hp.concludes.act h hp.ledger hp.courteous (getD_ne hp.requested hnormal)⟩

/-- Nobody closes an endpoint that avoids a code, and no frame that is too large asks for it. -/
theorem Avoids.tacit (hp : Avoids code e) (h : Tacit now e member e')
    (hnormal : code ≠ CloseCode.normal) (hbig : code ≠ CloseCode.tooBig) : Avoids code e' := by
  refine hp.act h.act hnormal ?_
  rcases requested_tacit h with heq | ⟨heq, -⟩
  · rw [heq]
    exact hp.requested
  · rw [heq]
    exact fun hc => getD_ne hp.requested hbig (Option.some.inj hc)

/-- A shutdown asks for the normal code at most. -/
theorem Avoids.shutDown (hp : Avoids code e) (now : Nat) (hnormal : code ≠ CloseCode.normal) :
    Avoids code (e.shutDown now) := by
  refine hp.act (.shutDown : Act now e _) hnormal ?_
  rw [Endpoint.shutDown, close_eq]
  exact fun hc => getD_ne hp.requested hnormal (Option.some.inj hc)

/-- A code other than those of a frame that is too large and of a shutdown is not said while nobody
closes the endpoint. -/
theorem isSteady_avoids (member : Bool) (hnormal : code ≠ CloseCode.normal)
    (hbig : code ≠ CloseCode.tooBig) : IsSteady member fun _ e => Avoids code e where
  tacit h hp := hp.tacit h hnormal hbig
  arrive a hp := ⟨hp.ledger.arrive a, hp.courteous.of_eq rfl rfl rfl rfl rfl rfl fun _ => rfl,
    hp.requested, hp.concludes.of_eq rfl rfl rfl rfl⟩
  setFlow flow hp := ⟨hp.ledger.setFlow flow,
    hp.courteous.of_eq rfl rfl rfl rfl rfl rfl fun _ => rfl, hp.requested,
    hp.concludes.of_eq rfl rfl rfl rfl⟩
  later _ := id

/-- At the beginning nothing was asked for. -/
theorem Avoids.start (code : CloseCode) (settings : Settings) (now : Nat) :
    Avoids code (start settings now) :=
  ⟨.start settings now, .start settings now, by simp [Endpoint.start], .start settings now⟩

end

end Switchboard.Endpoint
