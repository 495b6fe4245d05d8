import Switchboard.Proofs.Endpoint.CloseCode
import Switchboard.Proofs.Endpoint.Observation
/-!
# What is asked for

Whoever closes an endpoint asks for a close code, and so does the reader when it meets something
that is too large (`Station.asks?`). Of all codes that are asked for in a run the endpoint keeps the
first (`requested_run`). The writer chooses the code of its close message when its farewell begins.
If a code was asked for before the lifetime ended then the first one has been kept by that time, so
it is what the close message carries; and if none is asked for then the message carries the normal
code (`closeCode_of_run`).
-/

namespace Switchboard.Endpoint

open Wire

/-! ### Definitions -/

/-- A close code that is asked for. -/
structure Request where
  code : CloseCode
  /-- Whether the lifetime had not ended then. -/
  isTimely : Bool
  deriving DecidableEq, Repr

/-- The close code that an event asks for. -/
def Station.asked? (s : Station) : Event → Option CloseCode
  | .close code => some code
  | .shutDown => some CloseCode.normal
  | .move .read =>
    if s.endpoint.arrivals.head?.any (·.isTooLarge s.endpoint.settings.maxMessageSize) then
      some CloseCode.tooBig
    else none
  | _ => none

/-- What an event asks for. -/
def Station.asks? (s : Station) (event : Event) : Option Request :=
  (s.asked? event).map fun code => ⟨code, !s.endpoint.isDone⟩

/-- What is asked for in a run. -/
def Station.requests (s : Station) (events : List Event) : List Request :=
  s.observe Station.asks? events

/-- A code that a close message may carry after these requests: the first one that was asked for, if
one of them was timely, and the normal one if there are none. -/
structure Answers (requests : List Request) (code : CloseCode) : Prop where
  timely : ∀ r ∈ requests, r.isTimely = true → requests.head?.map (·.code) = some code
  unasked : requests = [] → code = CloseCode.normal

/-- An endpoint after these requests. -/
structure IsAsked (requests : List Request) (e : Endpoint) : Prop where
  courteous : Ledger e ∧ Courteous e
  requested : e.requested = requests.head?.map (·.code)
  isDone : e.requested ≠ none → e.isDone = true
  concludes : Concludes (Answers requests) e

section

variable {e e' : Endpoint} {now : Nat} {m : Move} {s s' : Station} {event : Event}
  {events : List Event} {code : CloseCode} {K K' : CloseCode → Prop} {requests : List Request}

/-! ### The first request -/

/-- The reader asks for a code when it meets something too large. -/
theorem requested_readerStep (h : ReaderStep now e m e') :
    e'.requested = e.requested.or
      (if m = .read ∧ e.arrivals.head?.any (·.isTooLarge e.settings.maxMessageSize) = true then
        some CloseCode.tooBig else none) := by
  cases h with
  | oversized _ ha hm hs => simp [stopReader_eq, ha, isTooLarge_message, hm, hs, Option.or_some]
  | refused _ ha he => simp [stopReader_eq, ha, Arrival.isTooLarge, he, Option.or_some]
  | data _ ha hm hs => simp [took, ha, isTooLarge_message, hm, Nat.not_lt.mpr hs]
  | pong _ ha hm => simp [took, ha, isTooLarge_message, hm]
  | other _ ha hm => rcases hm with hm | hm <;> simp [took, ha, isTooLarge_message, hm]
  | closed _ ha hm => simp [stopReader_eq, took, ha, isTooLarge_message, hm]
  | failed _ ha he => simp [stopReader_eq, took, ha, Arrival.isTooLarge, he]
  | finished _ ha => simp [stopReader_eq, took, ha, Arrival.isTooLarge]
  | expired | unwanted | ended => simp [stopReader_eq]
  | delivered => simp

/-- No other step asks for a code. -/
theorem requested_step (h : Step now e m e') :
    e'.requested = e.requested.or
      (if m = .read ∧ e.arrivals.head?.any (·.isTooLarge e.settings.maxMessageSize) = true then
        some CloseCode.tooBig else none) := by
  cases h with
  | reader h => exact requested_readerStep h
  | writer h =>
    cases h with
    | take | ping | wrote => simp [writeSlot, record]
    | _ => simp [beginFarewell_eq]
  | farewell _ h => cases h <;> simp [writeSlot, record, stopWriter]
  | accepted | refused | writerGone => simp
  | readerGone =>
    rw [if_neg (by simp), Option.or_none]
    exact (Undisturbed.dropOwner e).requested
  | aborted => simp [stopWriter]

/-- What an event asks for is kept unless something else was asked for before. -/
theorem Station.requested_after (h : s.after event = some s') :
    s'.endpoint.requested = s.endpoint.requested.or (s.asked? event) := by
  cases event with
  | move m =>
    obtain ⟨e, he, rfl⟩ := Option.map_eq_some_iff.mp h
    rw [requested_step (step_of_perform he)]
    cases m with
    | read => simp [asked?]
    | _ => simp [asked?]
  | close code =>
    cases h
    rw [close_eq]
    exact Option.or_some.symm
  | shutDown =>
    cases h
    rw [Endpoint.shutDown, close_eq]
    exact Option.or_some.symm
  | cancel =>
    cases h
    rw [Endpoint.cancel, finish_eq]
    exact Option.or_none.symm
  | _ => exact (Undisturbed.of_isQuiet h rfl).requested.trans Option.or_none.symm

/-- The writer rests while a code is asked for. -/
theorem Station.rests_of_asked (h : s.after event = some s') (ha : s.asked? event = some code) :
    Rests s.endpoint s'.endpoint := by
  cases event with
  | close c =>
    cases h
    exact .close _ _ c
  | shutDown =>
    cases h
    exact Use.rests .shutDown
  | move m =>
    obtain ⟨e, he, rfl⟩ := Option.map_eq_some_iff.mp h
    cases m with
    | read =>
      cases step_of_perform he with
      | reader hstep => exact .readerStep hstep
      | writer hstep => cases hstep
      | farewell _ hstep => cases hstep
    | _ => cases ha
  | _ => cases ha

/-! ### The code of the close message -/

/-- The code that is kept may be said, or the normal one if none is. -/
theorem Answers.kept (requests : List Request) :
    Answers requests ((requests.head?.map (·.code)).getD CloseCode.normal) := by
  cases requests with
  | nil =>
    constructor
    · rintro r hr
      cases hr
    · exact fun _ => rfl
  | cons r rest =>
    constructor
    · exact fun _ _ _ => rfl
    · rintro hnil
      cases hnil

/-- A request that comes too late changes nothing. -/
theorem Answers.concat (h : Answers requests code) {r : Request} (hr : r.isTimely = false) :
    Answers (requests ++ [r]) code := by
  constructor
  · intro q hq htimely
    rw [List.mem_append, List.mem_singleton] at hq
    rcases hq with hq | rfl
    · have hfirst := h.timely q hq htimely
      obtain ⟨first, hhead, rfl⟩ := Option.map_eq_some_iff.mp hfirst
      rw [List.head?_append, hhead]
      rfl
    · rw [hr] at htimely
      cases htimely
  · intro hnil
    simp at hnil

/-- An endpoint that says one of these codes says one of any that take them in. -/
theorem Concludes.mono (hp : Concludes K e) (h : ∀ {code}, K code → K' code) : Concludes K' e where
  leaving hw := h (hp.leaving hw)
  closed hc := (hp.closed hc).imp_left h

/-- An endpoint that has not ended has chosen no code while its writer rests. -/
theorem Concludes.of_rests (hp : Concludes K e) (hl : Outgoing e) (hd : e.isDone = false)
    (h : Rests e e') : Concludes K' e' := by
  constructor
  · intro code stage deadline hw
    rw [hl.done_of_leaving _ _ _ (h.writer.symm.trans hw)] at hd
    cases hd
  · intro code hc
    have hbefore : e.HasClosed code := by
      unfold HasClosed spoken framesWritten at hc ⊢
      rwa [h.written] at hc
    rw [(hp.closed hbefore).2.1] at hd
    cases hd

/-- Every event leaves the endpoint to say one of these codes, if what is kept is one of them. -/
theorem Concludes.after (h : s.after event = some s') (hp : Concludes K s.endpoint)
    (hc : Ledger s.endpoint ∧ Courteous s.endpoint)
    (hk : K (s.endpoint.requested.getD CloseCode.normal)) : Concludes K s'.endpoint := by
  cases Station.turn h with
  | move hstep => exact hp.act (.step hstep) hc.1 hc.2 hk
  | use huse => exact hp.act huse.act hc.1 hc.2 hk
  | handles | arrive | setFlow | tick => exact hp.of_eq rfl rfl rfl rfl

/-! ### Every event -/

/-- At the beginning nothing was asked for. -/
theorem IsAsked.start (settings : Settings) (now : Nat) : IsAsked [] (start settings now) where
  courteous := ⟨.start settings now, .start settings now⟩
  requested := rfl
  isDone h := absurd rfl h
  concludes := .start settings now

/-- Every event leaves the endpoint to answer what was asked for. -/
theorem IsAsked.after (h : s.after event = some s') (hp : IsAsked requests s.endpoint) :
    IsAsked (requests ++ (s.asks? event).toList) s'.endpoint := by
  have hkept := Answers.kept requests
  rw [← hp.requested] at hkept
  have hrequested := Station.requested_after h
  rw [hp.requested] at hrequested
  refine ⟨isStable_courteous.after (fun handles hc => courteous_handles hc handles) h hp.courteous,
    ?_, isStable_requested.after (fun _ => id) h hp.isDone, ?_⟩
  · cases ha : s.asked? event with
    | none => simpa [Station.asks?, ha] using hrequested
    | some code =>
      rw [hrequested, Station.asks?, ha, List.head?_append, Option.map_or]
      rfl
  · cases ha : s.asked? event with
    | none =>
      rw [Station.asks?, ha, Option.map_none, Option.toList_none, List.append_nil]
      exact hp.concludes.after h hp.courteous hkept
    | some code =>
      cases hd : s.endpoint.isDone with
      | false =>
        exact hp.concludes.of_rests hp.courteous.1.outgoing hd (Station.rests_of_asked h ha)
      | true =>
        have hlate {c : CloseCode} (hc : Answers requests c) :
            Answers (requests ++ (s.asks? event).toList) c := by
          rw [Station.asks?, ha, Option.map_some, Option.toList_some]
          exact hc.concat (by rw [hd]; rfl)
        exact (hp.concludes.mono hlate).after h hp.courteous (hlate hkept)

/-- In every run the endpoint answers what was asked for in it. -/
theorem isAsked_run {settings : Settings}
    (hrun : (Station.opening settings now).run events = some s) :
    IsAsked ((Station.opening settings now).requests events) s.endpoint :=
  Station.observe_run (R := fun s requests => IsAsked requests s.endpoint) (l := [])
    (fun h hp => hp.after h) hrun (.start settings now)

end

/-! ### Main result -/

section

variable {settings : Settings} {now : Nat} {events : List Event} {s : Station}

/-- In every run, if a close code is asked for before the lifetime ends, then a close message that
is written carries the first code that is asked for; and if none is asked for, it carries the normal
one. The endpoint keeps the first code that is asked for, and none that is asked for later. -/
theorem closeCode_of_run (hrun : (Station.opening settings now).run events = some s) :
    (∀ {frame : Option (CloseCode × String)}, .message (.close frame) ∈ s.endpoint.outputs →
      (∀ r ∈ (Station.opening settings now).requests events, r.isTimely = true →
        ∃ first ∈ ((Station.opening settings now).requests events).head?,
          frame = some (first.code, "")) ∧
      ((Station.opening settings now).requests events = [] →
        frame = some (CloseCode.normal, ""))) ∧
    s.endpoint.requested = ((Station.opening settings now).requests events).head?.map (·.code) ∧
    ∀ {first last : List Event} {t : Station} {code : CloseCode}, events = first ++ last →
      (Station.opening settings now).run first = some t → t.endpoint.requested = some code →
      s.endpoint.requested = some code := by
  have hasked := isAsked_run hrun
  refine ⟨?_, hasked.requested, ?_⟩
  · intro frame hframe
    have hspoken : .close frame ∈ s.endpoint.spoken := by
      obtain ⟨w, hw, hout⟩ := List.mem_map.mp hframe
      exact List.mem_filterMap.mpr ⟨w, hw, by rw [hout]; rfl⟩
    obtain ⟨code, rfl, hclosed⟩ := hasked.courteous.2.hasClosed_of_mem hspoken
    obtain ⟨⟨htimely, hunasked⟩, -, -⟩ := hasked.concludes.closed hclosed
    constructor
    · intro r hr hr'
      obtain ⟨first, hfirst, rfl⟩ := Option.map_eq_some_iff.mp (htimely r hr hr')
      exact ⟨first, hfirst, rfl⟩
    · intro hnone
      rw [hunasked hnone]
  · rintro first last t code rfl ht hcode
    have hstable : IsStable fun _ e => e.requested = some code :=
      ⟨fun h hr => requested_act h hr, fun _ => id, fun _ => id, fun _ => id⟩
    exact hstable.run (fun _ => id) (Station.run_of_prefix ht hrun) hcode

/-- Frames of one byte at most. -/
def frugal : Settings := { Settings.standard with maxMessageSize := 1 }

/-- A write is suspended when a frame arrives that is too large; another code is asked for, and the
shutdown, before the socket takes what is written again. -/
def outbid : List Event :=
  [.send [0x61], .move .take, .setFlow .blocked, .arrive (.message (.binary [0x62, 0x63])),
    .move .read, .close CloseCode.goingAway, .shutDown, .setFlow .open, .move .write,
    .move .stopWriting, .move .write, .move .write, .move .write]

/-- The scope ends, and then the lifetime without a request. -/
def unbidden : List Event :=
  [.cancel, .move .stopWriting, .move .write, .move .write, .move .write]

/-- The close message carries the code of the frame that is too large, and the normal one when none
is asked for. -/
theorem closeCode_of_run_outbid :
    (∃ s frame, (Station.opening frugal 0).run outbid = some s ∧
      (Station.opening frugal 0).requests outbid = [⟨CloseCode.tooBig, true⟩,
        ⟨CloseCode.goingAway, false⟩, ⟨CloseCode.normal, false⟩] ∧
      .message (.close frame) ∈ s.endpoint.outputs ∧ frame = some (CloseCode.tooBig, "") ∧
      s.endpoint.requested = some CloseCode.tooBig) ∧
    ∃ s frame, (Station.opening frugal 0).run unbidden = some s ∧
      (Station.opening frugal 0).requests unbidden = [] ∧
      .message (.close frame) ∈ s.endpoint.outputs ∧ frame = some (CloseCode.normal, "") ∧
      s.endpoint.requested = none := by
  constructor
  · have hrun : ∃ s ∈ (Station.opening frugal 0).run outbid,
        .message (.close (some (CloseCode.tooBig, ""))) ∈ s.endpoint.outputs := by
      decide +kernel
    have hrequests : (Station.opening frugal 0).requests outbid = [⟨CloseCode.tooBig, true⟩,
        ⟨CloseCode.goingAway, false⟩, ⟨CloseCode.normal, false⟩] := by
      decide +kernel
    obtain ⟨s, hs, hframe⟩ := hrun
    obtain ⟨hcode, hkept, -⟩ := closeCode_of_run hs
    rw [hrequests] at hcode hkept
    obtain ⟨first, hfirst, heq⟩ := (hcode hframe).1 _ List.mem_cons_self rfl
    obtain rfl := Option.some.inj hfirst
    exact ⟨s, _, hs, hrequests, hframe, heq, hkept⟩
  · have hrun : ∃ s ∈ (Station.opening frugal 0).run unbidden,
        .message (.close (some (CloseCode.normal, ""))) ∈ s.endpoint.outputs := by
      decide +kernel
    have hrequests : (Station.opening frugal 0).requests unbidden = [] := by
      decide +kernel
    obtain ⟨s, hs, hframe⟩ := hrun
    obtain ⟨hcode, hkept, -⟩ := closeCode_of_run hs
    rw [hrequests] at hcode hkept
    exact ⟨s, _, hs, hrequests, hframe, (hcode hframe).2 rfl, hkept⟩

end

end Switchboard.Endpoint
