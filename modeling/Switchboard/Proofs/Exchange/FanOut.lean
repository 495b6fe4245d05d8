import Switchboard.Proofs.Exchange.Delivery
import Switchboard.Proofs.Exchange.Forward
/-!
# From the client to the channels

The frames that are written to a channel are the payloads of the client's envelopes that name it, in
the order in which they arrived. Nothing else reaches a channel, and nothing reaches one under the
label of notices.
-/

namespace Switchboard.Exchange

open Endpoint

/-! ### Definitions -/

/-- The payload of a client's frame that names a channel. -/
def payloadFor? (label : String) (frame : Bytes) : Option Bytes :=
  match Envelope.decode frame with
  | .ok e => if e.channel = label ∧ label ≠ Envelope.controlLabel then some e.payload else none
  | .error _ => none

/-- The payloads of the client's frames that name a channel. -/
def addressedTo (label : String) (frames : List Bytes) : List Bytes :=
  frames.filterMap (payloadFor? label)

section

variable {x : Exchange} {label : String}

/-! ### What is sent to a channel -/

/-- No channel sends to another. -/
theorem outbox_channel_channel (x : Exchange) (l label : String) (frames : List Bytes) :
    outbox x.delivery (.channel l) (.channel label) frames = [] := by
  rw [outbox, List.filterMap_eq_nil_iff]
  intro f _
  have htarget : (x.delivery (.channel l) f).target = .client := target_forChannel x.limit l f
  rw [htarget, if_neg (by simp)]

/-- What the client sends to a channel are the payloads that are addressed to it. -/
theorem outbox_client_channel (h : label ∈ x.labels) (frames : List Bytes) :
    outbox x.delivery .client (.channel label) frames = addressedTo label frames := by
  apply List.filterMap_congr
  intro f _
  rw [delivery, forFrame]
  cases haddressee : addressee? x.labels f with
  | some e =>
    obtain ⟨hdecode, hcontrol, -⟩ := addressee?_eq_some.mp haddressee
    rw [forClient_of_addressee haddressee, payloadFor?, hdecode]
    by_cases hchannel : e.channel = label
    · subst hchannel
      simp [hcontrol]
    · simp [hchannel]
  | none =>
    obtain ⟨text, name, value, hnotice⟩ := forClient_of_none haddressee
    rw [hnotice, if_neg (by simp [Delivery.notice]), payloadFor?]
    split
    · next e hdecode =>
      rw [if_neg]
      rintro ⟨rfl, hcontrol⟩
      cases haddressee.symm.trans (addressee?_eq_some.mpr ⟨hdecode, hcontrol, h⟩)
    · rfl

end

/-! ### Main result -/

/-- In every run, the frames that have been written to a channel are the first of the payloads that
were addressed to it, in the order of their arrival; in a calm state they are all of them, given
that a scope that ends has an endpoint in it (`Station.after`). Nothing is ever written under the
label of notices. -/
theorem framesWritten_channel {x : Exchange} (hx : IsNew x) {now : Nat} {events : List Event}
    {s : Station} (hrun : Station.run ⟨now, x⟩ events = some s) {label : String} {p : Party}
    (hp : s.exchange.party? (.channel label) = some p) :
    p.endpoint.framesWritten <+: addressedTo label (arrivedAt .client events) ∧
    (IsCalm s → p.endpoint.framesWritten = addressedTo label (arrivedAt .client events)) ∧
    (label = Envelope.controlLabel → p.endpoint.framesWritten = []) := by
  obtain ⟨hbalanced, -, -⟩ := hx.balanced.run hrun
  simp only [List.nil_append] at hbalanced
  obtain ⟨sent, hsent⟩ := hbalanced.exists_delivered hp
  have hclient : s.exchange.party? .client = some s.exchange.client := rfl
  have hall : sent.filter (·.1 = .client) = sent := by
    rw [List.filter_eq_self]
    intro m hm
    cases hside : m.1 with
    | client => rfl
    | channel l =>
      obtain ⟨q, hq⟩ := hsent.known m hm
      rw [hside] at hq
      have hshare := hsent.share hq
      rw [outbox_channel_channel, List.prefix_nil, List.map_eq_nil_iff,
        List.filter_eq_nil_iff] at hshare
      exact absurd (decide_eq_true hside) (hshare m hm)
  have hshare := hsent.share hclient
  rw [hall, hsent.written, outbox_client_channel (mem_labels hp)] at hshare
  refine ⟨hshare, fun hcalm => ?_, fun hcontrol => ?_⟩
  · have hwhole := hsent.whole hcalm hclient
    rwa [hall, hsent.written, outbox_client_channel (mem_labels hp)] at hwhole
  · have hnone : addressedTo label (arrivedAt .client events) = [] := by
      rw [addressedTo, List.filterMap_eq_nil_iff]
      intro f _
      unfold payloadFor?
      split
      · rw [if_neg fun h => h.2 hcontrol]
      · rfl
    rwa [hnone, List.prefix_nil] at hshare

/-- A client sends a frame that is no envelope and then one for a channel. When all is written its
socket would suspend what comes next. -/
def twoFrames : List Event :=
  [.arrive .client (.message (.text "a")),
    .arrive .client (.message (.binary (Envelope.encode ⟨"a", [0x31]⟩))),
    .move (.endpoint .client .read), .move (.endpoint .client .deliver), .move (.relay .client),
    .move (.endpoint .client .read), .move (.endpoint .client .deliver), .move (.relay .client),
    .move (.endpoint .client .take), .move (.endpoint (.channel "a") .take),
    .move (.endpoint (.channel "a") .write), .move (.endpoint .client .write),
    .setFlow .client .blocked]

/-- The payload of the second frame is all that the channel is sent. -/
theorem framesWritten_channel_twoFrames :
    ∃ s p, Station.run ⟨0, Exchange.start .standard 0 ["a"]⟩ twoFrames = some s ∧
      s.exchange.party? (.channel "a") = some p ∧ IsCalm s ∧
      addressedTo "a" (arrivedAt .client twoFrames) = [[0x31]] ∧
      p.endpoint.framesWritten = addressedTo "a" (arrivedAt .client twoFrames) := by
  have hrun : ∃ s ∈ Station.run ⟨0, Exchange.start .standard 0 ["a"]⟩ twoFrames,
      ∃ p ∈ s.exchange.party? (.channel "a"), IsCalm s := by
    decide +kernel
  have haddressed : addressedTo "a" (arrivedAt .client twoFrames) = [[0x31]] := by
    decide +kernel
  obtain ⟨s, hs, p, hp, hcalm⟩ := hrun
  have hnew : IsNew (Exchange.start .standard 0 ["a"]) := isNew_start rfl 0 (by simp)
  exact ⟨s, p, hs, hp, hcalm, haddressed, (framesWritten_channel hnew hs hp).2.1 hcalm⟩

end Switchboard.Exchange
