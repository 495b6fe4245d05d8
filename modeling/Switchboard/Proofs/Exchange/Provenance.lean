import Switchboard.Proofs.Exchange.FanIn
import Switchboard.Proofs.Failure.Rendering
import Switchboard.Proofs.Gate.Registry
/-!
# Where the client's messages come from

Every frame that is written to a client is an envelope. It is a notice when the switchboard made it,
and otherwise the envelope of one frame of one channel, under that channel's label. Whatever bytes a
channel sends, it cannot make the client see a notice or the label of another channel: its frames
are put into their envelopes unread, but only when they are JSON, and no label of a sound gate is
that of notices.
-/

namespace Switchboard

namespace Exchange

open Endpoint

/-! ### Origins -/

/-- What a frame that is written to the client can be: a notice of a failure with one detail, or a
channel's frame in its envelope. -/
inductive Origin (labels : List String) (arrived : Side → List Bytes) : Bytes → Prop
  | notice (kind : Failure.Kind) (text name value : String) :
    Origin labels arrived (Failure.withDetails kind text [(name, .string value)]).controlFrame
  | carried {label : String} {frame : Bytes} (hl : label ∈ labels)
    (ha : frame ∈ arrived (.channel label)) (hj : frame = [] ∨ Json.isJson frame = true) :
    Origin labels arrived (Envelope.encode ⟨label, frame⟩)

section

variable {x : Exchange} {arrived : Side → List Bytes} {s : Station} {m : Bytes}

/-- What the client sends itself is a notice. -/
theorem origin_of_client {labels : List String} {frames : List Bytes}
    (h : m ∈ (unaddressed labels frames).map fun f => (forClient labels f).frame) :
    Origin labels arrived m := by
  obtain ⟨f, hf, rfl⟩ := List.mem_map.mp h
  have hnone := Option.isNone_iff_eq_none.mp (List.mem_filter.mp hf).2
  obtain ⟨text, name, value, hnotice⟩ := forClient_of_none hnone
  rw [hnotice, Delivery.notice]
  exact .notice _ text name value

/-- What a channel sends is carried, or a notice. -/
theorem origin_of_channel {labels : List String} {label : String} (hl : label ∈ labels)
    {limit : Nat}
    (h : m ∈ (arrived (.channel label)).map fun f => (forChannel limit label f).1.frame) :
    Origin labels arrived m := by
  obtain ⟨f, hf, rfl⟩ := List.mem_map.mp h
  by_cases hcarried : IsCarried limit label f
  · rw [forChannel_of_isCarried hcarried]
    exact .carried hl hf hcarried.1
  · obtain ⟨text, hnotice⟩ := forChannel_of_not_isCarried hcarried
    rw [hnotice, Delivery.notice]
    exact .notice _ text "channel" label

/-- Every frame that is written to the client has an origin. -/
theorem Balanced.origin (h : Balanced arrived s.exchange)
    (hm : m ∈ s.exchange.client.endpoint.framesWritten) :
    Origin s.exchange.labels arrived m := by
  have hclient : s.exchange.party? .client = some s.exchange.client := rfl
  obtain ⟨sent, hsent⟩ := h.exists_delivered hclient
  rw [← hsent.written] at hm
  obtain ⟨⟨side, m⟩, hmem, rfl⟩ := List.mem_map.mp hm
  obtain ⟨p, hp⟩ := hsent.known _ hmem
  have hshare : m ∈ outbox s.exchange.delivery side .client (arrived side) := by
    refine (hsent.share hp).subset (List.mem_map.mpr ⟨(side, m), ?_, rfl⟩)
    exact List.mem_filter.mpr ⟨hmem, decide_eq_true rfl⟩
  cases side with
  | client =>
    rw [outbox_client_client] at hshare
    exact origin_of_client hshare
  | channel label =>
    rw [outbox_channel_client] at hshare
    exact origin_of_channel (mem_labels hp) hshare

/-- An origin can be read off: where no channel has the label of notices, the frame is decoded, as
an envelope of that label exactly when it is a notice, and otherwise as that of a channel's frame. -/
theorem Origin.decode {labels : List String} (hlabels : ∀ label ∈ labels,
    label ≠ Envelope.controlLabel) (h : Origin labels arrived m) :
    ∃ e, Envelope.decode m = .ok e ∧
      (e.channel = Envelope.controlLabel ↔ ∃ f : Failure, m = f.controlFrame) ∧
      (e.channel ≠ Envelope.controlLabel → e.channel ∈ labels ∧
        ∃ frame ∈ arrived (.channel e.channel), m = Envelope.encode ⟨e.channel, frame⟩ ∧
          e.payload = Envelope.canonical frame) := by
  cases h with
  | notice kind text name value =>
    have hdecode := Failure.decode_withDetails kind text name value
    exact ⟨_, hdecode, ⟨fun _ => ⟨_, rfl⟩, fun _ => rfl⟩, fun hne => absurd rfl hne⟩
  | @carried label frame hl ha hj =>
    have hdecode : Envelope.decode (Envelope.encode ⟨label, frame⟩)
        = .ok ⟨label, Envelope.canonical frame⟩ := by
      rcases hj with rfl | hj
      · exact Envelope.decode_encode_nil label
      · exact Envelope.decode_encode_of_isJson label hj
    refine ⟨_, hdecode, ⟨fun hcontrol => absurd hcontrol (hlabels label hl), ?_⟩,
      fun _ => ⟨hl, frame, ha, rfl, rfl⟩⟩
    rintro ⟨f, hf⟩
    exact Envelope.channel_eq_of_encode_eq hf

end

/-! ### Main result -/

/-- In every run over channels of a gate of a registry, every frame that has been written to the
client is decoded. Its label is that of notices exactly when it is a notice, and otherwise it is the
label of the channel whose frame it carries: one that has arrived from there, in one line and
without the blanks around it. -/
theorem origin_framesWritten {text : String} {r : Registry} (hr : Registry.parse text = .ok r)
    {gate : Gate} (hgate : gate ∈ r.gates) {x : Exchange} (hx : IsNew x)
    (hlabels : ∀ label ∈ x.labels, label ∈ gate.channels.map (·.1)) {now : Nat}
    {events : List Event} {s : Station} (hrun : Station.run ⟨now, x⟩ events = some s) :
    ∀ m ∈ s.exchange.client.endpoint.framesWritten, ∃ e, Envelope.decode m = .ok e ∧
      (e.channel = Envelope.controlLabel ↔ ∃ f : Failure, m = f.controlFrame) ∧
      (e.channel ≠ Envelope.controlLabel → e.channel ∈ x.labels ∧
        ∃ frame ∈ arrivedAt (.channel e.channel) events,
          m = Envelope.encode ⟨e.channel, frame⟩ ∧ e.payload = Envelope.canonical frame) := by
  intro m hm
  obtain ⟨hbalanced, hsame, -⟩ := hx.balanced.run hrun
  simp only [List.nil_append] at hbalanced
  have horigin := hbalanced.origin hm
  rw [hsame] at horigin
  apply horigin.decode
  intro label hl
  obtain ⟨c, hc, rfl⟩ := List.mem_map.mp (hlabels label hl)
  exact (Registry.isSound_of_parse hr hgate).ne_controlLabel c hc

/-- A gate file with one gate of one channel. -/
def oneGate : String := "gates:\n g:\n  channels:\n   a:\n    url: ws://[::1]\n"

/-- The client's messages over the channel of that gate. -/
theorem origin_framesWritten_threeFrames :
    ∃ r gate s, Registry.parse oneGate = .ok r ∧
      gate ∈ r.gates ∧ gate.channels.map (·.1) = ["a"] ∧
      Station.run ⟨0, Exchange.start .standard 0 ["a"]⟩ threeFrames = some s ∧
      s.exchange.client.endpoint.framesWritten.length = 3 ∧
      ∀ m ∈ s.exchange.client.endpoint.framesWritten, ∃ e, Envelope.decode m = .ok e ∧
        (e.channel = Envelope.controlLabel ↔ ∃ f : Failure, m = f.controlFrame) ∧
        (e.channel ≠ Envelope.controlLabel → e.channel ∈ ["a"] ∧
          ∃ frame ∈ arrivedAt (.channel e.channel) threeFrames,
            m = Envelope.encode ⟨e.channel, frame⟩ ∧ e.payload = Envelope.canonical frame) := by
  have hregistry : ∃ r ∈ (Registry.parse oneGate).toOption,
      ∃ gate ∈ r.gates, gate.channels.map (·.1) = ["a"] := by
    decide +kernel
  have hrun : ∃ s ∈ Station.run ⟨0, Exchange.start .standard 0 ["a"]⟩ threeFrames,
      s.exchange.client.endpoint.framesWritten.length = 3 := by
    decide +kernel
  obtain ⟨r, hr, gate, hgate, hchannels⟩ := hregistry
  obtain ⟨s, hs, hlength⟩ := hrun
  have hparse : Registry.parse oneGate = .ok r := by
    cases h : Registry.parse oneGate with
    | error f => simp [h, Except.toOption] at hr
    | ok r' => simpa [h, Except.toOption] using hr
  have hnew : IsNew (Exchange.start .standard 0 ["a"]) := isNew_start rfl 0 (by simp)
  have hlabels : ∀ label ∈ (Exchange.start .standard 0 ["a"]).labels,
      label ∈ gate.channels.map (·.1) := by
    rw [hchannels]
    intro label hl
    exact hl
  exact ⟨r, gate, s, hparse, hgate, hchannels, hs, hlength,
    origin_framesWritten hparse hgate hnew hlabels hs⟩

end Exchange

end Switchboard
