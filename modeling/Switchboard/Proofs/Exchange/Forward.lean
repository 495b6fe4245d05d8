import Switchboard.Exchange.Forward
import Switchboard.Proofs.Envelope.Codec
/-!
# What is sent for a frame

A client's frame has an addressee when it is an envelope of a channel that is there; then its
payload goes to that channel, and otherwise the client is told that its input was bad. A channel's
frame is carried in an envelope when it is empty or JSON and the envelope is small enough for the
client; otherwise the client is told of a failure inside, with the channel's label in its details.
-/

namespace Switchboard.Exchange

/-- The envelope of a client's frame when it names a channel that is there. -/
def addressee? (labels : List String) (frame : Bytes) : Option Envelope :=
  match Envelope.decode frame with
  | .ok e => if e.channel ≠ Envelope.controlLabel ∧ e.channel ∈ labels then some e else none
  | .error _ => none

/-- A channel's frame that can be carried to the client. -/
def IsCarried (limit : Nat) (label : String) (frame : Bytes) : Prop :=
  (frame = [] ∨ Json.isJson frame = true) ∧ (Envelope.encode ⟨label, frame⟩).length ≤ limit

section

variable {labels : List String} {label : String} {frame : Bytes} {limit : Nat} {e : Envelope}

/-- An envelope with an addressee. -/
theorem addressee?_eq_some : addressee? labels frame = some e ↔
    Envelope.decode frame = .ok e ∧ e.channel ≠ Envelope.controlLabel ∧ e.channel ∈ labels := by
  unfold addressee?
  cases Envelope.decode frame with
  | error r => simp
  | ok e' =>
    dsimp only
    constructor
    · intro h
      split_ifs at h with hchannel
      obtain rfl := Option.some.inj h
      exact ⟨rfl, hchannel⟩
    · rintro ⟨h, hchannel⟩
      obtain rfl := Except.ok.inj h
      rw [if_pos hchannel]

/-- The payload goes to the channel that is named. -/
theorem forClient_of_addressee (h : addressee? labels frame = some e) :
    forClient labels frame = ⟨.channel e.channel, e.payload⟩ := by
  obtain ⟨hdecode, hcontrol, hlabel⟩ := addressee?_eq_some.mp h
  rw [forClient, hdecode]
  simp [Envelope.isControl, hcontrol, hlabel]

/-- A client whose frame has no addressee is told so. -/
theorem forClient_of_none (h : addressee? labels frame = none) :
    ∃ text name value, forClient labels frame =
      .notice (.withDetails .badInput text [(name, .string value)]) := by
  unfold forClient
  cases hdecode : Envelope.decode frame with
  | error r => exact ⟨_, _, _, rfl⟩
  | ok e =>
    have hnotice : (e.isControl || !labels.contains e.channel) = true := by
      by_contra hchannel
      have hsome : addressee? labels frame = some e := by
        refine addressee?_eq_some.mpr ⟨hdecode, ?_⟩
        simpa [Envelope.isControl] using hchannel
      cases hsome.symm.trans h
    dsimp only
    rw [if_pos hnotice]
    exact ⟨_, _, _, rfl⟩

/-- A frame that can be carried goes to the client in an envelope. -/
theorem forChannel_of_isCarried (h : IsCarried limit label frame) :
    (forChannel limit label frame).1 = ⟨.client, Envelope.encode ⟨label, frame⟩⟩ := by
  obtain ⟨hjson, hlength⟩ := h
  have hvalid : ¬(!frame.isEmpty && !Json.isJson frame) = true := by
    rcases hjson with rfl | hjson
    · simp
    · simp [hjson]
  rw [Envelope.length_encode] at hlength
  rw [forChannel, if_neg hvalid]
  dsimp only
  rw [if_neg (Nat.not_lt.mpr hlength)]

/-- For any other frame the client is told of a failure that names the channel. -/
theorem forChannel_of_not_isCarried (h : ¬IsCarried limit label frame) :
    ∃ text, (forChannel limit label frame).1 =
      .notice (.withDetails .internal text [("channel", .string label)]) := by
  unfold forChannel
  split_ifs with hvalid
  · exact ⟨_, rfl⟩
  · dsimp only
    split_ifs with hlimit
    · exact ⟨_, rfl⟩
    · refine absurd ⟨?_, ?_⟩ h
      · cases frame with
        | nil => exact Or.inl rfl
        | cons b rest => exact Or.inr (by simpa using hvalid)
      · rw [Envelope.length_encode]
        exact Nat.not_lt.mp hlimit

/-- All that comes from a channel goes to the client. -/
theorem target_forChannel (limit : Nat) (label : String) (frame : Bytes) :
    (forChannel limit label frame).1.target = .client := by
  by_cases h : IsCarried limit label frame
  · rw [forChannel_of_isCarried h]
  · obtain ⟨text, hnotice⟩ := forChannel_of_not_isCarried h
    rw [hnotice, Delivery.notice]

end

end Switchboard.Exchange
