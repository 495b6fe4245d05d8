import Switchboard.Proofs.Exchange.Delivery
import Switchboard.Proofs.Exchange.Forward
/-!
# From the channels to the client

The frames that are written to the client are an interleaving. Each channel has one message for each
frame that arrived from it, in order: the frame in its envelope, or a notice that names the channel.
The client itself has one notice for each of its own frames that has no addressee.
-/

namespace Switchboard.Exchange

open Endpoint

/-! ### Definitions -/

/-- The client's frames that have no addressee. -/
def unaddressed (labels : List String) (frames : List Bytes) : List Bytes :=
  frames.filter fun f => (addressee? labels f).isNone

/-- A notice that the client's input was bad. -/
def IsComplaint (message : Bytes) : Prop :=
  ∃ f : Failure, f.kind = .badInput ∧ message = f.controlFrame

/-- What the client is sent for a channel's frame: the frame in an envelope, when that can be
carried, and otherwise a notice of a failure inside that names the channel. -/
def IsAnswer (limit : Nat) (label : String) (frame message : Bytes) : Prop :=
  (IsCarried limit label frame → message = Envelope.encode ⟨label, frame⟩) ∧
  (¬IsCarried limit label frame → ∃ text,
    message = (Failure.withDetails .internal text [("channel", .string label)]).controlFrame)

/-- Messages for the first of some frames, one for each and in order; `isWhole` says when they are
for all of them. -/
def Answers (R : Bytes → Bytes → Prop) (frames : List Bytes) (isWhole : Prop)
    (messages : List Bytes) : Prop :=
  ∃ answered, answered <+: frames ∧ (isWhole → answered = frames) ∧
    List.Forall₂ R answered messages

section

variable {R : Bytes → Bytes → Prop} {frames messages : List Bytes} {isWhole : Prop}
  {g : Bytes → Bytes} {x : Exchange}

/-! ### What is sent to the client -/

/-- The first of the messages for some frames are messages for the first of the frames. -/
theorem Answers.of_map (hR : ∀ f ∈ frames, R f (g f)) (hm : messages <+: frames.map g)
    (hwhole : isWhole → messages = frames.map g) : Answers R frames isWhole messages := by
  refine ⟨frames.take messages.length, List.take_prefix _ _, fun h => ?_, ?_⟩
  · rw [hwhole h, List.length_map, List.take_length]
  · have hmessages : messages = (frames.take messages.length).map g := by
      rw [List.map_take]
      exact List.prefix_iff_eq_take.mp hm
    generalize messages.length = n at hmessages
    subst hmessages
    rw [List.forall₂_map_right_iff, List.forall₂_same]
    intro f hf
    exact hR f (List.mem_of_mem_take hf)

/-- Each channel sends one message for each frame. -/
theorem outbox_channel_client (x : Exchange) (label : String) (frames : List Bytes) :
    outbox x.delivery (.channel label) .client frames
      = frames.map fun f => (forChannel x.limit label f).1.frame := by
  rw [outbox, ← List.filterMap_eq_map]
  apply List.filterMap_congr
  intro f _
  have htarget : (x.delivery (.channel label) f).target = .client :=
    target_forChannel x.limit label f
  rw [htarget, if_pos rfl]
  rfl

/-- The client sends itself one message for each frame without an addressee. -/
theorem outbox_client_client (x : Exchange) (frames : List Bytes) :
    outbox x.delivery .client .client frames
      = (unaddressed x.labels frames).map fun f => (forClient x.labels f).frame := by
  rw [outbox, unaddressed]
  induction frames with
  | nil => rfl
  | cons f frames ih =>
    cases haddressee : addressee? x.labels f with
    | some e =>
      have hdelivery : x.delivery .client f = ⟨.channel e.channel, e.payload⟩ :=
        forClient_of_addressee haddressee
      rw [List.filterMap_cons_none (by simp [hdelivery]),
        List.filter_cons_of_neg (by simp [haddressee]), ih]
    | none =>
      obtain ⟨text, name, value, hnotice⟩ := forClient_of_none haddressee
      have htarget : (x.delivery .client f).target = .client := by
        rw [delivery, forFrame, hnotice, Delivery.notice]
      rw [List.filterMap_cons_some (by rw [htarget, if_pos rfl]),
        List.filter_cons_of_pos (by simp [haddressee]), List.map_cons, ih]
      rfl

/-- What a channel's frame comes to is an answer. -/
theorem isAnswer_forChannel (limit : Nat) (label : String) (f : Bytes) :
    IsAnswer limit label f (forChannel limit label f).1.frame := by
  refine ⟨fun h => ?_, fun h => ?_⟩
  · rw [forChannel_of_isCarried h]
  · obtain ⟨text, hnotice⟩ := forChannel_of_not_isCarried h
    exact ⟨text, by rw [hnotice, Delivery.notice]⟩

/-- What a frame without an addressee comes to is a complaint. -/
theorem isComplaint_forClient {labels : List String} {f : Bytes} (h : addressee? labels f = none) :
    IsComplaint (forClient labels f).frame := by
  obtain ⟨text, name, value, hnotice⟩ := forClient_of_none h
  exact ⟨.withDetails .badInput text [(name, .string value)], rfl, by rw [hnotice, Delivery.notice]⟩

end

/-! ### Main result -/

/-- In every run, the frames that have been written to the client are an interleaving of messages
from the sides. From each channel there is one message for each of the first frames that arrived
from it, and from the client one complaint for each of the first of its frames without an addressee,
all in the order of their arrival. In a calm state there is one for every such frame, given that a
scope that ends has an endpoint in it (`Station.after`). -/
theorem framesWritten_client {x : Exchange} (hx : IsNew x) {now : Nat} {events : List Event}
    {s : Station} (hrun : Station.run ⟨now, x⟩ events = some s) :
    ∃ sent : List (Side × Bytes),
      sent.map (·.2) = s.exchange.client.endpoint.framesWritten ∧
      (∀ m ∈ sent, m.1 ∈ x.sides) ∧
      Answers (fun _ message => IsComplaint message)
        (unaddressed x.labels (arrivedAt .client events)) (IsCalm s)
        ((sent.filter (·.1 = .client)).map (·.2)) ∧
      ∀ label ∈ x.labels, Answers (IsAnswer x.limit label) (arrivedAt (.channel label) events)
        (IsCalm s) ((sent.filter (·.1 = .channel label)).map (·.2)) := by
  obtain ⟨hbalanced, hlabels, hlimit⟩ := hx.balanced.run hrun
  simp only [List.nil_append] at hbalanced
  have hclient : s.exchange.party? .client = some s.exchange.client := rfl
  obtain ⟨sent, hsent⟩ := hbalanced.exists_delivered hclient
  rw [delivery_eq hlabels hlimit] at hsent
  have hsides : s.exchange.sides = x.sides := by rw [sides, sides, hlabels]
  refine ⟨sent, hsent.written, ?_, ?_, ?_⟩
  · intro m hm
    obtain ⟨p, hp⟩ := hsent.known m hm
    exact hsides ▸ mem_sides hp
  · refine Answers.of_map (g := fun f => (forClient x.labels f).frame) ?_ ?_ ?_
    · intro f hf
      have hnone := (List.mem_filter.mp hf).2
      exact isComplaint_forClient (Option.isNone_iff_eq_none.mp hnone)
    · rw [← outbox_client_client]
      exact hsent.share hclient
    · intro hcalm
      rw [← outbox_client_client]
      exact hsent.whole hcalm hclient
  · intro label hlabel
    have hside : .channel label ∈ s.exchange.sides :=
      List.mem_cons_of_mem _ (List.mem_map_of_mem (hlabels ▸ hlabel))
    obtain ⟨p, hp⟩ := exists_party hside
    refine Answers.of_map (g := fun f => (forChannel x.limit label f).1.frame) ?_ ?_ ?_
    · intro f _
      exact isAnswer_forChannel x.limit label f
    · rw [← outbox_channel_client]
      exact hsent.share hp
    · intro hcalm
      rw [← outbox_channel_client]
      exact hsent.whole hcalm hp

/-- A channel sends a number and something that is not JSON, and the client something that is no
envelope. When all is written the channel's socket would suspend what comes next. -/
def threeFrames : List Event :=
  [.arrive (.channel "a") (.message (.text "1")), .arrive (.channel "a") (.message (.text "x")),
    .arrive .client (.message (.binary [0xFF])),
    .move (.endpoint (.channel "a") .read), .move (.endpoint (.channel "a") .deliver),
    .move (.relay (.channel "a")), .move (.endpoint .client .read),
    .move (.endpoint .client .deliver), .move (.relay .client),
    .move (.endpoint (.channel "a") .read), .move (.endpoint (.channel "a") .deliver),
    .move (.relay (.channel "a")),
    .move (.endpoint .client .take), .move (.endpoint .client .write),
    .move (.endpoint .client .take), .move (.endpoint .client .write),
    .move (.endpoint .client .take), .move (.endpoint .client .write),
    .setFlow (.channel "a") .blocked]

/-- The client is sent the number and two notices. -/
theorem framesWritten_client_threeFrames :
    ∃ s, Station.run ⟨0, Exchange.start .standard 0 ["a"]⟩ threeFrames = some s ∧ IsCalm s ∧
      s.exchange.client.endpoint.framesWritten =
        [Envelope.encode ⟨"a", [0x31]⟩,
          (Failure.ofRejection .notAnObject).controlFrame, (notJson "a").controlFrame] ∧
      ∃ sent : List (Side × Bytes),
        sent.map (·.2) = s.exchange.client.endpoint.framesWritten ∧
        Answers (fun _ message => IsComplaint message) [[0xFF]] True
          ((sent.filter (·.1 = .client)).map (·.2)) ∧
        Answers (IsAnswer Settings.standard.maxMessageSize "a") [[0x31], [0x78]] True
          ((sent.filter (·.1 = .channel "a")).map (·.2)) := by
  have hrun : ∃ s ∈ Station.run ⟨0, Exchange.start .standard 0 ["a"]⟩ threeFrames, IsCalm s ∧
      s.exchange.client.endpoint.framesWritten =
        [Envelope.encode ⟨"a", [0x31]⟩,
          (Failure.ofRejection .notAnObject).controlFrame, (notJson "a").controlFrame] := by
    decide +kernel
  have hcomplained : unaddressed ["a"] (arrivedAt .client threeFrames) = [[0xFF]] := by
    decide +kernel
  obtain ⟨s, hs, hcalm, hwritten⟩ := hrun
  have hnew : IsNew (Exchange.start .standard 0 ["a"]) := isNew_start rfl 0 (by simp)
  obtain ⟨sent, hsent, -, hclient, hchannel⟩ := framesWritten_client hnew hs
  obtain ⟨answered, hbegins, hwhole, hanswers⟩ := hclient
  obtain ⟨answered', hbegins', hwhole', hanswers'⟩ := hchannel "a" List.mem_cons_self
  refine ⟨s, hs, hcalm, hwritten, sent, hsent, ⟨answered, ?_, ?_, hanswers⟩,
    ⟨answered', hbegins', fun _ => hwhole' hcalm, hanswers'⟩⟩
  · exact hcomplained ▸ hbegins
  · intro _
    exact hcomplained ▸ hwhole hcalm

end Switchboard.Exchange
