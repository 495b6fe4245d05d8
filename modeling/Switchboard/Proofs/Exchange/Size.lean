import Switchboard.Gate.Label
import Switchboard.Proofs.Endpoint.Reading
import Switchboard.Proofs.Envelope.Size
import Switchboard.Proofs.Exchange.Delivery
import Switchboard.Proofs.Exchange.Evolution
import Switchboard.Proofs.Exchange.Forward
/-!
# The size of frames

An exchange lets in no frame that is longer than its limit, and what it sends for a frame is bounded
by the frame or checked against the limit; its notices are short. There is one exception. The notice
of a label that no channel has repeats the label and says more than the frame that named it, and
nothing checks its length: it can be longer than the limit (`exists_run_longLabel`), though by no
more than 91 bytes (`length_le_of_run`).
-/

namespace Switchboard

open Json

/-! ### Notices -/

/-- The frame of a failure with one detail is as long as its texts make it. -/
theorem Failure.length_withDetails (kind : Kind) (text name value : String) :
    (withDetails kind text [(name, .string value)]).controlFrame.length =
      75 + escapedLength kind.name + escapedLength text + escapedLength name +
        escapedLength value := by
  have hcontrol : escapedLength Envelope.controlLabel = 8 := by decide
  have hcode : escapedLength "code" = 4 := by decide
  have hmessage : escapedLength "message" = 7 := by decide
  have hdetails : escapedLength "details" = 7 := by decide
  have hvalue : (withDetails kind text [(name, .string value)]).details.getD .empty =
      .object [(name, .string value)] := rfl
  rw [controlFrame, Envelope.length_encode, notice, hvalue]
  simp only [Notice.envelope, Notice.render, renderFields, Envelope.encodedLength, Value.render,
    renderMembers, withDetails, length_renderString, hcontrol, hcode, hmessage, hdetails,
    List.isEmpty_cons, List.cons_append, Bool.false_eq_true, if_false, List.length_append,
    List.length_cons, List.length_nil]
  omega

/-- The names of kinds are short. -/
theorem Failure.Kind.length_name_le (kind : Kind) : escapedLength kind.name ≤ 15 := by
  cases kind <;> decide

/-- A label is written as it is. -/
theorem escapedLength_of_isLabel {label : String} (h : Gate.isLabel label = true) :
    escapedLength label ≤ Gate.maxLabelLength := by
  simp only [Gate.isLabel, Bool.and_eq_true, decide_eq_true_eq] at h
  obtain ⟨⟨-, hlength⟩, hall⟩ := h
  rwa [escapedLength, escape_eq_self_of_test rfl rfl (by decide) (List.all_eq_true.mp hall)]

/-! ### Moves of an idle endpoint -/

namespace Endpoint

/-- An endpoint that waits for a frame, with room for one and for what is sent. -/
structure IsIdle (e : Endpoint) : Prop where
  reader : e.reader = .listening
  arrivals : e.arrivals = []
  inbound : e.inbound = []
  consumer : e.consumer = .taken
  writer : e.writer = .idle
  isDone : e.isDone = false
  receives : 0 < e.settings.inboundCapacity
  accepts : e.waiting.length < e.room

variable {e : Endpoint} {frame : Bytes} (now : Nat)

/-- The reader takes a frame that is within its limit. -/
theorem perform_read {rest : List Wire.Arrival} (hreader : e.reader = .listening)
    (harrivals : e.arrivals = .message (.binary frame) :: rest)
    (hlength : frame.length ≤ e.settings.maxMessageSize) :
    e.perform now .read = some { e with
      arrivals := rest
      taken := e.taken ++ [.message (.binary frame)]
      reader := .offering frame } := by
  simp only [perform, hreader, harrivals, readArrival, readMessage, Wire.Message.content,
    if_neg (Nat.not_lt_of_le hlength)]

/-- The reader puts its frame into the queue when there is room. -/
theorem perform_deliver (hreader : e.reader = .offering frame) (hconsumer : e.consumer = .taken)
    (hroom : e.inbound.length < e.settings.inboundCapacity) :
    e.perform now .deliver =
      some { e with reader := .listening, inbound := e.inbound ++ [frame] } := by
  have htaken : ¬ e.consumer = .gone := by simp [hconsumer]
  simp only [perform, hreader, if_neg htaken, if_pos hroom]

/-- A frame is accepted when there is room. -/
theorem send_eq_finished (hwriter : e.writer = .idle) (hdone : e.isDone = false)
    (hroom : e.waiting.length < e.room) :
    e.send frame = (.finished true, { e with
      tickets := e.tickets + 1
      outbound := e.outbound ++ [frame]
      accepted := e.accepted ++ [⟨e.tickets, frame⟩] }) := by
  have hopen : e.isClosed = false := by simp only [isClosed, hwriter]
  have hstays : ¬ (e.isDone || e.isClosed) = true := by simp [hdone, hopen]
  exact (if_neg hstays).trans (if_pos hroom)

end Endpoint

namespace Exchange

open Endpoint

/-! ### What is sent for a frame -/

/-- The least limit under which the notices of an exchange fit that do not repeat the client. -/
def leastLimit : Nat := 1024

section

variable {label : String} {limit : Nat} {frame : Bytes} {e : Envelope}

/-- What is told of a frame that is no envelope. -/
theorem length_ofRejection_le {r : Envelope.Rejection} (h : Envelope.decode frame = .error r) :
    (Failure.ofRejection r).controlFrame.length ≤ max leastLimit frame.length := by
  have htext : escapedLength "malformed envelope" = 18 := by decide
  have hname : escapedLength "reason" = 6 := by decide
  have hkind := Failure.Kind.badInput.length_name_le
  have hmessage : escapedLength r.message ≤ 870 + 2 * ((frame.length + 1) / 1000) := by
    cases r with
    | malformed reason =>
      have hprefix : escapedLength "malformed frame: " = 17 := by decide
      have hreason := Envelope.length_malformed_le h
      have hwords : (Envelope.Rejection.malformed reason).message =
        "malformed frame: " ++ reason := rfl
      rw [Problem.maxWording] at hreason
      rw [hwords, escapedLength_append, hprefix]
      omega
    | _ => exact Nat.le_trans (m := 870) (by decide) (Nat.le_add_right _ _)
  rw [Failure.ofRejection, Failure.length_withDetails, htext, hname, leastLimit]
  omega

/-- The notice of a label that no channel has says 105 bytes besides the label. -/
theorem length_unknownChannel (label : String) :
    (unknownChannel label).controlFrame.length = escapedLength label + 105 := by
  have hkind : escapedLength Failure.Kind.badInput.name = 8 := by decide
  have htext : escapedLength "unknown channel" = 15 := by decide
  have hname : escapedLength "channel" = 7 := by decide
  rw [unknownChannel, Failure.length_withDetails, hkind, htext, hname]
  omega

/-- The frame that named the label says no less than 14. -/
theorem length_unknownChannel_le (h : Envelope.decode frame = .ok e) :
    (unknownChannel e.channel).controlFrame.length ≤ frame.length + 91 := by
  have hlabel := Envelope.length_channel_le h
  rw [length_renderString] at hlabel
  rw [length_unknownChannel]
  omega

/-- What is sent for a channel's frame is within the limit. -/
theorem length_forChannel_le (hlimit : leastLimit ≤ limit) (hlabel : Gate.isLabel label = true)
    (frame : Bytes) : (forChannel limit label frame).1.frame.length ≤ limit := by
  have hname : escapedLength "channel" = 7 := by decide
  have hlength := escapedLength_of_isLabel hlabel
  have hkind := Failure.Kind.internal.length_name_le
  rw [Gate.maxLabelLength] at hlength
  rw [leastLimit] at hlimit
  have hnotice {text : String} (htext : escapedLength text ≤ 50) :
      (Failure.withDetails .internal text [("channel", .string label)]).controlFrame.length
        ≤ limit := by
    rw [Failure.length_withDetails, hname]
    omega
  unfold forChannel
  dsimp only
  split_ifs with hjson hlarge
  · exact hnotice (by decide)
  · exact hnotice (by decide)
  · rw [Envelope.length_encode]
    exact Nat.le_of_not_lt hlarge

/-- The notice that an envelope's label is that of no channel. -/
def IsRepeat (labels : List String) (d : Delivery) : Prop :=
  ∃ label, (label ∈ labels → label = Envelope.controlLabel) ∧ d = .notice (unknownChannel label)

/-- What is sent for a client's frame is within the limit, or repeats the frame's label. -/
theorem length_forClient_le (labels : List String) (hlimit : leastLimit ≤ limit)
    (hframe : frame.length ≤ limit) : (forClient labels frame).frame.length ≤ limit ∨
      IsRepeat labels (forClient labels frame) ∧
        (forClient labels frame).frame.length ≤ limit + 91 := by
  unfold forClient
  split
  · next r hr => exact .inl ((length_ofRejection_le hr).trans (max_le hlimit hframe))
  · next e he =>
    split_ifs with hnone
    · refine .inr ⟨⟨e.channel, fun hlabel => ?_, rfl⟩, ?_⟩
      · simpa [Envelope.isControl, hlabel] using hnone
      · exact (length_unknownChannel_le he).trans (Nat.add_le_add_right hframe 91)
    · have hpayload := (Envelope.isJson_of_decode he).2.2
      exact .inl ((hpayload.trans (Envelope.length_normalize_le frame)).trans hframe)

end

/-! ### Runs -/

section

variable {arrived : Side → List Bytes} {x : Exchange} {side : Side} {q : Party} {w : Waiting}

/-- Every frame that was accepted or waits was sent for a frame that was relayed. -/
theorem Balanced.exists_relayed (h : Balanced arrived x) (hq : x.party? side = some q)
    (hw : w ∈ q.endpoint.accepted ++ q.endpoint.waiting) : ∃ source p frame,
      x.party? source = some p ∧ frame ∈ p.relayed ∧ x.delivery source frame = ⟨side, w.frame⟩ := by
  obtain ⟨owner, ha⟩ := h.accounts
  obtain ⟨p, hp⟩ : ∃ p, x.party? (owner side w.ticket) = some p := by
    rcases List.mem_append.mp hw with haccepted | hwaiting
    · exact ha.known hq w haccepted
    · obtain ⟨p, hp, -⟩ := ha.owned hq w hwaiting
      exact ⟨p, hp⟩
  obtain ⟨rest, hshare, -⟩ := ha.share hp hq
  have hmem : w.frame ∈ outbox x.delivery (owner side w.ticket) side p.relayed := by
    rw [hshare]
    refine List.mem_append_left _ (List.mem_map.mpr ⟨w, List.mem_filter.mpr ⟨hw, ?_⟩, rfl⟩)
    exact decide_eq_true rfl
  obtain ⟨frame, hframe, hsent⟩ := List.mem_filterMap.mp hmem
  split_ifs at hsent with htarget
  refine ⟨_, p, frame, hp, hframe, ?_⟩
  calc x.delivery (owner side w.ticket) frame
      = ⟨(x.delivery (owner side w.ticket) frame).target,
          (x.delivery (owner side w.ticket) frame).frame⟩ := rfl
    _ = ⟨side, w.frame⟩ := by rw [htarget, Option.some.inj hsent]

/-- In every run, no frame is relayed that is longer than the limits of the endpoints. -/
theorem IsNew.length_relayed_le (hx : IsNew x) {limit : Nat}
    (hsettings : ∀ side p, x.party? side = some p →
      p.endpoint.settings.maxMessageSize ≤ limit)
    {now : Nat} {events : List Event} {s : Station} (hrun : Station.run ⟨now, x⟩ events = some s)
    {side : Side} {p : Party} (hp : s.exchange.party? side = some p) :
    ∀ frame ∈ p.relayed, frame.length ≤ limit := by
  obtain ⟨hbalanced, -, -⟩ := hx.balanced.run hrun
  obtain ⟨owner, ha⟩ := hbalanced.accounts
  obtain ⟨before, hreceived, -⟩ := (ha.sound hp).hears
  have hsized : IsSized limit p.endpoint := by
    refine Exchange.forall_run (P := fun _ e => IsSized limit e) (isStable_sized limit) hrun ?_ hp
    intro side p hp
    have hlimit := hsettings side p hp
    obtain ⟨settings, born, -, rfl⟩ := hx.party hp
    exact (isStable_sized limit).act (.takeInbound : Act now _ _) (.start hlimit born)
  intro frame hframe
  apply hsized.frames
  rw [hreceived]
  simp [hframe]

end

/-! ### A notice beyond the limit -/

/-- A client sends a frame, and it is relayed. -/
def oneFrame (frame : Bytes) : List Event :=
  [.arrive .client (.message (.binary frame)), .move (.endpoint .client .read),
    .move (.endpoint .client .deliver), .move (.relay .client)]

section

variable {x : Exchange} {e e' : Endpoint} {r : Relay} {fs : List Bytes} (now : Nat)

/-- A move of the client's endpoint that logs nothing. -/
theorem after_client {m : Endpoint.Move} (hx : x.client = ⟨e, r, fs⟩) (hm : isRelayed m = false)
    (h : e.perform now m = some e') (hlog : e'.log = e.log) :
    Station.after ⟨now, x⟩ (.move (.endpoint .client m)) =
      some ⟨now, { x with client := ⟨e', r, fs⟩ }⟩ := by
  simp [Station.after, perform, hm, party?, hx, h, setEndpoint, setParty, noteFrom, hlog]

/-- The relay of the client receives a frame and sends it on. -/
theorem after_relay {frame : Bytes} {rest : List Bytes} (hx : x.client = ⟨e, .receiving, fs⟩)
    (h : e.inbound = frame :: rest) :
    Station.after ⟨now, x⟩ (.move (.relay .client)) = some ⟨now, deliver
      { x with client :=
        ⟨{ e with inbound := rest, received := e.received ++ [frame] }, .receiving, fs ++ [frame]⟩ }
      .client (forClient x.labels frame)⟩ := by
  simp [Station.after, perform, relayOn, party?, hx, Endpoint.receive, h, forFrame, receivedBy,
    setEndpoint, setParty, noteFrom, note, labels]

/-- A frame that comes from an idle client is relayed at once. -/
theorem run_oneFrame {frame : Bytes} (hx : x.client = ⟨e, .receiving, fs⟩) (he : IsIdle e)
    (hlength : frame.length ≤ e.settings.maxMessageSize) :
    Station.run ⟨now, x⟩ (oneFrame frame) = some ⟨now, deliver
      { x with client := ⟨{ e with
          taken := e.taken ++ [.message (.binary frame)]
          received := e.received ++ [frame] }, .receiving, fs ++ [frame]⟩ }
      .client (forClient x.labels frame)⟩ := by
  have hcons {s s' : Station} {event : Event} (h : s.after event = some s') (events : List Event) :
      s.run (event :: events) = s'.run events := by rw [Station.run, h, Option.bind_some]
  let a : Wire.Arrival := .message (.binary frame)
  let c (e : Endpoint) : Exchange := { x with client := ⟨e, .receiving, fs⟩ }
  let e₁ := { e with arrivals := [a] }
  let e₂ := { e with taken := e.taken ++ [a], reader := .offering frame }
  let e₃ := { e with taken := e.taken ++ [a], inbound := [frame] }
  have harrive : Station.after ⟨now, x⟩ (.arrive .client a) = some ⟨now, c e₁⟩ := by
    simp [Station.after, onEndpoint, party?, hx, setEndpoint, setParty, noteFrom, arrive,
      he.arrivals, c, e₁]
  have hread : Station.after ⟨now, c e₁⟩ (.move (.endpoint .client .read)) = some ⟨now, c e₂⟩ := by
    have h := perform_read now (e := e₁) he.reader rfl hlength
    refine (after_client now rfl rfl h ?_).trans ?_
    · rfl
    · simp only [c, e₁, e₂, a, he.arrivals]
  have hdeliver : Station.after ⟨now, c e₂⟩ (.move (.endpoint .client .deliver)) =
      some ⟨now, c e₃⟩ := by
    have hroom : e₂.inbound.length < e₂.settings.inboundCapacity := by
      rw [show e₂.inbound = [] from he.inbound]
      exact he.receives
    have h := perform_deliver now (e := e₂) rfl he.consumer hroom
    refine (after_client now rfl rfl h ?_).trans ?_
    · rfl
    · simp only [c, e₂, e₃, he.reader, he.inbound, List.nil_append]
  have hrelay := after_relay now (x := c e₃) (e := e₃) rfl rfl
  rw [oneFrame, hcons harrive, hcons hread, hcons hdeliver, hcons hrelay]
  simp only [Station.run, c, e₃, he.inbound]
  rfl

/-- What is delivered to a client that has room for it is accepted. -/
theorem deliver_client (frame : Bytes) (hx : x.client = ⟨e, r, fs⟩) (hwriter : e.writer = .idle)
    (hdone : e.isDone = false) (hroom : e.waiting.length < e.room) :
    (x.deliver .client ⟨.client, frame⟩).limit = x.limit ∧
      (x.deliver .client ⟨.client, frame⟩).client.endpoint.accepted =
        e.accepted ++ [⟨e.tickets, frame⟩] := by
  simp only [deliver, party?, hx, send_eq_finished hwriter hdone hroom, setEndpoint, setParty,
    noteFrom, and_self]

/-- What is sent to an idle client for its frame is accepted. -/
theorem exists_run_oneFrame {frame notice : Bytes} (hx : x.client = ⟨e, .receiving, fs⟩)
    (he : IsIdle e) (hlength : frame.length ≤ e.settings.maxMessageSize)
    (hsent : forClient x.labels frame = ⟨.client, notice⟩) :
    ∃ s ∈ Station.run ⟨now, x⟩ (oneFrame frame), ∃ q ∈ s.exchange.party? .client,
      s.exchange.limit = x.limit ∧ q.endpoint.accepted = e.accepted ++ [⟨e.tickets, notice⟩] := by
  have hrun := run_oneFrame now hx he hlength
  rw [hsent] at hrun
  have hdeliver := deliver_client notice (x := { x with client := ⟨{ e with
      taken := e.taken ++ [.message (.binary frame)]
      received := e.received ++ [frame] }, .receiving, fs ++ [frame]⟩ })
    rfl he.writer he.isDone he.accepts
  exact ⟨_, hrun, _, rfl, hdeliver⟩

end

/-- A label that is too long for the notice that it is that of no channel. -/
def longLabel (n : Nat) : String := String.ofList (List.replicate n 'x')

/-- A letter is written as it is. -/
theorem escapedLength_longLabel (n : Nat) : escapedLength (longLabel n) = n := by
  have hencode : Utf8.encode (longLabel n) = List.replicate n 0x78 := by
    rw [Utf8.encode, longLabel, String.toList_ofList, List.flatMap_replicate]
    simp [show String.utf8EncodeChar 'x' = [0x78] from rfl]
  have hkept : escape (List.replicate n 0x78) = List.replicate n 0x78 := by
    apply escape_eq_self
    intro b hb
    rw [List.eq_of_mem_replicate hb]
    rfl
  rw [escapedLength, hencode, hkept, List.length_replicate]

/-- The frame of an envelope with a long label. -/
theorem length_encode_longLabel (n : Nat) :
    (Envelope.encode ⟨longLabel n, [0x30]⟩).length = n + 26 := by
  simp only [Envelope.length_encode, Envelope.encodedLength, length_renderString,
    escapedLength_longLabel, List.isEmpty_cons, Bool.false_eq_true, if_false, List.length_cons,
    List.length_nil]
  omega

/-- What is sent for an envelope with a long label. -/
theorem forClient_longLabel (n : Nat) : forClient ["a"] (Envelope.encode ⟨longLabel n, [0x30]⟩) =
    .notice (unknownChannel (longLabel n)) := by
  have hdecode := Envelope.decode_encode_of_isJson (longLabel n) (p := [0x30]) (by decide +kernel)
  have hother : longLabel n ≠ "a" := by
    intro h
    have hmem : 'a' ∈ (longLabel n).toList := by simp [h]
    rw [longLabel, String.toList_ofList] at hmem
    exact absurd (List.eq_of_mem_replicate hmem) (by decide)
  simp [forClient, hdecode, hother]

/-- An exchange can send its client a notice that is longer than the limit: the notice of a label
that no channel has and that leaves no room in the client's frame. -/
theorem exists_run_longLabel {settings : Settings} (hroom : hasRoom settings = true)
    (hping : settings.pingPeriod.toNanos ≠ 0) {n : Nat} (hn : n + 26 ≤ settings.maxMessageSize) :
    ∃ s ∈ Station.run ⟨0, Exchange.start settings 0 ["a"]⟩
        (oneFrame (Envelope.encode ⟨longLabel n, [0x30]⟩)),
      ∃ q ∈ s.exchange.party? .client, s.exchange.limit = settings.maxMessageSize ∧
        ∃ w ∈ q.endpoint.accepted ++ q.endpoint.waiting, w.frame.length = n + 105 := by
  have hlength := (length_encode_longLabel n).trans_le hn
  have hnotice : (unknownChannel (longLabel n)).controlFrame.length = n + 105 := by
    rw [length_unknownChannel, escapedLength_longLabel]
  have hidle : IsIdle (Party.start settings 0).endpoint := by
    obtain ⟨hout, hin⟩ := hasRoom_iff.mp hroom
    exact ⟨rfl, rfl, rfl, rfl, if_neg hping, rfl, hin, hout⟩
  obtain ⟨s, hs, q, hq, hlimit, haccepted⟩ := exists_run_oneFrame 0
    (x := Exchange.start settings 0 ["a"]) (Party.start_eq settings 0) hidle hlength
    (forClient_longLabel n)
  refine ⟨s, hs, q, hq, hlimit, ⟨0, (unknownChannel (longLabel n)).controlFrame⟩, ?_, hnotice⟩
  rw [haccepted]
  exact List.mem_append_left _ (List.mem_singleton_self _)

/-! ### Main result -/

/-- In every run of a new exchange whose endpoints let in no frame beyond its limit and whose
channels have labels, every frame that is queued for a side is within the limit, apart from the
notices that an envelope's label is that of no channel: they repeat the label, and can be longer
than the limit by 91 bytes. -/
theorem length_le_of_run {x : Exchange} (hx : IsNew x) (hlimit : leastLimit ≤ x.limit)
    (hlabels : ∀ label ∈ x.labels, Gate.isLabel label = true)
    (hsettings : ∀ side p, x.party? side = some p →
      p.endpoint.settings.maxMessageSize ≤ x.limit)
    {now : Nat} {events : List Event} {s : Station} (hrun : Station.run ⟨now, x⟩ events = some s)
    {side : Side} {q : Party} (hq : s.exchange.party? side = some q) :
    ∀ w ∈ q.endpoint.accepted ++ q.endpoint.waiting, w.frame.length ≤ x.limit ∨
      IsRepeat x.labels ⟨side, w.frame⟩ ∧ w.frame.length ≤ x.limit + 91 := by
  intro w hw
  obtain ⟨hbalanced, hsame, hsameLimit⟩ := hx.balanced.run hrun
  obtain ⟨source, p, frame, hp, hframe, hsent⟩ := hbalanced.exists_relayed hq hw
  have hlength := hx.length_relayed_le hsettings hrun hp frame hframe
  rw [delivery_eq hsame hsameLimit] at hsent
  cases source with
  | client =>
    have hfor := length_forClient_le x.labels hlimit hlength
    rwa [show forClient x.labels frame = ⟨side, w.frame⟩ from hsent] at hfor
  | channel label =>
    have hlabel := hlabels label (hsame ▸ mem_labels hp)
    have hfor := length_forChannel_le hlimit hlabel frame
    rw [show (forChannel x.limit label frame).1 = ⟨side, w.frame⟩ from hsent] at hfor
    exact .inl hfor

/-- Settings under which no frame beyond the least limit is let in. -/
def strictSettings : Settings := { Settings.standard with maxMessageSize := leastLimit }

/-- A client under the least limit is sent the notice that its frame is no envelope. -/
theorem length_le_of_run_oneFrame :
    ∃ s q w, Station.run ⟨0, Exchange.start strictSettings 0 ["a"]⟩ (oneFrame [0x61]) = some s ∧
      s.exchange.party? .client = some q ∧ w ∈ q.endpoint.accepted ++ q.endpoint.waiting ∧
      (w.frame.length ≤ leastLimit ∨
        IsRepeat ["a"] ⟨.client, w.frame⟩ ∧ w.frame.length ≤ leastLimit + 91) := by
  have hrun : ∃ s ∈ Station.run ⟨0, Exchange.start strictSettings 0 ["a"]⟩ (oneFrame [0x61]),
      ∃ q ∈ s.exchange.party? .client, q.endpoint.accepted ++ q.endpoint.waiting ≠ [] := by
    decide +kernel
  obtain ⟨s, hs, q, hq, hne⟩ := hrun
  obtain ⟨w, hw⟩ := List.exists_mem_of_ne_nil _ hne
  have hnew : IsNew (Exchange.start strictSettings 0 ["a"]) := isNew_start rfl 0 (by simp)
  have hlabels : ∀ label ∈ (Exchange.start strictSettings 0 ["a"]).labels,
      Gate.isLabel label = true := by
    decide +kernel
  have hsettings : ∀ side p, (Exchange.start strictSettings 0 ["a"]).party? side = some p →
      p.endpoint.settings.maxMessageSize ≤ (Exchange.start strictSettings 0 ["a"]).limit := by
    intro side p hp
    rw [eq_start_of_party? hp]
    exact Nat.le_refl _
  exact ⟨s, q, w, hs, hq, hw, length_le_of_run hnew (Nat.le_refl _) hlabels hsettings hs hq w hw⟩

/-- A client under the least limit can be sent a frame that is longer, though its own frame was
not. -/
theorem leastLimit_lt_length :
    (Envelope.encode ⟨longLabel 998, [0x30]⟩).length ≤ leastLimit ∧
      ∃ s ∈ Station.run ⟨0, Exchange.start strictSettings 0 ["a"]⟩
          (oneFrame (Envelope.encode ⟨longLabel 998, [0x30]⟩)),
        ∃ q ∈ s.exchange.party? .client, ∃ w ∈ q.endpoint.accepted ++ q.endpoint.waiting,
          s.exchange.limit = leastLimit ∧ leastLimit < w.frame.length := by
  have hroom : hasRoom strictSettings = true := rfl
  obtain ⟨s, hs, q, hq, hlimit, w, hw, hlength⟩ :=
    exists_run_longLabel hroom (by decide) (n := 998) (Nat.le_refl _)
  refine ⟨length_encode_longLabel 998 ▸ Nat.le_refl _, s, hs, q, hq, w, hw, hlimit, ?_⟩
  rw [hlength, leastLimit]
  decide

end Exchange

end Switchboard
