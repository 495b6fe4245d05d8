import Switchboard.Proofs.Dial.Forwarded
import Switchboard.Proofs.Session.Run
/-!
# No dial without an answer

A session asks the resolver once, about the client's first frame, and dials only with an answer of
status 200, which is then the only authorization of every dial. So nothing is dialed for a client
without a token and for one whose token is not accepted. Nor is anything dialed after a state in
which nothing could move, when the time was over by then, the client's endpoint had ended or the
switchboard was being shut down (`dialed_of_run`). A session that still has something else to do at
such a time may dial (`dialsAfter_presented`).

The invariant `Progress` has a constructor for each phase of the preparations.
-/

namespace Switchboard

namespace Resolver

/-- Only a whole answer of status 200 gives a token. -/
theorem eq_of_outcome {u : Url} {reply : Option Reply} {token : String}
    (h : outcome u reply = .ok token) : reply = some ⟨200, some token⟩ := by
  cases reply with
  | none => cases h
  | some r =>
    rcases r with ⟨status, body⟩
    cases body with
    | none => cases h
    | some body =>
      simp only [outcome, Reply.token] at h
      split_ifs at h with hstatus
      obtain rfl := Except.ok.inj h
      rw [hstatus]

end Resolver

namespace Session

open Endpoint
open Exchange (Side Dormant)

/-! ### Definitions -/

/-- What has arrived at an endpoint from which nothing was received. -/
structure Unread (frames : List Bytes) (e : Endpoint) : Prop where
  ledger : Ledger e
  received : e.received = []
  arrived : e.framesArrived = frames

/-- The resolver was asked once, about the first frame. -/
def HasAsked (past : List Event) (s : Session) : Prop :=
  ∃ token, s.asked = [token] ∧ token ≠ "" ∧ (arrived past).head? = some (Utf8.encode token)

/-- The resolver has accepted the token, and its answer goes with every dial. -/
structure Authorized (past : List Event) (s : Session) (body : String) : Prop where
  reply : s.reply = some (some ⟨200, some body⟩)
  answered : .answer (some ⟨200, some body⟩) ∈ past
  forwarded : ∃ fields, s.forwarded = some fields ∧ Dial.forwarded s.headers body = .ok fields ∧
    ∀ call ∈ s.dialed, call.forwarded = fields

/-- No line was dialed, and there is one. -/
structure Undialed (s : Session) : Prop where
  ready : ∀ l ∈ s.lines, l.state = .ready
  exists_line : s.lines ≠ []

/-- How far a session has come with its preparations, after the given events. -/
inductive Progress (past : List Event) (s : Session) : Prop
  | listening (hs : s.stage = .listening) (ha : s.asked = []) (hr : s.reply = none)
    (hd : s.dialed = []) (hl : ∀ l ∈ s.lines, l.state = .ready)
    (hx : Dormant (fun side e => side = .client → Unread (arrived past) e) s.exchange)
  | resolving {u : Url} (hs : s.stage = .resolving u) (ha : HasAsked past s)
    (hr : ∀ reply, s.reply = some reply → .answer reply ∈ past) (hd : s.dialed = [])
    (hl : ∀ l ∈ s.lines, l.state = .ready)
  | authorized {body : String} (hs : s.stage = .dialing ∨ s.isPreparing = false)
    (ha : HasAsked past s) (hb : Authorized past s body)
    (hl : s.stage = .dialing → s.dialed = [] → Undialed s)
  | refused (hs : s.isPreparing = false) (ha : s.asked = [] ∨ HasAsked past s) (hd : s.dialed = [])

/-- While a session prepares, a shutdown of the switchboard has ended its scope. -/
def IsWarned (s : Session) : Prop :=
  s.isPreparing = true → s.isStopping = true → s.exchange.isCancelled = true

/-- Why nothing may be dialed in a run: the client's first frame is no token, the resolver accepts
none, or nothing was dialed and nothing could move when the time was over, the client's endpoint had
ended or the switchboard was being shut down. -/
inductive Denied (start : Station) (events : List Event) : Prop
  | noToken (h : ∀ token, (arrived events).head? = some (Utf8.encode token) → token = "")
  | notAccepted (h : ∀ body, .answer (some ⟨200, some body⟩) ∉ events)
  | tooLate {past rest : List Event} {s : Station} (hevents : events = past ++ rest)
    (hrun : start.run past = some s) (hsettled : Settled s.now s.session)
    (hnone : s.session.dialed = [])
    (hend : s.session.deadline ≤ s.now ∨ s.session.client.isDone = true ∨
      s.session.isStopping = true)

section

variable {past : List Event} {s t : Session} {now : Nat} {frames : List Bytes} {e e' : Endpoint}

/-! ### The first frame -/

@[simp] theorem arrived_concat (past : List Event) (event : Event) :
    arrived (past ++ [event]) = arrived past ++ arrived [event] := by
  simp [arrived]

/-- What comes later is not the first frame. -/
theorem HasAsked.concat (h : HasAsked past s) (event : Event) : HasAsked (past ++ [event]) s := by
  obtain ⟨token, hasked, htoken, hhead⟩ := h
  refine ⟨token, hasked, htoken, ?_⟩
  rw [arrived_concat, List.head?_append, hhead]
  rfl

/-- Only the question matters. -/
theorem HasAsked.congr (h : HasAsked past s) (ht : t.asked = s.asked) : HasAsked past t := by
  obtain ⟨token, hasked, hfirst⟩ := h
  exact ⟨token, ht.trans hasked, hfirst⟩

/-- An answer stays given. -/
theorem Authorized.concat {body : String} (h : Authorized past s body) (event : Event) :
    Authorized (past ++ [event]) s body where
  reply := h.reply
  answered := List.mem_append_left _ h.answered
  forwarded := h.forwarded

/-- What the endpoint does by itself receives nothing. -/
theorem Unread.step (h : Unread frames e) {move : Endpoint.Move}
    (hrelayed : Exchange.isRelayed move = false) (he : Endpoint.Step now e move e') :
    Unread frames e' where
  ledger := h.ledger.step he
  received := by
    have hkeeps := Keeps.step he (by rintro ticket rfl; cases hrelayed)
    exact hkeeps.received.trans h.received
  arrived := (framesArrived_step he).trans h.arrived

/-- What arrives is read later. -/
theorem Unread.arrive (h : Unread frames e) (a : Wire.Arrival) :
    Unread (frames ++ a.frame?.toList) (e.arrive a) where
  ledger := h.ledger.arrive a
  received := h.received
  arrived := by
    rw [← h.arrived, framesArrived_arrive]

/-- The end of a scope receives nothing. -/
theorem Unread.cancel (h : Unread frames e) (now : Nat) : Unread frames (e.cancel now) where
  ledger := h.ledger.finish now .scopeEnded
  received := (Keeps.finish e now .scopeEnded).received.trans h.received
  arrived := (framesArrived_finish e now .scopeEnded).trans h.arrived

/-- What is received first arrived first. -/
theorem Unread.head?_eq (h : Unread frames e) {frame : Bytes}
    (hr : e.receive = (.frame frame, e')) : frames.head? = some frame := by
  have hbegins := h.ledger.incoming.received_begins
  unfold Endpoint.receive at hr
  split at hr
  · next f rest hin =>
    obtain rfl : f = frame := by simpa using (Prod.mk.inj hr).1
    rw [h.received, hin] at hbegins
    obtain ⟨tail, htail⟩ := hbegins
    rw [← h.arrived, framesArrived, List.filterMap_append, ← framesTaken, ← htail]
    rfl
  · next hin =>
    have hfirst := (Prod.mk.inj hr).1
    split_ifs at hfirst

/-! ### Every event -/

/-- What is refused has the papers of the session, with the dial of a line that leads nowhere. -/
theorem papers_of_refuses {m : Move} {f : Failure} (h : Refuses now s m t f) : ∃ calls,
    t.papers = { s.papers with dialed := s.dialed ++ calls, lines := t.lines } ∧
      (calls = [] ∨ s.stage = .dialing) ∧ ∀ call ∈ calls, call.forwarded = s.forwarded.getD .empty := by
  cases h with
  | @leadsNowhere l p hs => exact ⟨[⟨l.label, l.url, s.forwarded.getD .empty⟩], rfl, by simp [hs]⟩
  | _ =>
    refine ⟨[], ?_, by simp⟩
    rw [List.append_nil]
    rfl

/-- Whatever concerns neither the client's frames nor the resolver leaves the progress as it is. -/
theorem Progress.concat (h : Progress past s) {event : Event} (hevent : arrived [event] = []) :
    Progress (past ++ [event]) s := by
  cases h with
  | listening hs ha hr hd hl hx =>
    refine .listening hs ha hr hd hl ?_
    rw [arrived_concat, hevent, List.append_nil]
    exact hx
  | resolving hs ha hr hd hl =>
    exact .resolving hs (ha.concat event) (fun r h => List.mem_append_left _ (hr r h)) hd hl
  | authorized hs ha hb hl => exact .authorized hs (ha.concat event) (hb.concat event) hl
  | refused hs ha hd => exact .refused hs (ha.imp_right fun ha => ha.concat event) hd

/-- After the preparations only the papers matter. -/
theorem Progress.of_papers (h : Progress past s) (hs : s.isPreparing = false)
    (ht : t.isPreparing = false) (hpapers : t.papers = { s.papers with lines := t.lines }) :
    Progress past t := by
  have hasked : t.asked = s.asked := congrArg Papers.asked hpapers
  have hreply : t.reply = s.reply := congrArg Papers.reply hpapers
  have hforwarded : t.forwarded = s.forwarded := congrArg Papers.forwarded hpapers
  have hheaders : t.headers = s.headers := congrArg Papers.headers hpapers
  have hdialed : t.dialed = s.dialed := congrArg Papers.dialed hpapers
  cases h with
  | listening hstage => simp [isPreparing, hstage] at hs
  | resolving hstage => simp [isPreparing, hstage] at hs
  | authorized _ ha hb =>
    obtain ⟨hr, hanswered, hfields⟩ := hb
    refine .authorized (Or.inr ht) (ha.congr hasked) ⟨hreply.trans hr, hanswered, ?_⟩ ?_
    · rw [hforwarded, hheaders, hdialed]
      exact hfields
    · intro hstage
      simp [isPreparing, hstage] at ht
  | refused _ ha hd =>
    exact .refused ht (ha.imp hasked.trans fun ha => ha.congr hasked) (hdialed.trans hd)

/-- A refusal. -/
theorem Progress.refuse (h : Progress past s) {m : Move} {f : Failure}
    (hr : Refuses now s m t f) : Progress past (t.refuse now f) := by
  obtain ⟨calls, hpapers, hcalls, hcarry⟩ := papers_of_refuses hr
  have hpreparing := isPreparing_refuse t now f
  have hall := papers_refuse t now f
  rw [hpapers] at hall
  have hasked : (t.refuse now f).asked = s.asked := congrArg Papers.asked hall
  have hreply : (t.refuse now f).reply = s.reply := congrArg Papers.reply hall
  have hforwarded : (t.refuse now f).forwarded = s.forwarded := congrArg Papers.forwarded hall
  have hheaders : (t.refuse now f).headers = s.headers := congrArg Papers.headers hall
  have hdialed : (t.refuse now f).dialed = s.dialed ++ calls := congrArg Papers.dialed hall
  have hnone (hstage : s.stage ≠ .dialing) (hd : s.dialed = []) :
      (t.refuse now f).dialed = [] := by
    rw [hdialed, hd, List.nil_append]
    exact hcalls.resolve_right hstage
  cases h with
  | listening hs ha _ hd =>
    exact .refused hpreparing (Or.inl (hasked.trans ha)) (hnone (by simp [hs]) hd)
  | resolving hs ha _ hd => exact .refused hpreparing (Or.inr (ha.congr hasked)) (hnone (by simp [hs]) hd)
  | refused hs ha hd =>
    refine .refused hpreparing (ha.imp hasked.trans fun ha => ha.congr hasked) (hnone ?_ hd)
    intro hstage
    simp [isPreparing, hstage] at hs
  | authorized hs ha hb =>
    obtain ⟨hr, hanswered, fields, hfields, hfit, hcarried⟩ := hb
    refine .authorized (Or.inr hpreparing) (ha.congr hasked)
      ⟨hreply.trans hr, hanswered, fields, hforwarded.trans hfields, hheaders ▸ hfit, ?_⟩ ?_
    · intro call hcall
      rw [hdialed, List.mem_append] at hcall
      rcases hcall with hcall | hcall
      · exact hcarried call hcall
      · rw [hcarry call hcall, hfields]
        rfl
    · intro hstage
      simp [isPreparing, hstage] at hpreparing

/-- A line that opens. -/
theorem Progress.openLine (h : Progress past s) {l : Line} (hs : s.stage = .dialing)
    (hl : l ∈ s.lines) (hstate : l.state ≠ .ready) : Progress past (s.openLine now l.label) := by
  cases h with
  | listening hs' | resolving hs' => simp [hs] at hs'
  | refused hs' => simp [isPreparing, hs] at hs'
  | @authorized body _ ha hb hundialed =>
    have hdialed : s.dialed ≠ [] := by
      intro hd
      exact hstate ((hundialed hs hd).ready l hl)
    unfold Session.openLine
    rcases joinWhenOpen_cases (({ s with exchange := { s.exchange with
      channels := s.exchange.channels ++ [(l.label, .idle (s.openEndpoint now))] } } :
        Session).setLine l.label .open) with ⟨-, heq⟩ | ⟨-, heq⟩
    · rw [heq]
      refine .authorized (Or.inr rfl) ha { hb with } ?_
      intro hstage
      cases hstage
    · rw [heq]
      refine .authorized (Or.inl hs) ha { hb with } ?_
      intro _ hd
      exact absurd hd hdialed

/-- A move. -/
theorem Progress.step (h : Progress past s) {m : Move} (hstep : Step now s m t) :
    Progress past t := by
  have hover (hs : s.isPreparing = false) : Progress past t :=
    h.of_papers hs (papers_step hstep hs).2 (papers_lines (papers_step hstep hs).1)
  cases hstep with
  | exchange hx =>
    cases h with
    | listening hs ha hr hd hl hdormant =>
      refine .listening hs ha hr hd hl (hdormant.step hx ?_)
      intro side e e' move hrelayed he hunread hside
      exact (hunread hside).step hrelayed he
    | resolving hs ha hr hd hl => exact .resolving hs ha hr hd hl
    | authorized hs ha hb hl =>
      exact .authorized hs ha { hb with } fun hs hd => { hl hs hd with }
    | refused hs ha hd => exact .refused hs ha hd
  | @asked frame e token u hs hr hd ht ha =>
    cases h with
    | resolving hs' => simp [hs] at hs'
    | authorized hs' => simp [isPreparing, hs] at hs'
    | refused hs' => simp [isPreparing, hs] at hs'
    | listening _ hasked hreply hdialed hl hdormant =>
      have hunread : Unread (arrived past) s.client :=
        (hdormant.party (s := .client) rfl).2 rfl
      refine .resolving rfl ⟨token, ?_, ht, ?_⟩ ?_ hdialed hl
      · have hnone : (s.afterFrame e).asked = [] := hasked
        rw [hnone]
        rfl
      · rw [Utf8.encode_of_decode? hd]
        exact hunread.head?_eq hr
      · intro reply h
        have hnone : s.reply = some reply := h
        simp [hreply] at hnone
  | @learned u reply token fields hs hr ho hf =>
    cases h with
    | listening hs' => simp [hs] at hs'
    | authorized hs' => simp [isPreparing, hs] at hs'
    | refused hs' => simp [isPreparing, hs] at hs'
    | resolving _ ha hanswer hdialed hl =>
      obtain rfl := Resolver.eq_of_outcome ho
      have hb : Authorized past { s with stage := .dialing, forwarded := some fields } token :=
        ⟨hr, hanswer _ hr, fields, rfl, hf, by simp [hdialed]⟩
      rcases joinWhenOpen_cases { s with stage := .dialing, forwarded := some fields } with
        ⟨-, heq⟩ | ⟨⟨l, hmem, -⟩, heq⟩
      · rw [heq]
        refine .authorized (Or.inr rfl) ha { hb with } ?_
        intro hstage
        cases hstage
      · rw [heq]
        exact .authorized (Or.inl rfl) ha hb fun _ _ => ⟨hl, List.ne_nil_of_mem hmem⟩
  | @dialed l target hs =>
    cases h with
    | listening hs' | resolving hs' => simp [hs] at hs'
    | refused hs' => simp [isPreparing, hs] at hs'
    | authorized _ ha hb =>
      obtain ⟨hr, hanswered, fields, hfields, hfit, hcarried⟩ := hb
      refine .authorized (Or.inl hs) ha ⟨hr, hanswered, fields, hfields, hfit, ?_⟩ ?_
      · intro call hcall
        rcases List.mem_append.mp hcall with hcall | hcall
        · exact hcarried call hcall
        · obtain rfl := List.mem_singleton.mp hcall
          simp [hfields]
      · intro _ hd
        simp [setLine, recordDial] at hd
  | @connected label l hs hl ha =>
    exact h.openLine hs (exists_line hl).1 (by simp [ha])
  | refused hr => exact h.refuse hr
  | notified hs => exact hover (by simp [isPreparing, hs])
  | reported hs => exact hover (by simp [isPreparing, hs])
  | left hs => exact hover (by simp [isPreparing, hs])
  | finished hs => exact hover (isPreparing_of_isShutDown hs)

/-- Something is done to an endpoint. -/
theorem Progress.onEndpoint (h : Progress past s) {event : Event} {side : Side}
    {f : Endpoint → Endpoint}
    (hf : ∀ e, side = .client → Unread (arrived past) e → Unread (arrived (past ++ [event])) (f e))
    (hother : side ≠ .client → arrived [event] = []) :
    Progress (past ++ [event]) (s.onEndpoint side f) := by
  cases h with
  | listening hs ha hr hd hl hx =>
    refine .listening hs ha hr hd hl (hx.onEndpoint ?_ ?_)
    · intro e hunread hclient
      exact hf e hclient (hunread hclient)
    · intro s e hs hunread hclient
      rw [arrived_concat, hother (hclient ▸ hs.symm), List.append_nil]
      exact hunread hclient
  | resolving hs ha hr hd hl =>
    exact .resolving hs (ha.concat event) (fun r h => List.mem_append_left _ (hr r h)) hd hl
  | authorized hs ha hb hl =>
    have hlater := hb.concat event
    exact .authorized hs (ha.concat event) { hlater with } fun hs hd => { hl hs hd with }
  | refused hs ha hd => exact .refused hs (ha.imp_right fun ha => ha.concat event) hd

/-- The resolver answers. -/
theorem Progress.answer (h : Progress past s) (reply : Option Resolver.Reply) :
    Progress (past ++ [.answer reply]) (s.answer reply) := by
  have hlater : Progress (past ++ [.answer reply]) s := h.concat rfl
  unfold Session.answer
  split
  · next u hs hr =>
    cases h with
    | listening hs' => simp [hs] at hs'
    | authorized hs' => simp [isPreparing, hs] at hs'
    | refused hs' => simp [isPreparing, hs] at hs'
    | resolving _ ha _ hd hl =>
      refine .resolving hs (ha.concat _) ?_ hd hl
      intro r hreply
      obtain rfl := Option.some.inj hreply
      simp
  · exact hlater

/-- A dial is answered. -/
theorem Progress.answerDial (h : Progress past s) (label : String)
    (problem : Option Wire.SocketError) : Progress past (s.answerDial label problem) := by
  rcases answerDial_cases s label problem with heq | ⟨l, hl, hstate, heq⟩
  · rw [heq]
    exact h
  · have hmem : l ∈ s.lines := (exists_line hl).1
    have hready : l.state ≠ .ready := by simp [hstate]
    rw [heq]
    cases h with
    | listening _ _ _ _ hlines => exact absurd (hlines l hmem) hready
    | resolving _ _ _ _ hlines => exact absurd (hlines l hmem) hready
    | refused hs ha hd => exact .refused hs ha hd
    | authorized hs ha hb hundialed =>
      refine .authorized hs ha { hb with } ?_
      intro hstage hd
      exact absurd ((hundialed hstage hd).ready l hmem) hready

/-- The switchboard is shut down. -/
theorem Progress.stop (h : Progress past s) (now : Nat) : Progress past (s.stop now) := by
  cases h with
  | listening hs ha hr hd hl hx =>
    refine .listening hs ha hr hd hl (dormant_cancel hx ?_)
    intro side e hunread hclient
    exact (hunread hclient).cancel now
  | resolving hs ha hr hd hl => exact .resolving hs ha hr hd hl
  | refused hs ha hd => exact .refused hs ha hd
  | authorized hs ha hb hl =>
    exact .authorized hs ha { hb with } fun hs hd => { hl hs hd with }

/-- Every event. -/
theorem Progress.after {s t : Station} {event : Event} (h : Progress past s.session)
    (ht : s.after event = some t) : Progress (past ++ [event]) t.session := by
  cases event with
  | move m =>
    obtain ⟨u, hu, rfl⟩ := Option.map_eq_some_iff.mp ht
    exact (h.step (step_of_perform hu)).concat rfl
  | arrive side a =>
    obtain rfl := Option.some.inj ht
    refine h.onEndpoint ?_ ?_
    · rintro e rfl hunread
      rw [arrived_concat]
      have harrived : arrived [.arrive .client a] = a.frame?.toList := by simp [arrived]
      rw [harrived]
      exact hunread.arrive a
    · intro hside
      cases side with
      | client => exact absurd rfl hside
      | channel label => rfl
  | setFlow side flow =>
    obtain rfl := Option.some.inj ht
    refine h.onEndpoint ?_ fun _ => rfl
    intro e _ hunread
    have hsame : arrived (past ++ [.setFlow side flow]) = arrived past := by simp [arrived]
    rw [hsame]
    exact ⟨hunread.ledger.setFlow flow, hunread.received, hunread.arrived⟩
  | answer reply =>
    obtain rfl := Option.some.inj ht
    exact h.answer reply
  | answerDial label problem =>
    obtain rfl := Option.some.inj ht
    exact (h.answerDial label problem).concat rfl
  | stop =>
    obtain rfl := Option.some.inj ht
    exact (h.stop s.now).concat rfl
  | tick nanos =>
    obtain rfl := Option.some.inj ht
    exact h.concat rfl

/-- At the beginning a session listens. -/
theorem Progress.start (c : Configuration) (gate : Gate) (headers : Http.Headers)
    (isStopping : Bool) (now : Nat) : Progress [] (start c gate headers isStopping now) := by
  refine .listening rfl rfl rfl rfl ?_ ⟨rfl, ?_⟩
  · intro l hl
    obtain ⟨channel, -, rfl⟩ := List.mem_map.mp hl
    rfl
  · intro side p hp
    cases side with
    | client =>
      obtain rfl := Option.some.inj hp
      exact ⟨rfl, fun _ => ⟨(Ledger.start c.endpoint now).takeInbound, rfl, rfl⟩⟩
    | channel label => cases hp

/-! ### The end of the preparations -/

/-- What leaves alone whether the scope has ended leaves the session warned. -/
theorem IsWarned.congr (h : IsWarned s) (hpreparing : t.isPreparing = true → s.isPreparing = true)
    (hstopping : t.isStopping = s.isStopping)
    (hcancelled : t.exchange.isCancelled = s.exchange.isCancelled) : IsWarned t := by
  unfold IsWarned
  rw [hstopping, hcancelled]
  exact fun hprep => h (hpreparing hprep)

/-- The exchange begins, or a line is not open. -/
theorem IsWarned.joinWhenOpen (h : IsWarned s) : IsWarned s.joinWhenOpen := by
  rcases joinWhenOpen_cases s with ⟨-, heq⟩ | ⟨-, heq⟩
  · rw [heq]
    intro hprep
    cases hprep
  · rw [heq]
    exact h

/-- A move of a session that is warned. -/
theorem IsWarned.step (h : IsWarned s) {m : Move} (hstep : Step now s m t) : IsWarned t := by
  have hover (ht : t.isPreparing = false) : IsWarned t := by
    intro hprep
    simp [ht] at hprep
  have hprepared {stage : Stage} (heq : s.stage = stage)
      (hprep : { s with stage := stage }.isPreparing = true) : s.isPreparing = true := by
    rw [← heq] at hprep
    exact hprep
  cases hstep with
  | exchange hx => exact h.congr id rfl (Exchange.isCancelled_eq (Exchange.shape_perform hx))
  | @asked _ e _ _ hs =>
    refine h.congr (fun _ => hprepared hs rfl) rfl ?_
    exact Exchange.isCancelled_eq (Exchange.shape_onEndpoint s.exchange .client fun _ => e)
  | @learned _ _ _ fields hs =>
    have hdialing : IsWarned { s with stage := .dialing, forwarded := some fields } :=
      h.congr (fun _ => hprepared hs rfl) rfl rfl
    exact hdialing.joinWhenOpen
  | dialed => exact h.congr id rfl rfl
  | @connected label l =>
    have hopened : IsWarned (({ s with exchange := { s.exchange with channels :=
        s.exchange.channels ++ [(l.label, .idle (s.openEndpoint now))] } } : Session).setLine
          l.label .open) := h.congr id rfl rfl
    exact hopened.joinWhenOpen
  | refused => exact hover (isPreparing_refuse _ now _)
  | notified | reported => exact hover rfl
  | left => exact hover (papers_leave s now).2
  | finished => exact hover rfl

/-- Every event leaves a session warned. -/
theorem IsWarned.after {s t : Station} {event : Event} (h : IsWarned s.session)
    (ht : s.after event = some t) : IsWarned t.session := by
  cases event with
  | move m =>
    obtain ⟨u, hu, rfl⟩ := Option.map_eq_some_iff.mp ht
    exact h.step (step_of_perform hu)
  | arrive side a =>
    obtain rfl := Option.some.inj ht
    exact h.congr id rfl (Exchange.isCancelled_eq (Exchange.shape_onEndpoint _ side _))
  | setFlow side flow =>
    obtain rfl := Option.some.inj ht
    exact h.congr id rfl (Exchange.isCancelled_eq (Exchange.shape_onEndpoint _ side _))
  | answer reply =>
    obtain rfl := Option.some.inj ht
    dsimp only
    unfold Session.answer
    split <;> exact h.congr id rfl rfl
  | answerDial label problem =>
    obtain rfl := Option.some.inj ht
    dsimp only
    rcases answerDial_cases s.session label problem with heq | ⟨l, -, -, heq⟩
    · rw [heq]
      exact h
    · rw [heq]
      exact h.congr id rfl rfl
  | stop =>
    obtain rfl := Option.some.inj ht
    intro _ _
    exact Exchange.isCancelled_eq (Exchange.shape_onChannels _ _)
  | tick nanos =>
    obtain rfl := Option.some.inj ht
    exact h

/-- A settled session that has dialed nothing prepares no more once the time is over, the client has
gone or the switchboard is being shut down. -/
theorem Progress.isPreparing_eq_false (h : Progress past s) (hwarned : IsWarned s)
    (hsettled : Settled now s) (hnone : s.dialed = [])
    (hend : s.deadline ≤ now ∨ s.client.isDone = true ∨ s.isStopping = true) :
    s.isPreparing = false := by
  by_contra hprep
  rw [Bool.not_eq_false] at hprep
  rcases hend with hlate | hdone | hstopping
  · have hlate := Nat.not_lt.mpr hlate
    cases h with
    | refused hs => simp [hs] at hprep
    | listening hs =>
      have hlisten := hsettled .listen
      have hexpire := hsettled .expire
      rcases hr : s.client.receive with ⟨receipt | _ | _, e⟩
      · simp [perform, hs, hr] at hlisten
      · simp [perform, hs, hr, hlate] at hexpire
      · simp [perform, hs, hr] at hlisten
    | resolving hs =>
      have hlearn := hsettled .learn
      have hexpire := hsettled .expire
      cases hr : s.reply with
      | none => simp [perform, hs, hr, hlate] at hexpire
      | some reply =>
        simp only [perform, hs, hr] at hlearn
        split at hlearn <;> cases hlearn
    | authorized hs _ _ hl =>
      have hdialing : s.stage = .dialing := hs.resolve_right (by simp [hprep])
      obtain ⟨hready, hlines⟩ := hl hdialing hnone
      obtain ⟨l, rest, hrest⟩ := List.exists_cons_of_ne_nil hlines
      have hfirst : l.state = .ready := hready l (by simp [hrest])
      have hdial := hsettled .dial
      simp [perform, hdialing, hrest, hfirst] at hdial
  · have hlose := hsettled .loseClient
    simp [perform, hprep, hdone] at hlose
  · have hlose := hsettled .loseScope
    simp [perform, hprep, hwarned hprep hstopping] at hlose

end

/-! ### Every run -/

section

variable {c : Configuration} {gate : Gate} {headers : Http.Headers} {isStopping : Bool} {now : Nat}
  {events : List Event} {s t : Station}

/-- How far a session has come with its preparations in a run. -/
theorem progress_of_run (hrun : Station.run ⟨now, start c gate headers isStopping now⟩ events = some s) :
    Progress events s.session ∧ IsWarned s.session := by
  have hstart : IsWarned (start c gate headers isStopping now) := fun _ h => h
  exact run_invariant (P := fun past s => Progress past s.session ∧ IsWarned s.session)
    (fun h ht => ⟨h.1.after ht, h.2.after ht⟩) ⟨.start c gate headers isStopping now, hstart⟩ hrun

/-- A session that prepares no more dials nothing. -/
theorem dialed_eq_of_run : ∀ {s : Station}, s.session.isPreparing = false →
    s.run events = some t → t.session.dialed = s.session.dialed := by
  induction events with
  | nil =>
    intro s _ hrun
    obtain rfl := Option.some.inj hrun
    rfl
  | cons event events ih =>
    intro s hs hrun
    obtain ⟨u, hu, hrest⟩ := Option.bind_eq_some_iff.mp hrun
    obtain ⟨hpapers, hprep⟩ := papers_after hu hs
    exact (ih hprep hrest).trans (congrArg Papers.dialed hpapers)

/-- In every run the resolver is asked at most once, about the client's first frame, which is then a
text that is not empty. What is dialed is dialed after the resolver has answered with status 200,
and carries that answer as its only authorization. Where that is denied nothing is dialed. -/
theorem dialed_of_run
    (hrun : Station.run ⟨now, start c gate headers isStopping now⟩ events = some s) :
    (s.session.asked = [] ∨ HasAsked events s.session) ∧
    (s.session.dialed ≠ [] → HasAsked events s.session ∧ ∃ body,
      s.session.reply = some (some ⟨200, some body⟩) ∧
      .answer (some ⟨200, some body⟩) ∈ events ∧
      ∀ call ∈ s.session.dialed, ∀ key,
        (call.request key).headers.values Dial.authorization = [Dial.bearer body]) ∧
    (Denied ⟨now, start c gate headers isStopping now⟩ events → s.session.dialed = []) := by
  obtain ⟨hprogress, -⟩ := progress_of_run hrun
  have hdialed (h : s.session.dialed ≠ []) : HasAsked events s.session ∧
      ∃ body, Authorized events s.session body := by
    cases hprogress with
    | listening _ _ _ hd => exact absurd hd h
    | resolving _ _ _ hd => exact absurd hd h
    | refused _ _ hd => exact absurd hd h
    | authorized _ ha hb => exact ⟨ha, _, hb⟩
  refine ⟨?_, ?_, ?_⟩
  · cases hprogress with
    | listening _ ha => exact Or.inl ha
    | resolving _ ha => exact Or.inr ha
    | authorized _ ha => exact Or.inr ha
    | refused _ ha => exact ha
  · intro h
    obtain ⟨hasked, body, hreply, hanswered, fields, -, hfit, hcarried⟩ := hdialed h
    refine ⟨hasked, body, hreply, hanswered, ?_⟩
    intro call hcall key
    unfold Call.request
    rw [hcarried call hcall]
    exact Dial.values_authorization hfit call.url key
  · intro hdenied
    by_contra h
    obtain ⟨⟨token, -, htoken, hhead⟩, body, hauthorized⟩ := hdialed h
    cases hdenied with
    | noToken hnone => exact htoken (hnone token hhead)
    | notAccepted hnone => exact hnone body hauthorized.answered
    | @tooLate past rest t hevents hpast hsettled hnone hend =>
      subst hevents
      obtain ⟨u, hu, hrest⟩ := Station.run_append hrun
      obtain rfl : t = u := Option.some.inj (hpast.symm.trans hu)
      obtain ⟨hbefore, hwarned⟩ := progress_of_run hpast
      have hover := hbefore.isPreparing_eq_false hwarned hsettled hnone hend
      exact h ((dialed_eq_of_run hover hrest).trans hnone)

/-- The URL of a channel. -/
def channelUrl : Url where
  scheme := "ws".toList
  hasAuthority := true
  user := []
  password := []
  host := some (.name "host".toList)
  port := none
  path := .segments [[]]
  query := none
  fragment := none

/-- A gate with one channel. -/
def oneChannel : Gate := ⟨"gate", [("a", channelUrl)]⟩

/-- A configuration with a resolver at a local address. -/
def localResolver : Configuration where
  gatesFile := "gates.yaml"
  resolverUrl := "http://[::1]/"
  port := Configuration.portDefault
  handshakeTimeout := Configuration.handshakeTimeoutDefault
  endpoint := .standard

/-- The endpoint on a side moves. -/
def moves (side : Side) (list : List Endpoint.Move) : List Event :=
  list.map fun m => .move (.exchange (.endpoint side m))

/-- A client sends its token, and the resolver is asked. -/
def presented : List Event :=
  .arrive .client (.message (.text "token")) :: moves .client [.read, .deliver] ++ [.move .listen]

/-- The resolver accepts the token, and the channel is dialed. -/
def answered : List Event :=
  [.answer (some ⟨200, some "internal"⟩), .move .learn, .move .dial]

/-- A client sends its token, the resolver accepts it, and the channel is dialed. -/
def admitted : List Event := presented ++ answered

/-- A client's connection ends before a token has come, and the session ends too. -/
def clientLeaves : List Event :=
  .arrive .client .finish :: moves .client [.read] ++ [.move .loseClient] ++
    moves .client [.stopWriting, .write, .write, .write, .write, .join, .join] ++ [.move .finish]

/-- The channel is dialed with what the resolver answered, and not when the client has left. -/
theorem dialed_of_run_admitted :
    (∃ s, Station.run ⟨0, start localResolver oneChannel .empty false 0⟩ admitted = some s ∧
      s.session.dialed ≠ [] ∧ s.session.asked = ["token"] ∧ ∀ call ∈ s.session.dialed, ∀ key,
        (call.request key).headers.values Dial.authorization = [Dial.bearer "internal"]) ∧
    ∃ s, Station.run ⟨0, start localResolver oneChannel .empty false 0⟩
        (clientLeaves ++ admitted.take 1) = some s ∧ s.session.dialed = [] := by
  constructor
  · have hrun : ∃ s ∈ Station.run ⟨0, start localResolver oneChannel .empty false 0⟩ admitted,
        s.session.dialed ≠ [] ∧ s.session.asked = ["token"] ∧
          s.session.reply = some (some ⟨200, some "internal"⟩) := by
      decide +kernel
    obtain ⟨s, hs, hdialed, hasked, hreply⟩ := hrun
    obtain ⟨-, body, hbody, -, hcarried⟩ := (dialed_of_run hs).2.1 hdialed
    obtain rfl : body = "internal" := by simpa [hreply] using hbody.symm
    exact ⟨s, hs, hdialed, hasked, hcarried⟩
  · have hpast : ∃ t ∈ Station.run ⟨0, start localResolver oneChannel .empty false 0⟩ clientLeaves,
        Settled t.now t.session ∧ t.session.dialed = [] ∧ t.session.client.isDone = true := by
      decide +kernel
    have hrun : (Station.run ⟨0, start localResolver oneChannel .empty false 0⟩
        (clientLeaves ++ admitted.take 1)).isSome = true := by
      decide +kernel
    obtain ⟨t, ht, hsettled, hnone, hdone⟩ := hpast
    obtain ⟨s, hs⟩ := Option.isSome_iff_exists.mp hrun
    exact ⟨s, hs, (dialed_of_run hs).2.2 (.tooLate rfl ht hsettled hnone (Or.inr (Or.inl hdone)))⟩

/-- A session at the gate with one channel dials after a state of this kind in which it had not
dialed. -/
def DialsAfter (c : Configuration) (P : Station → Prop) (past rest : List Event) : Prop :=
  ∃ t ∈ Station.run ⟨0, start c oneChannel .empty false 0⟩ past, P t ∧ t.session.dialed = [] ∧
    ∃ s ∈ t.run rest, s.session.dialed ≠ []

/-- A client closes. -/
def clientCloses : List Event := [.arrive .client (.message (.close none))]

/-- A configuration under which an inbound queue holds one frame. -/
def shallowQueues : Configuration :=
  { localResolver with endpoint := { Settings.standard with inboundCapacity := 1 } }

/-- A client sends more than its inbound queue holds and closes. Its reader does not come to the
close message. -/
def overfull : List Event :=
  .arrive .client (.message (.text "x")) :: moves .client [.read, .deliver] ++
    .arrive .client (.message (.text "y")) :: moves .client [.read] ++ clientCloses

/-- What ends the preparations of a session need not end them while it has something else to do: it
takes an answer that has come by then, and dials. Nor does a client that has closed end them before
its reader comes to that, even when nothing else can move. -/
theorem dialsAfter_presented :
    DialsAfter localResolver (·.session.client.isDone = true)
      (presented ++ clientCloses ++ moves .client [.read]) answered ∧
    DialsAfter localResolver (·.session.isStopping = true) (presented ++ [.stop]) answered ∧
    DialsAfter localResolver (fun t => t.session.deadline ≤ t.now)
      (presented ++ [.tick (10 * nanosPerSecond)]) answered ∧
    DialsAfter shallowQueues (fun t => Settled t.now t.session) (presented ++ overfull) answered := by
  unfold DialsAfter
  decide +kernel

end

end Session

end Switchboard
