import Switchboard.Proofs.Exchange.Handover
import Switchboard.Proofs.Session.Refusal
/-!
# What a session relays

A session takes one frame from its client before the exchange begins, the token, and the exchange
hears all that come after it, whenever they come (`relayed_of_run`). The token itself goes to the
resolver and nowhere else.

While a session prepares it has received as many frames of its client as it has sent tokens to the
resolver (`Awaiting`). So its exchange begins behind the first frame, and goes on hearing what
arrives (`Routing`), whatever the session does to it.
-/

namespace Switchboard

namespace Endpoint

/-- An endpoint that is in use: nobody has asked for its shutdown or let go of its inbound queue. -/
structure IsHeld (e : Endpoint) : Prop where
  unasked : e.shutdown = .unasked
  consumer_ne : e.consumer ≠ .gone

/-- The endpoint does not let go of itself. -/
theorem IsHeld.step {e e' : Endpoint} {now : Nat} {m : Move} (h : IsHeld e)
    (hs : Step now e m e') : IsHeld e' := by
  cases hs with
  | reader hs =>
    cases hs with
    | data | pong | other | delivered => exact ⟨h.unasked, h.consumer_ne⟩
    | _ =>
      rw [stopReader_eq]
      exact ⟨h.unasked, h.consumer_ne⟩
  | writer hs =>
    cases hs with
    | take | ping | wrote => exact ⟨h.unasked, h.consumer_ne⟩
    | _ =>
      rw [beginFarewell_eq]
      exact ⟨h.unasked, h.consumer_ne⟩
  | farewell _ hs => cases hs <;> exact ⟨h.unasked, h.consumer_ne⟩
  | accepted | refused => exact ⟨h.unasked, h.consumer_ne⟩
  | writerGone hs | readerGone hs | aborted hs => simp [h.unasked] at hs

end Endpoint

namespace Session

open Endpoint
open Exchange (Side Dormant Listens Reaches IsAnswered addressedTo)

/-! ### Definitions -/

/-- An endpoint of a session that prepares. It is in use, and if it belongs to a channel it ends with
the scope. From the client so many frames were received of those that have arrived. -/
structure Standby (closed : Prop) (count : Nat) (frames : List Bytes) (side : Side)
    (e : Endpoint) : Prop where
  held : IsHeld e
  done : closed → side ≠ .client → e.isDone = true
  count_eq : side = .client → e.received.length = count
  arrived_eq : side = .client → e.framesArrived = frames

/-- A session that prepares has received as many frames as it has sent tokens to the resolver. -/
structure Awaiting (past : List Event) (s : Session) : Prop where
  isPreparing : s.isPreparing = true
  gate_ne : s.gate.channels ≠ []
  dormant : Dormant
    (Standby (s.exchange.isCancelled = true) s.asked.length (arrived past)) s.exchange

/-- A session whose exchange has begun hears what comes after the first frame. -/
structure Routing (past : List Event) (s : Session) : Prop where
  stage : s.stage = .joined ∨
    s.exchange.isRunning = false ∧ (s.stage = .closing ∨ s.stage = .over)
  arrived_ne : arrived past ≠ []
  listens : Listens (arrived past).tail s.exchange

/-- What has become of the client's inbound queue. -/
inductive Handover (past : List Event) (s : Session) : Prop
  | awaiting (h : Awaiting past s)
  | routing (h : Routing past s)
  | refused (hs : s.isPreparing = false) (hr : s.refusal ≠ none)

section

variable {settings : Settings} {closed closed' : Prop} {count now : Nat} {frames : List Bytes} {side : Side}
  {e e' : Endpoint} {past : List Event} {s t : Session} {event : Event}

/-! ### The endpoints of a session that prepares -/

/-- The scope may have ended less often. -/
theorem Standby.mono (h : Standby closed count frames side e) (hclosed : closed' → closed) :
    Standby closed' count frames side e :=
  ⟨h.held, fun h' => h.done (hclosed h'), h.count_eq, h.arrived_eq⟩

/-- The endpoint moves. -/
theorem Standby.step (h : Standby closed count frames side e) {m : Endpoint.Move}
    (hm : Exchange.isRelayed m = false) (hs : Endpoint.Step now e m e') :
    Standby closed count frames side e' := by
  have hkeeps : Keeps e e' := by
    apply Keeps.step hs
    rintro ticket rfl
    cases hm
  refine ⟨h.held.step hs, ?_, ?_, ?_⟩
  · intro hclosed hside
    exact hkeeps.done (h.done hclosed hside)
  · intro hside
    rw [hkeeps.received]
    exact h.count_eq hside
  · intro hside
    exact (framesArrived_step hs).trans (h.arrived_eq hside)

/-- The scope of the endpoint ends. -/
theorem Standby.cancel (h : Standby closed count frames side e) (now : Nat) :
    Standby True count frames side (e.cancel now) := by
  have hkeeps := Keeps.finish e now .scopeEnded
  refine ⟨?_, ?_, ?_, ?_⟩
  · rw [Endpoint.cancel, finish_eq]
    exact ⟨h.held.unasked, h.held.consumer_ne⟩
  · intro _ _
    rw [Endpoint.cancel, finish_eq]
    rfl
  · intro hside
    exact (congrArg _ hkeeps.received).trans (h.count_eq hside)
  · intro hside
    exact (framesArrived_finish e now .scopeEnded).trans (h.arrived_eq hside)

/-- Something arrives. -/
theorem Standby.arrive (h : Standby closed count (arrived past) side e) (a : Wire.Arrival) :
    Standby closed count (arrived (past ++ [.arrive side a])) side (e.arrive a) := by
  refine ⟨⟨h.held.unasked, h.held.consumer_ne⟩, h.done, h.count_eq, ?_⟩
  rintro rfl
  rw [framesArrived_arrive, h.arrived_eq rfl, arrived_concat]
  simp [arrived]

/-- A frame of the client's is received. -/
theorem Standby.receive (h : Standby closed count frames .client e) {frame : Bytes}
    (hr : e.receive = (.frame frame, e')) : Standby closed (count + 1) frames .client e' := by
  obtain ⟨rest, rfl⟩ := Exchange.eq_of_receive_frame hr
  refine ⟨⟨h.held.unasked, h.held.consumer_ne⟩, h.done, fun hside => ?_, h.arrived_eq⟩
  rw [List.length_append, h.count_eq hside, List.length_singleton]

/-- A new endpoint. -/
theorem Standby.start (settings : Settings) (now : Nat) {label : String} :
    Standby False count frames (.channel label) (Endpoint.start settings now) where
  held := ⟨rfl, by simp [Endpoint.start]⟩
  done := False.elim
  count_eq hside := by cases hside
  arrived_eq hside := by cases hside

/-- An endpoint that is in use can be taken over if it has accepted nothing. -/
theorem Standby.isReady (h : Standby closed count frames side e) (ha : HasAccepted settings [] e)
    (hroom : hasRoom settings = true) : Exchange.IsReady e where
  ledger := ha.ledger
  hasRoom := by
    rw [ha.settings_eq]
    exact hroom
  accepted_eq := List.map_eq_nil_iff.mp ha.accepted_eq
  waiting_eq := ha.waiting_eq
  consumer_ne := h.held.consumer_ne

/-! ### A session whose exchange has begun -/

/-- Something happens that is no frame of the client's. -/
theorem Routing.concat (h : Routing past s) (hevent : arrived [event] = []) :
    Routing (past ++ [event]) s := by
  have hsame : arrived (past ++ [event]) = arrived past := by
    rw [arrived_concat, hevent, List.append_nil]
  refine ⟨h.stage, ?_, ?_⟩
  · rw [hsame]
    exact h.arrived_ne
  · rw [hsame]
    exact h.listens

/-- A session whose exchange has begun prepares no more. -/
theorem Routing.notPreparing (h : Routing past s) : s.isPreparing = false := by
  rcases h.stage with hs | ⟨-, hs | hs⟩ <;> simp [isPreparing, hs]

/-- Something is done to the exchange alone. -/
theorem Routing.reaches (h : Routing past s) {x : Exchange} (hx : Reaches now s.exchange x) :
    Routing past { s with exchange := x } where
  stage := h.stage.imp_right fun hs => ⟨hx.isRunning hs.1, hs.2⟩
  arrived_ne := h.arrived_ne
  listens := h.listens.reaches hx

/-- A session closes everything by events of its exchange. -/
theorem reaches_closeAll (s : Session) (now : Nat) (hlabels : s.exchange.labels ≠ []) :
    Reaches now s.exchange (s.closeAll now).exchange := by
  have hannounced : Reaches now s.exchange (s.announceStop now).exchange := by
    unfold announceStop
    split_ifs
    · exact .of_after (.close .client Wire.CloseCode.goingAway) rfl rfl
    · exact .refl now s.exchange
  have hcancelled : Reaches now (s.announceStop now).exchange
      ((s.announceStop now).cancel now).exchange := by
    apply Reaches.cancelChannels
    rwa [labels_announceStop]
  exact (hannounced.trans hcancelled).trans (.shutDownAll now _ _)

/-- A move of a session whose exchange has begun. -/
theorem Routing.step (h : Routing past s) {m : Move} (hstep : Step now s m t) : Routing past t := by
  have hprep := h.notPreparing
  cases hstep with
  | @exchange m x hx =>
    have hmoved : Exchange.Station.after ⟨now, s.exchange⟩ (.move m) = some ⟨now, x⟩ := by
      rw [Exchange.Station.after, hx]
      rfl
    exact h.reaches (.of_after (.move m) hmoved rfl)
  | left hs hr =>
    obtain ⟨r, hresult⟩ := Option.ne_none_iff_exists'.mp
      (fun hnone => by simp [h.listens.orderly.isRunning_iff.mpr hnone] at hr)
    obtain ⟨rfl, -⟩ := h.listens.orderly.result_eq hresult
    have hleave : s.leave now = s.closeAll now := by
      unfold leave
      rw [hresult]
    have hclosed := reaches_closeAll s now h.listens.labels_ne
    rw [hleave]
    exact ⟨Or.inr ⟨hclosed.isRunning hr, Or.inl rfl⟩, h.arrived_ne, h.listens.reaches hclosed⟩
  | finished hs =>
    have hr : s.exchange.isRunning = false := by
      rcases h.stage with hjoined | ⟨hr, -⟩
      · simp [isShutDown, hjoined] at hs
      · exact hr
    refine ⟨Or.inr ⟨?_, Or.inr rfl⟩, h.arrived_ne, (h.listens.dropInbound hr .client).note _⟩
    exact (Prod.mk.inj (Exchange.outcome_onEndpoint s.exchange .client dropInbound)).1.trans hr
  | asked hs | learned hs | dialed hs | connected hs => simp [isPreparing, hs] at hprep
  | refused hr => simp [isPreparing_of_refuses hr] at hprep
  | notified hs | reported hs => rcases h.stage with hs' | ⟨-, hs' | hs'⟩ <;> simp [hs] at hs'

/-- An event leaves the exchange of a session listening to what comes after the first frame. -/
theorem Routing.after {s t : Station} (h : Routing past s.session) (ht : s.after event = some t) :
    Routing (past ++ [event]) t.session := by
  cases event with
  | move m =>
    obtain ⟨u, hu, rfl⟩ := Option.map_eq_some_iff.mp ht
    exact (h.step (step_of_perform hu)).concat rfl
  | arrive side a =>
    obtain rfl := Option.some.inj ht
    have hrun : Exchange.Station.run ⟨s.now, s.session.exchange⟩ [.arrive side a]
        = some ⟨s.now, (s.session.onEndpoint side (·.arrive a)).exchange⟩ := rfl
    have hsame : Exchange.arrivedAt .client [.arrive side a] = arrived [.arrive side a] := by
      cases side <;> simp [Exchange.arrivedAt, arrived]
    have hlistens := h.listens.run hrun
    refine ⟨?_, ?_, ?_⟩
    · exact h.stage.imp_right fun hs => ⟨Exchange.Station.isRunning_run hrun hs.1, hs.2⟩
    · rw [arrived_concat]
      exact List.append_ne_nil_of_left_ne_nil h.arrived_ne _
    · rwa [arrived_concat, List.tail_append_of_ne_nil h.arrived_ne, ← hsame]
  | setFlow side flow =>
    obtain rfl := Option.some.inj ht
    have hset : Reaches s.now s.session.exchange
        (s.session.exchange.onEndpoint side (·.setFlow flow)) :=
      .of_after (.setFlow side flow) rfl rfl
    exact (h.reaches hset).concat rfl
  | answer reply =>
    obtain rfl := Option.some.inj ht
    dsimp only
    rw [answer_eq_self h.notPreparing]
    exact h.concat rfl
  | answerDial label problem =>
    obtain rfl := Option.some.inj ht
    have hlater : Routing (past ++ [.answerDial label problem]) s.session := h.concat rfl
    dsimp only
    rcases answerDial_cases s.session label problem with heq | ⟨l, -, -, heq⟩
    · rw [heq]
      exact hlater
    · rw [heq]
      exact ⟨hlater.stage, hlater.arrived_ne, hlater.listens⟩
  | stop =>
    obtain rfl := Option.some.inj ht
    have hreached := h.reaches (Reaches.cancelChannels s.now h.listens.labels_ne)
    have hlater : Routing (past ++ [.stop]) _ := hreached.concat rfl
    exact ⟨hlater.stage, hlater.arrived_ne, hlater.listens⟩
  | tick nanos =>
    obtain rfl := Option.some.inj ht
    exact h.concat rfl

/-! ### A session that prepares -/

/-- Something happens that is no frame of the client's. -/
theorem Awaiting.concat (h : Awaiting past s) (hevent : arrived [event] = []) :
    Awaiting (past ++ [event]) s := by
  have hsame : arrived (past ++ [event]) = arrived past := by
    rw [arrived_concat, hevent, List.append_nil]
  refine ⟨h.isPreparing, h.gate_ne, ?_⟩
  rw [hsame]
  exact h.dormant

/-- Something is done to an endpoint. -/
theorem Awaiting.onEndpoint (h : Awaiting past s) {g : Endpoint → Endpoint}
    (hg : ∀ {closed count e}, Standby closed count (arrived past) side e →
      Standby closed count (arrived (past ++ [event])) side (g e))
    (hother : side ≠ .client → arrived [event] = []) :
    Awaiting (past ++ [event]) (s.onEndpoint side g) := by
  refine ⟨h.isPreparing, h.gate_ne, ?_⟩
  have hcancelled : (s.onEndpoint side g).exchange.isCancelled = s.exchange.isCancelled :=
    Exchange.isCancelled_eq (Exchange.shape_onEndpoint s.exchange side g)
  rw [hcancelled]
  refine h.dormant.onEndpoint (fun _ => hg) ?_
  intro other e hne hstandby
  refine ⟨hstandby.held, hstandby.done, hstandby.count_eq, ?_⟩
  rintro rfl
  rw [arrived_concat, hother hne.symm, List.append_nil]
  exact hstandby.arrived_eq rfl

/-- The exchange begins behind the first frame, or the session goes on preparing. -/
theorem Awaiting.joinWhenOpen (h : Awaiting past s) (hp : Preparing settings past s)
    (hroom : hasRoom settings = true) (ha : HasAsked past s) :
    Awaiting past s.joinWhenOpen ∨ Routing past s.joinWhenOpen := by
  rcases joinWhenOpen_cases s with ⟨hopen, heq⟩ | ⟨-, heq⟩
  · obtain ⟨token, hasked, -, hfirst⟩ := ha
    have hlabels : s.exchange.labels ≠ [] := by
      intro hnone
      have hperm := (hp.lines.complete hopen).labels
      rw [hnone] at hperm
      exact h.gate_ne (List.map_eq_nil_iff.mp hperm.nil_eq.symm)
    have hready : Dormant (fun _ => Exchange.IsReady) s.exchange := by
      refine ⟨h.dormant.outcome, ?_⟩
      intro side p hparty
      obtain ⟨hidle, hstandby⟩ := h.dormant.party hparty
      exact ⟨hidle, hstandby.isReady (hp.dormant.party hparty).2 hroom⟩
    have hdone : s.exchange.isCancelled = true → Exchange.SomeDone s.exchange.party? := by
      intro hcancelled
      obtain ⟨label, rest, hrest⟩ := List.exists_cons_of_ne_nil hlabels
      have hside : Side.channel label ∈ s.exchange.sides := by
        simp [Exchange.sides, hrest]
      obtain ⟨p, hparty⟩ := Exchange.exists_party hside
      exact ⟨_, p, hparty, (h.dormant.party hparty).2.done hcancelled (by simp)⟩
    have hclient : s.exchange.party? .client = some s.exchange.client := rfl
    obtain ⟨-, hstandby⟩ := h.dormant.party hclient
    have hunheard : s.exchange.unheard .client = (arrived past).tail := by
      rw [Exchange.unheard, hclient, Option.map_some, Option.getD_some, hstandby.count_eq rfl,
        hstandby.arrived_eq rfl, hasked, List.length_singleton, List.drop_one]
    have hlistens := hready.listens_begin hp.lines.nodup hlabels hdone
    rw [hunheard] at hlistens
    rw [heq]
    refine Or.inr ⟨Or.inl rfl, ?_, hlistens.note _⟩
    intro hnone
    simp [hnone] at hfirst
  · rw [heq]
    exact Or.inl h

/-- Once a session listens no more it has asked the resolver. -/
theorem Progress.hasAsked (h : Progress past s) (hprep : s.isPreparing = true)
    (hs : s.stage ≠ .listening) : HasAsked past s := by
  cases h with
  | listening hlistening => exact absurd hlistening hs
  | resolving _ ha => exact ha
  | authorized _ ha => exact ha
  | refused hover => simp [hprep] at hover

/-- A line opens. -/
theorem Awaiting.openLine (h : Awaiting past s) (hp : Preparing settings past s)
    (hroom : hasRoom settings = true) (ha : HasAsked past s) {l : Line} (hl : l ∈ s.lines)
    (hanswered : l.state = .answered none) (now : Nat) :
    Awaiting past (s.openLine now l.label) ∨ Routing past (s.openLine now l.label) := by
  have hstandby : Standby (s.exchange.isCancelled = true) s.asked.length (arrived past)
      (.channel l.label) (s.openEndpoint now) := by
    have hstart : Standby False s.asked.length (arrived past) (.channel l.label)
        (Endpoint.start s.configuration.endpoint now) := .start _ now
    unfold openEndpoint
    dsimp only
    split_ifs with hcancelled
    · exact (hstart.cancel now).mono fun _ => trivial
    · exact hstart.mono hcancelled
  unfold Session.openLine
  refine Awaiting.joinWhenOpen ?_ (hp.addChannel hl hanswered now) hroom (ha.congr rfl)
  exact ⟨h.isPreparing, h.gate_ne, h.dormant.addChannel hstandby⟩

/-- A move of a session that prepares. -/
theorem Awaiting.step (h : Awaiting past s) (hp : Preparing settings past s)
    (hroom : hasRoom settings = true) (hprogress : Progress past s) {m : Move}
    (hstep : Step now s m t) :
    Awaiting past t ∨ Routing past t ∨ t.isPreparing = false ∧ t.refusal ≠ none := by
  have hprep := h.isPreparing
  cases hstep with
  | exchange hx =>
    refine Or.inl ⟨h.isPreparing, h.gate_ne, ?_⟩
    rw [Exchange.isCancelled_eq (Exchange.shape_perform hx)]
    exact h.dormant.step hx fun hm hs hstandby => hstandby.step hm hs
  | @asked frame e token u hs hr =>
    have hclient : s.exchange.party? .client = some s.exchange.client := rfl
    have hreceived := (h.dormant.party hclient).2.receive hr
    have hdormant : Dormant
        (Standby (s.exchange.isCancelled = true) (s.asked.length + 1) (arrived past))
        (s.afterFrame e).exchange := by
      refine h.dormant.onEndpoint (fun _ _ => hreceived) ?_
      intro side e hside hstandby
      exact ⟨hstandby.held, hstandby.done, fun hclient => absurd hclient hside,
        fun hclient => absurd hclient hside⟩
    have hlength := @List.length_append _ s.asked [token]
    have hcancelled := Exchange.isCancelled_eq
      (Exchange.shape_onEndpoint s.exchange .client fun _ => e)
    refine Or.inl ⟨rfl, h.gate_ne, hdormant.mono fun side e' hstandby => ?_⟩
    obtain ⟨hheld, hdone, hcount, harrived⟩ := hstandby.mono hcancelled.symm.trans
    exact ⟨hheld, hdone, fun hside => (hcount hside).trans hlength.symm, harrived⟩
  | @learned u reply token fields hs =>
    have ha := hprogress.hasAsked hprep (by simp [hs])
    have hdialing : Awaiting past { s with stage := .dialing, forwarded := some fields } :=
      ⟨rfl, h.gate_ne, h.dormant⟩
    have hlines : Preparing settings past { s with stage := .dialing, forwarded := some fields } :=
      ⟨rfl, hp.refusal, hp.settings_eq, hp.lines.congr rfl rfl rfl rfl, hp.dormant⟩
    rcases hdialing.joinWhenOpen hlines hroom (ha.congr rfl) with h | h
    · exact Or.inl h
    · exact Or.inr (Or.inl h)
  | dialed => exact Or.inl ⟨h.isPreparing, h.gate_ne, h.dormant⟩
  | connected hs hl hanswered =>
    have ha := hprogress.hasAsked hprep (by simp [hs])
    rcases h.openLine hp hroom ha (exists_line hl).1 hanswered now with h | h
    · exact Or.inl h
    · exact Or.inr (Or.inl h)
  | @refused _ u f =>
    refine Or.inr (Or.inr ⟨isPreparing_refuse u now f, ?_⟩)
    have hrefusal : (u.refuse now f).refusal = some f :=
      congrArg Papers.refusal (papers_refuse u now f)
    simp [hrefusal]
  | notified hs | reported hs | left hs => simp [Session.isPreparing, hs] at hprep
  | finished hs => simp [isPreparing_of_isShutDown hs] at hprep

/-- An event leaves a session preparing, or its exchange begins, or it is refused. -/
theorem Awaiting.after {s t : Station} (h : Awaiting past s.session)
    (hp : Preparing settings past s.session) (hroom : hasRoom settings = true)
    (hprogress : Progress past s.session) (ht : s.after event = some t) :
    Handover (past ++ [event]) t.session := by
  cases event with
  | move m =>
    obtain ⟨u, hu, rfl⟩ := Option.map_eq_some_iff.mp ht
    rcases h.step hp hroom hprogress (step_of_perform hu) with h | h | ⟨hover, hrefusal⟩
    · exact .awaiting (h.concat rfl)
    · exact .routing (h.concat rfl)
    · exact .refused hover hrefusal
  | arrive side a =>
    obtain rfl := Option.some.inj ht
    refine .awaiting (h.onEndpoint (fun hstandby => hstandby.arrive a) ?_)
    intro hside
    cases side with
    | client => exact absurd rfl hside
    | channel label => rfl
  | setFlow side flow =>
    obtain rfl := Option.some.inj ht
    refine .awaiting (h.onEndpoint (fun hstandby => ?_) fun _ => rfl)
    have hsame : arrived (past ++ [.setFlow side flow]) = arrived past := by simp [arrived]
    rw [hsame]
    exact ⟨⟨hstandby.held.unasked, hstandby.held.consumer_ne⟩, hstandby.done, hstandby.count_eq,
      hstandby.arrived_eq⟩
  | answer reply =>
    obtain rfl := Option.some.inj ht
    have hlater : Awaiting (past ++ [.answer reply]) s.session := h.concat rfl
    dsimp only
    unfold Session.answer
    split
    · exact .awaiting ⟨hlater.isPreparing, hlater.gate_ne, hlater.dormant⟩
    · exact .awaiting hlater
  | answerDial label problem =>
    obtain rfl := Option.some.inj ht
    have hlater : Awaiting (past ++ [.answerDial label problem]) s.session := h.concat rfl
    dsimp only
    rcases answerDial_cases s.session label problem with heq | ⟨l, -, -, heq⟩
    · rw [heq]
      exact .awaiting hlater
    · rw [heq]
      exact .awaiting ⟨hlater.isPreparing, hlater.gate_ne, hlater.dormant⟩
  | stop =>
    obtain rfl := Option.some.inj ht
    have hlater : Awaiting (past ++ [.stop]) s.session := h.concat rfl
    have hdormant : Dormant
        (Standby True s.session.asked.length (arrived (past ++ [.stop])))
        (s.session.stop s.now).exchange := by
      refine hlater.dormant.cancelled.onChannels hp.lines.nodup ?_ ?_
      · intro e hstandby
        exact ⟨hstandby.held, fun _ hside => absurd rfl hside, hstandby.count_eq,
          hstandby.arrived_eq⟩
      · intro label e hstandby
        exact hstandby.cancel s.now
    exact .awaiting ⟨hlater.isPreparing, hlater.gate_ne,
      hdormant.mono fun _ _ hstandby => hstandby.mono fun _ => trivial⟩
  | tick nanos =>
    obtain rfl := Option.some.inj ht
    exact .awaiting (h.concat rfl)

end

/-! ### Every run -/

section

variable {settings : Settings} {past events : List Event} {event : Event} {s t : Station}
  {now : Nat} {c : Configuration} {gate : Gate} {headers : Http.Headers} {isStopping : Bool}

/-- Every event. -/
theorem Handover.after (h : Handover past s.session) (hphase : Phase settings past s)
    (hprogress : Progress past s.session) (hroom : hasRoom settings = true)
    (ht : s.after event = some t) : Handover (past ++ [event]) t.session := by
  cases h with
  | awaiting h =>
    have hprep := h.isPreparing
    cases hphase with
    | preparing hp => exact h.after hp hroom hprogress ht
    | joined hp => simp [hp.notPreparing] at hprep
    | refused _ hp => simp [hp.notPreparing] at hprep
  | routing h => exact .routing (h.after ht)
  | refused hs hr =>
    obtain ⟨hpapers, hs'⟩ := papers_after ht hs
    have hrefusal : t.session.refusal = s.session.refusal := congrArg Papers.refusal hpapers
    exact .refused hs' (hrefusal ▸ hr)

/-- A new session has received nothing. -/
theorem Awaiting.start (hn : gate.channels ≠ []) :
    Awaiting [] (start c gate headers isStopping now) := by
  refine ⟨rfl, hn, rfl, ?_⟩
  intro side p hp
  cases side with
  | client =>
    obtain rfl := Option.some.inj hp
    have htaken : (Session.start c gate headers isStopping now).client.consumer = .taken := rfl
    refine ⟨rfl, ⟨rfl, ?_⟩, fun _ hside => absurd rfl hside, fun _ => rfl, fun _ => rfl⟩
    exact fun hgone => by cases htaken.symm.trans hgone
  | channel label => cases hp

/-- What has become of the client's inbound queue in a run. -/
theorem handover_of_run (hroom : hasRoom c.endpoint = true)
    (hd : (gate.channels.map (·.1)).Nodup) (hn : gate.channels ≠ [])
    (hrun : Station.run ⟨now, start c gate headers isStopping now⟩ events = some s) :
    Handover events s.session := by
  have hstart : Phase c.endpoint [] ⟨now, start c gate headers isStopping now⟩ :=
    .preparing (.start hd)
  have hall := run_invariant
    (P := fun past s => Phase c.endpoint past s ∧ Progress past s.session ∧ Handover past s.session)
    (fun h ht => ⟨h.1.after hroom ht, h.2.1.after ht, h.2.2.after h.1 h.2.1 hroom ht⟩)
    ⟨hstart, .start c gate headers isStopping now, .awaiting (.start hn)⟩ hrun
  exact hall.2.2

/-- A session whose exchange has not begun, or never will, has relayed nothing to anyone. -/
theorem Phase.unrelayed (h : Phase settings past s)
    (hs : s.session.isPreparing = true ∨ s.session.refusal ≠ none) {side : Side}
    {p : Exchange.Party} (hp : s.session.exchange.party? side = some p) :
    p.relayed = [] ∧ (side ≠ .client ∨ s.session.refusal = none → p.endpoint.framesWritten = []) := by
  cases h with
  | preparing h =>
    obtain ⟨hidle, haccepted⟩ := h.dormant.party hp
    exact ⟨congrArg Exchange.Party.relayed hidle, fun _ => List.prefix_nil.mp haccepted.framesWritten⟩
  | joined h => simp [h.notPreparing, h.refusal] at hs
  | refused hf h =>
    obtain ⟨hidle, hparting⟩ := h.dormant.party hp
    refine ⟨congrArg Exchange.Party.relayed hidle, ?_⟩
    rintro (hside | hnone)
    · cases side with
      | client => exact absurd rfl hside
      | channel label => exact List.prefix_nil.mp hparting.accepted.framesWritten
    · simp [hf] at hnone

/-- In every run the client's first frame is the token, and the exchange relays the first of the
frames that come after it, in order, whenever they have come: also those that come before the
resolver has answered or a line is open. While the exchange goes on it has relayed all of them in
every settled state in which all endpoints are alive and no write is suspended. The first frame has no
part in anything that the exchange sends: what is written to a channel are the payloads that the
relayed frames have for it, and what is written to the client complains of relayed frames or answers
those of the channels. A refused session relays nothing.

Gates that were read from a file have channels, under different labels (`Registry.isSound_of_parse`,
`Registry.nodup_labels_of_parse`), and without room in its queues no endpoint begins. -/
theorem relayed_of_run (hroom : hasRoom c.endpoint = true)
    (hd : (gate.channels.map (·.1)).Nodup) (hn : gate.channels ≠ [])
    (hrun : Station.run ⟨now, start c gate headers isStopping now⟩ events = some s) :
    (s.session.asked = [] ∨ HasAsked events s.session) ∧
    s.session.exchange.client.relayed <+: (arrived events).tail ∧
    (s.session.stage = .joined → Settled s.now s.session →
      (∀ {side p}, s.session.exchange.party? side = some p →
        IsAlive p.endpoint ∧ (p.endpoint.flow = .blocked → p.endpoint.slot = none)) →
      s.session.exchange.client.relayed = (arrived events).tail) ∧
    (∀ {label p}, s.session.exchange.party? (.channel label) = some p →
      p.endpoint.framesWritten <+: addressedTo label s.session.exchange.client.relayed) ∧
    (s.session.refusal = none → IsAnswered s.session.exchange) ∧
    (s.session.refusal ≠ none → ∀ {side p}, s.session.exchange.party? side = some p →
      p.relayed = []) := by
  have hphase := phase_of_run hroom hd hrun
  have hclient : s.session.exchange.party? .client = some s.session.exchange.client := rfl
  have hasked : s.session.asked = [] ∨ HasAsked events s.session := by
    cases (progress_of_run hrun).1 with
    | listening _ ha => exact Or.inl ha
    | resolving _ ha | authorized _ ha => exact Or.inr ha
    | refused _ ha => exact ha
  refine ⟨hasked, ?_⟩
  -- The exchange has begun, or nothing was relayed.
  have hcases : Routing events s.session ∨
      s.session.stage ≠ .joined ∧ (s.session.isPreparing = true ∨ s.session.refusal ≠ none) := by
    cases handover_of_run hroom hd hn hrun with
    | routing h => exact Or.inl h
    | awaiting h =>
      refine Or.inr ⟨?_, Or.inl h.isPreparing⟩
      intro hjoined
      have hprep := h.isPreparing
      simp [isPreparing, hjoined] at hprep
    | refused hs hr =>
      refine Or.inr ⟨?_, Or.inr hr⟩
      intro hjoined
      cases hphase with
      | preparing h => exact hr h.refusal
      | joined h => exact hr h.refusal
      | refused _ h => rcases h.stage with hs | hs <;> simp [hs] at hjoined
  rcases hcases with h | ⟨hstage, hs⟩
  · obtain ⟨heard, hheard, hbalanced⟩ := h.listens.balanced
    obtain ⟨owner, ha⟩ := hbalanced.accounts
    refine ⟨?_, ?_, fun hp => hbalanced.framesWritten_begins hp, fun _ => hbalanced.isAnswered, ?_⟩
    · rw [← hheard]
      exact (ha.sound hclient).relayed_begins
    · intro _ hsettled hcalm
      have hstate : Exchange.IsCalm ⟨s.now, s.session.exchange⟩ :=
        ⟨hsettled.exchange, fun hp => (hcalm hp).1, fun hp => (hcalm hp).2⟩
      rw [← hheard]
      exact hstate.relayed_eq ha hclient
    · intro hr side p hp
      exact (hphase.unrelayed (Or.inr hr) hp).1
  · have hnone := (hphase.unrelayed hs hclient).1
    refine ⟨?_, fun hjoined => absurd hjoined hstage, ?_, ?_, ?_⟩
    · rw [hnone]
      exact List.nil_prefix
    · intro label p hp
      rw [(hphase.unrelayed hs hp).2 (Or.inl (by simp))]
      exact List.nil_prefix
    · intro hr
      exact Exchange.isAnswered_of_nil ((hphase.unrelayed hs hclient).2 (Or.inr hr))
    · intro hr side p hp
      exact (hphase.unrelayed hs hp).1

/-- An envelope for the first channel. -/
def letter (payload : UInt8) : Bytes := Envelope.encode ⟨"a", [payload]⟩

/-- A client's token is an envelope itself. A frame comes with it, and another one before the line is
open. -/
def pipelined : List Event :=
  [.arrive .client (.message (.binary (letter 0x31))),
    .arrive .client (.message (.binary (letter 0x32)))] ++
  moves .client [.read, .deliver, .read, .deliver] ++
  [.move .listen, .answer (some ⟨200, some "internal"⟩), .move .learn, .move .dial,
    .arrive .client (.message (.binary (letter 0x33))), .answerDial "a" none,
    .move (.connect "a"), .move (.exchange (.relay .client))] ++
  moves .client [.read, .deliver] ++ [.move (.exchange (.relay .client))] ++
  moves (.channel "a") [.take, .write, .take, .write]

/-- Both frames reach the channel, and the token does not. -/
theorem relayed_of_run_pipelined :
    ∃ s p, Station.run ⟨0, start localResolver oneChannel .empty false 0⟩ pipelined = some s ∧
      s.session.exchange.party? (.channel "a") = some p ∧
      arrived pipelined = [letter 0x31, letter 0x32, letter 0x33] ∧
      HasAsked pipelined s.session ∧
      s.session.exchange.client.relayed = [letter 0x32, letter 0x33] ∧
      p.endpoint.framesWritten = [[0x32], [0x33]] ∧
      p.endpoint.framesWritten <+: addressedTo "a" s.session.exchange.client.relayed := by
  have hpipelined : ∃ s ∈ Station.run ⟨0, start localResolver oneChannel .empty false 0⟩ pipelined,
      s.session.stage = .joined ∧ Settled s.now s.session ∧ s.session.asked ≠ [] ∧
        (∀ side ∈ s.session.exchange.sides, ∀ p ∈ s.session.exchange.party? side,
          IsAlive p.endpoint ∧ (p.endpoint.flow = .blocked → p.endpoint.slot = none)) ∧
        ∃ p ∈ s.session.exchange.party? (.channel "a"),
          p.endpoint.framesWritten = [[0x32], [0x33]] := by
    decide +kernel
  have harrived : arrived pipelined = [letter 0x31, letter 0x32, letter 0x33] := by decide +kernel
  obtain ⟨s, hs, hstage, hsettled, hasked, hcalm, p, hp, hwritten⟩ := hpipelined
  have hroom : hasRoom localResolver.endpoint = true := by decide
  have hd : (oneChannel.channels.map (·.1)).Nodup := by decide
  have hn : oneChannel.channels ≠ [] := by decide
  obtain ⟨htoken, -, hall, hchannel, -, -⟩ := relayed_of_run hroom hd hn hs
  refine ⟨s, p, hs, hp, harrived, htoken.resolve_left hasked, ?_, hwritten, hchannel hp⟩
  rw [hall hstage hsettled fun hp => hcalm _ (Exchange.mem_sides hp) _ hp, harrived]
  rfl

end

end Session

end Switchboard
