import Switchboard.Proofs.Endpoint.Step
import Switchboard.Session.Step
/-!
# The steps of a session

What each move of a session does, as a relation. A session that is refused comes to an end in one
and the same way, whatever the reason; `Refuses` has a constructor for each reason, and `Step` one
for each other way in which a session can go on. Properties of sessions are proved with one case for
each constructor (`step_of_perform`).
-/

namespace Switchboard.Session

/-- A session one of whose lines has failed; the scope in which the others were dialed ends. -/
def failLine (s : Session) (now : Nat) (label : String) : Session :=
  { s.setLine label .failed with
    exchange := (s.setLine label .failed).exchange.onChannels (·.cancel now) }

/-- A session that has begun to dial a line. -/
def recordDial (s : Session) (l : Line) : Session :=
  { s with dialed := s.dialed ++ [⟨l.label, l.url, s.forwarded.getD .empty⟩] }

/-- A session that looks at the outcome of its first frame. -/
def afterFrame (s : Session) (e : Endpoint) : Session := s.onClient fun _ => e

/-- Why a session is refused by a move, with what it comes to before. -/
inductive Refuses (now : Nat) (s : Session) : Move → Session → Failure → Prop
  | notText {frame : Bytes} {e : Endpoint} (hs : s.stage = .listening)
    (hr : s.client.receive = (.frame frame, e)) (hd : Utf8.decode? frame = none) :
    Refuses now s .listen (s.afterFrame e) tokenNotText
  | emptyToken {frame : Bytes} {e : Endpoint} (hs : s.stage = .listening)
    (hr : s.client.receive = (.frame frame, e)) (hd : Utf8.decode? frame = some "") :
    Refuses now s .listen (s.afterFrame e) tokenEmpty
  | noAddress {frame : Bytes} {e : Endpoint} {token : String} {p : Resolver.Problem}
    (hs : s.stage = .listening) (hr : s.client.receive = (.frame frame, e))
    (hd : Utf8.decode? frame = some token)
    (ha : Resolver.address s.configuration.resolverUrl = .error p) :
    Refuses now s .listen (s.afterFrame e) p.failure
  | noToken (hs : s.stage = .listening) (hr : s.client.receive.1 = .ended) :
    Refuses now s .listen s closedWithoutToken
  | noTokenInTime (hs : s.stage = .listening) (hr : s.client.receive.1 = .pending)
    (hd : s.deadline ≤ now) : Refuses now s .expire s noTokenInTime
  | rejected {u : Url} {reply : Option Resolver.Reply} {f : Failure} (hs : s.stage = .resolving u)
    (hr : s.reply = some reply) (ho : Resolver.outcome u reply = .error f) :
    Refuses now s .learn s f
  | unfit {u : Url} {reply : Option Resolver.Reply} {token : String} {f : Failure}
    (hs : s.stage = .resolving u) (hr : s.reply = some reply)
    (ho : Resolver.outcome u reply = .ok token) (hf : Dial.forwarded s.headers token = .error f) :
    Refuses now s .learn s f
  | noAnswerInTime {u : Url} (hs : s.stage = .resolving u) (hr : s.reply = none)
    (hd : s.deadline ≤ now) : Refuses now s .expire s noAnswerInTime
  | leadsNowhere {l : Line} {p : Dial.Problem} (hs : s.stage = .dialing)
    (hl : s.lines.find? (·.state = .ready) = some l) (ht : Dial.target l.url = .error p) :
    Refuses now s .dial ((s.recordDial l).failLine now l.label) (p.failure l.label l.url)
  | noConnection {label : String} {l : Line} {err : Wire.SocketError} (hs : s.stage = .dialing)
    (hl : s.line? label = some l) (ha : l.state = .answered (some err)) :
    Refuses now s (.connect label) (s.failLine now l.label)
      ((Dial.Problem.socket err).failure l.label l.url)
  | noLineInTime {label : String} {l : Line} (hs : s.stage = .dialing)
    (hl : s.line? label = some l) (ha : l.state = .ringing) (hd : s.deadline ≤ now) :
    Refuses now s (.expireDial label) (s.failLine now label) (noLineInTime label)
  | clientLeft (hs : s.isPreparing = true) (hd : s.client.isDone = true) :
    Refuses now s .loseClient s clientLeft
  | shuttingDown (hs : s.isPreparing = true) (hc : s.exchange.isCancelled = true) :
    Refuses now s .loseScope s shuttingDown

/-- What a session does. -/
inductive Step (now : Nat) (s : Session) : Move → Session → Prop
  | exchange {m : Exchange.Move} {x : Exchange} (h : s.exchange.perform now m = some x) :
    Step now s (.exchange m) { s with exchange := x }
  | asked {frame : Bytes} {e : Endpoint} {token : String} {u : Url} (hs : s.stage = .listening)
    (hr : s.client.receive = (.frame frame, e)) (hd : Utf8.decode? frame = some token)
    (ht : token ≠ "") (ha : Resolver.address s.configuration.resolverUrl = .ok u) :
    Step now s .listen
      { s.afterFrame e with stage := .resolving u, asked := (s.afterFrame e).asked ++ [token] }
  | learned {u : Url} {reply : Option Resolver.Reply} {token : String} {fields : Http.Headers}
    (hs : s.stage = .resolving u) (hr : s.reply = some reply)
    (ho : Resolver.outcome u reply = .ok token) (hf : Dial.forwarded s.headers token = .ok fields) :
    Step now s .learn { s with stage := .dialing, forwarded := some fields }.joinWhenOpen
  | dialed {l : Line} {t : Dial.Target} (hs : s.stage = .dialing)
    (hl : s.lines.find? (·.state = .ready) = some l) (ht : Dial.target l.url = .ok t) :
    Step now s .dial ((s.recordDial l).setLine l.label .ringing)
  | connected {label : String} {l : Line} (hs : s.stage = .dialing) (hl : s.line? label = some l)
    (ha : l.state = .answered none) : Step now s (.connect label) (s.openLine now l.label)
  | refused {m : Move} {s' : Session} {f : Failure} (h : Refuses now s m s' f) :
    Step now s m (s'.refuse now f)
  | notified {ticket : Nat} {success : Bool} {e : Endpoint} (hs : s.stage = .notifying ticket)
    (hr : s.client.resumeSend ticket = some (success, e)) :
    Step now s .notify ((s.onClient fun _ => e).dismiss now)
  | reported {ticket : Nat} {success : Bool} {e : Endpoint} (hs : s.stage = .reporting ticket)
    (hr : s.client.resumeSend ticket = some (success, e)) :
    Step now s .notify ((s.onClient fun _ => e).closeAll now)
  | left (hs : s.stage = .joined) (hr : s.exchange.isRunning = false) :
    Step now s .close (s.leave now)
  | finished (hs : s.isShutDown = true) :
    Step now s .finish
      ({ s.onClient Endpoint.dropInbound with stage := .over }.note .info s.farewell)

section

variable {s s' : Session} {now : Nat}

/-- What a session makes of its client's first frame. -/
theorem step_of_present {frame : Bytes} {e : Endpoint} (hs : s.stage = .listening)
    (hr : s.client.receive = (.frame frame, e)) :
    Step now s .listen ((s.afterFrame e).present now frame) := by
  unfold present
  split
  · next hd => exact .refused (.notText hs hr hd)
  · next token hd =>
    split_ifs with ht
    · rw [String.isEmpty_iff] at ht
      subst ht
      exact .refused (.emptyToken hs hr hd)
    · rw [String.isEmpty_iff] at ht
      unfold ask
      split
      · next p ha => exact .refused (.noAddress hs hr hd ha)
      · next u ha => exact .asked hs hr hd ht ha

/-- What a session makes of the resolver's answer. -/
theorem step_of_outcome {u : Url} {reply : Option Resolver.Reply} (hs : s.stage = .resolving u)
    (hr : s.reply = some reply) {s' : Session}
    (h : s.perform now .learn = some s') : Step now s .learn s' := by
  simp only [perform, hs, hr] at h
  split at h
  · next f ho =>
    obtain rfl := Option.some.inj h
    exact .refused (.rejected hs hr ho)
  · next token ho =>
    obtain rfl := Option.some.inj h
    unfold prepare
    split
    · next f hf => exact .refused (.unfit hs hr ho hf)
    · next fields hf => exact .learned hs hr ho hf

/-- What a move makes of a session is what the relation says. -/
theorem step_of_perform {m : Move} (h : s.perform now m = some s') : Step now s m s' := by
  cases m with
  | exchange m =>
    obtain ⟨x, hx, rfl⟩ := Option.map_eq_some_iff.mp h
    exact .exchange hx
  | listen =>
    simp only [perform] at h
    split_ifs at h with hs
    split at h
    · next frame e hr =>
      obtain rfl := Option.some.inj h
      exact step_of_present hs hr
    · next e hr =>
      obtain rfl := Option.some.inj h
      exact .refused (.noToken hs (by rw [hr]))
    · cases h
  | learn =>
    cases hs : s.stage with
    | resolving u =>
      cases hr : s.reply with
      | none => simp [perform, hs, hr] at h
      | some reply => exact step_of_outcome hs hr h
    | _ => simp [perform, hs] at h
  | dial =>
    simp only [perform] at h
    split_ifs at h with hs
    obtain ⟨l, hl, rfl⟩ := Option.map_eq_some_iff.mp h
    unfold dialLine
    dsimp only
    split
    · next t ht => exact .dialed hs hl ht
    · next p ht => exact .refused (.leadsNowhere hs hl ht)
  | connect label =>
    simp only [perform] at h
    split at h
    · next l hs hl =>
      split at h
      · next problem ha =>
        obtain rfl := Option.some.inj h
        cases problem with
        | none => exact .connected hs hl ha
        | some err => exact .refused (.noConnection hs hl ha)
      · cases h
    · cases h
  | expire =>
    by_cases hd : now < s.deadline
    · simp [perform, hd] at h
    · have hlate := Nat.le_of_not_lt hd
      cases hs : s.stage with
      | listening =>
        simp only [perform, if_neg hd, hs] at h
        split_ifs at h with hr
        obtain rfl := Option.some.inj h
        exact .refused (.noTokenInTime hs hr hlate)
      | resolving u =>
        simp only [perform, if_neg hd, hs, Option.isNone_iff_eq_none] at h
        split_ifs at h with hr
        obtain rfl := Option.some.inj h
        exact .refused (.noAnswerInTime hs hr hlate)
      | _ => simp [perform, hs] at h
  | expireDial label =>
    simp only [perform] at h
    split at h
    · next l hs hl =>
      simp only [Bool.and_eq_true, decide_eq_true_eq] at h
      split_ifs at h with ha
      obtain rfl := Option.some.inj h
      exact .refused (.noLineInTime hs hl ha.1 ha.2)
    · cases h
  | loseClient =>
    simp only [perform, Bool.and_eq_true] at h
    split_ifs at h with hd
    obtain rfl := Option.some.inj h
    exact .refused (.clientLeft hd.1 hd.2)
  | loseScope =>
    simp only [perform, Bool.and_eq_true] at h
    split_ifs at h with hc
    obtain rfl := Option.some.inj h
    exact .refused (.shuttingDown hc.1 hc.2)
  | notify =>
    simp only [perform] at h
    split at h
    · next ticket hs =>
      obtain ⟨⟨success, e⟩, hr, rfl⟩ := Option.map_eq_some_iff.mp h
      exact .notified hs hr
    · next ticket hs =>
      obtain ⟨⟨success, e⟩, hr, rfl⟩ := Option.map_eq_some_iff.mp h
      exact .reported hs hr
    · cases h
  | close =>
    simp only [perform, Bool.and_eq_true, decide_eq_true_eq, Bool.not_eq_true'] at h
    split_ifs at h with hs
    obtain rfl := Option.some.inj h
    exact .left hs.1 hs.2
  | finish =>
    simp only [perform] at h
    split_ifs at h with hs
    obtain rfl := Option.some.inj h
    exact .finished hs

end

end Switchboard.Session
