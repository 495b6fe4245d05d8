import Mathlib
import Switchboard.Exchange.Step
/-!
# The parties of an exchange

An exchange as a function from its sides to its parties, and what each operation makes of it: all
that is done to an exchange changes each party by a function of its own (`Parties.map`), mostly the
party on one side (`Parties.modify`). The rest of an exchange hardly changes (`shape`).
-/

namespace Switchboard.Exchange

/-! ### Functions on parties -/

/-- The parties of an exchange by their sides. -/
abbrev Parties := Side → Option Party

/-- Every party changed by a function of its side. -/
def Parties.map (P : Parties) (g : Side → Party → Party) : Parties := fun s => (P s).map (g s)

/-- The parties are on the same sides as before. -/
theorem Parties.map_eq_some {P : Parties} {g : Side → Party → Party} {s : Side} {p' : Party} :
    P.map g s = some p' ↔ ∃ p, P s = some p ∧ g s p = p' :=
  Option.map_eq_some_iff

/-- What each changed party has, all parties have. -/
theorem Parties.forall_map {P : Parties} {g : Side → Party → Party} {Q : Side → Party → Prop}
    (h : ∀ {s p}, P s = some p → Q s (g s p)) {s : Side} {p' : Party}
    (hp' : P.map g s = some p') : Q s p' := by
  obtain ⟨p, hp, rfl⟩ := Parties.map_eq_some.mp hp'
  exact h hp

/-- The party on a side changed by a function. -/
def Parties.modify (P : Parties) (side : Side) (f : Party → Party) : Parties :=
  P.map fun s p => if s = side then f p else p

/-- Two changes are one. -/
theorem Parties.map_map (P : Parties) (g k : Side → Party → Party) :
    (P.map g).map k = P.map fun s p => k s (g s p) := by
  funext s
  exact Option.map_map _ _ _

/-- The party that was changed, or another. -/
theorem Parties.modify_eq_some {P : Parties} {s : Side} {p : Party} (h : P s = some p)
    (side : Side) (f : Party → Party) :
    P.modify side f s = some (if s = side then f p else p) := by
  rw [Parties.modify, Parties.map, h, Option.map_some]

/-- A change of a side that is not there is none. -/
theorem Parties.modify_of_none {P : Parties} {side : Side} (h : P side = none)
    (f : Party → Party) : P.modify side f = P := by
  funext s
  by_cases hs : s = side
  · subst hs
    simp [Parties.modify, Parties.map, h]
  · simp [Parties.modify, Parties.map, hs]

/-- Only what becomes of the party on the side matters. -/
theorem Parties.modify_congr {P : Parties} {side : Side} {p : Party} (hp : P side = some p)
    {f f' : Party → Party} (h : f p = f' p) : P.modify side f = P.modify side f' := by
  funext s
  by_cases hs : s = side
  · subst hs
    simp [Parties.modify, Parties.map, hp, h]
  · simp [Parties.modify, Parties.map, hs]

/-- Two changes on one side are one. -/
theorem Parties.modify_modify (P : Parties) (side : Side) (f g : Party → Party) :
    (P.modify side f).modify side g = P.modify side fun p => g (f p) := by
  rw [Parties.modify, Parties.modify, Parties.map_map]
  congr 1
  funext s p
  split_ifs <;> rfl

/-! ### The parties after an operation -/

section

variable (x : Exchange) (side : Side)

/-- A party in its place. -/
theorem party?_setParty (p : Party) :
    (x.setParty side p).party? = Parties.modify x.party? side fun _ => p := by
  funext s
  cases side with
  | client => cases s <;> simp [setParty, party?, Parties.modify, Parties.map, Function.comp_def]
  | channel label =>
    cases s with
    | client => simp [setParty, party?, Parties.modify, Parties.map]
    | channel l =>
      have hlabel : (fun c : String × Party => decide (c.1 = l)) ∘
          (fun c => if c.1 = label then (label, p) else c) = fun c => decide (c.1 = l) := by
        funext c
        by_cases hc : c.1 = label <;> simp [hc]
      simp only [setParty, party?, Parties.modify, Parties.map, List.find?_map, hlabel]
      cases hfind : x.channels.find? (·.1 = l) with
      | none => rfl
      | some c =>
        have hc : c.1 = l := by simpa using List.find?_some hfind
        by_cases hl : l = label <;> simp [hc, hl]

/-- An endpoint in its place. -/
theorem party?_setEndpoint (e : Endpoint) :
    (x.setEndpoint side e).party? =
      Parties.modify x.party? side fun p => { p with endpoint := e } := by
  unfold setEndpoint
  cases hp : x.party? side with
  | none => rw [Parties.modify_of_none hp]
  | some p =>
    have hnote : ((x.setParty side { p with endpoint := e }).noteFrom p.endpoint e).party?
        = (x.setParty side { p with endpoint := e }).party? := by
      funext s
      cases s <;> rfl
    exact hnote.trans ((party?_setParty x side _).trans (Parties.modify_congr hp rfl))

/-- A relay in its place. -/
theorem party?_setRelay (r : Relay) :
    (x.setRelay side r).party? = Parties.modify x.party? side fun p => { p with relay := r } := by
  unfold setRelay
  cases hp : x.party? side with
  | none => rw [Parties.modify_of_none hp]
  | some p => exact (party?_setParty x side _).trans (Parties.modify_congr hp rfl)

/-- A frame that was received. -/
theorem party?_receivedBy (frame : Bytes) :
    (x.receivedBy side frame).party? =
      Parties.modify x.party? side fun p => { p with relayed := p.relayed ++ [frame] } := by
  unfold receivedBy
  cases hp : x.party? side with
  | none => rw [Parties.modify_of_none hp]
  | some p => exact (party?_setParty x side _).trans (Parties.modify_congr hp rfl)

/-- Something is done to an endpoint. -/
theorem party?_onEndpoint (f : Endpoint → Endpoint) :
    (x.onEndpoint side f).party? =
      Parties.modify x.party? side fun p => { p with endpoint := f p.endpoint } := by
  unfold onEndpoint
  cases hp : x.party? side with
  | none => rw [Parties.modify_of_none hp]
  | some p => exact (party?_setEndpoint x side _).trans (Parties.modify_congr hp rfl)

/-- The log is no party. -/
theorem party?_note (line : Option LogEntry) : (x.note line).party? = x.party? := by
  funext s
  cases s <;> rfl

end

/-- A channel's label is among the labels. -/
theorem mem_labels {x : Exchange} {label : String} {p : Party}
    (h : x.party? (.channel label) = some p) : label ∈ x.labels := by
  obtain ⟨c, hc, -⟩ := Option.map_eq_some_iff.mp h
  have hlabel : c.1 = label := by simpa using List.find?_some hc
  exact hlabel ▸ List.mem_map_of_mem (List.mem_of_find?_eq_some hc)

/-- A party is on one of the sides. -/
theorem mem_sides {x : Exchange} {side : Side} {p : Party} (h : x.party? side = some p) :
    side ∈ x.sides := by
  cases side with
  | client => exact List.mem_cons_self
  | channel label => exact List.mem_cons_of_mem _ (List.mem_map_of_mem (mem_labels h))

/-! ### What does not change -/

/-- What a relay sends for a frame. -/
def delivery (x : Exchange) (side : Side) (frame : Bytes) : Delivery := (x.forFrame side frame).1

/-- The labels, the greatest frame that goes to the client, and whether the scope has ended. -/
def shape (x : Exchange) : List String × Nat × Bool := (x.labels, x.limit, x.isCancelled)

/-- What a relay sends depends on the labels and on the greatest frame alone. -/
theorem delivery_eq {x y : Exchange} (hlabels : y.labels = x.labels) (hlimit : y.limit = x.limit) :
    y.delivery = x.delivery := by
  funext side frame
  cases side with
  | client => rw [delivery, delivery, forFrame, forFrame, hlabels]
  | channel label => rw [delivery, delivery, forFrame, forFrame, hlimit]

/-- What a relay sends depends on the shape alone. -/
theorem delivery_congr {x y : Exchange} (h : y.shape = x.shape) : y.delivery = x.delivery :=
  delivery_eq (Prod.mk.inj h).1 (Prod.mk.inj (Prod.mk.inj h).2).1

section

variable (x : Exchange) (side : Side)

@[simp] theorem shape_note (line : Option LogEntry) : (x.note line).shape = x.shape := rfl

@[simp] theorem shape_setParty (p : Party) : (x.setParty side p).shape = x.shape := by
  cases side with
  | client => rfl
  | channel label =>
    have hlabels : (x.setParty (.channel label) p).labels = x.labels := by
      simp only [labels, setParty, List.map_map]
      apply List.map_congr_left
      intro c _
      by_cases hc : c.1 = label <;> simp [hc]
    exact Prod.ext hlabels rfl

@[simp] theorem shape_setEndpoint (e : Endpoint) : (x.setEndpoint side e).shape = x.shape := by
  unfold setEndpoint
  cases x.party? side with
  | none => rfl
  | some p => exact shape_setParty x side _

@[simp] theorem shape_setRelay (r : Relay) : (x.setRelay side r).shape = x.shape := by
  unfold setRelay
  cases x.party? side with
  | none => rfl
  | some p => exact shape_setParty x side _

@[simp] theorem shape_receivedBy (frame : Bytes) : (x.receivedBy side frame).shape = x.shape := by
  unfold receivedBy
  cases x.party? side with
  | none => rfl
  | some p => exact shape_setParty x side _

@[simp] theorem shape_onEndpoint (f : Endpoint → Endpoint) :
    (x.onEndpoint side f).shape = x.shape := by
  unfold onEndpoint
  cases x.party? side with
  | none => rfl
  | some p => exact shape_setEndpoint x side _

@[simp] theorem shape_deliver (d : Delivery) : (x.deliver side d).shape = x.shape := by
  unfold deliver
  cases x.party? d.target with
  | none => rfl
  | some p =>
    dsimp only
    split <;> simp

@[simp] theorem shape_stopRelay : (x.stopRelay side).shape = x.shape := by
  unfold stopRelay
  cases x.party? side with
  | none => rfl
  | some p =>
    dsimp only
    split <;> simp

end

end Switchboard.Exchange
