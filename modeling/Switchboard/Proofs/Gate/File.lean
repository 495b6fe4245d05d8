import Switchboard.Gate.File
import Mathlib
/-!
# Names in gate files

Of two values for one name a gate file keeps the last, so that in whatever is read each name stands
once: each gate in the file, and each label in its gate (`isTable_of_parse`).
-/

namespace Switchboard.Gate.File

open Yaml

/-- A table in which each name stands once, and all values of which have a property. -/
structure IsTable {α : Type} (P : α → Prop) (table : List (String × α)) : Prop where
  distinct : (table.map (·.1)).Nodup
  value : ∀ p ∈ table, P p.2

section

variable {α β σ : Type} {P : α → Prop} {I : σ → Prop} {doc : List Part} {place : Place}
  {r r' : Reader} {expected field name : String}

/-- What a reader gives that goes on after another. -/
theorem exists_of_bind {x : Except Fault α} {f : α → Except Fault β} {b : β}
    (h : x >>= f = .ok b) : ∃ a, x = .ok a ∧ f a = .ok b := by
  cases x with
  | error fault => cases h
  | ok a => exact ⟨a, rfl, h⟩

/-! ### Tables -/

/-- A value is put under its name. -/
theorem mem_put {a : α} {p : String × α} {table : List (String × α)}
    (h : p ∈ put name a table) : p = (name, a) ∨ p ∈ table := by
  induction table with
  | nil => exact Or.inl (List.mem_singleton.mp h)
  | cons q rest ih =>
    unfold put at h
    split_ifs at h with hname
    · rcases List.mem_cons.mp h with rfl | h
      · exact Or.inl (by rw [hname])
      · exact Or.inr (List.mem_cons_of_mem _ h)
    · rcases List.mem_cons.mp h with rfl | h
      · exact Or.inr List.mem_cons_self
      · exact (ih h).imp_right (List.mem_cons_of_mem _)

/-- Names that stand once do so after a value is put under one of them. -/
theorem nodup_put {a : α} {table : List (String × α)} (h : (table.map (·.1)).Nodup) :
    ((put name a table).map (·.1)).Nodup := by
  induction table with
  | nil => simp [put]
  | cons q rest ih =>
    unfold put
    split_ifs with hname
    · exact h
    · rw [List.map_cons, List.nodup_cons] at h ⊢
      refine ⟨?_, ih h.2⟩
      intro hq
      obtain ⟨p, hp, hlabel⟩ := List.mem_map.mp hq
      rcases mem_put hp with rfl | hp
      · exact hname hlabel.symm
      · exact h.1 (hlabel ▸ List.mem_map_of_mem hp)

/-- A value with the property is put into a table. -/
theorem IsTable.put {a : α} {table : List (String × α)} (h : IsTable P table) (ha : P a) :
    IsTable P (put name a table) where
  distinct := nodup_put h.distinct
  value p hp := by
    rcases mem_put hp with rfl | hp
    · exact ha
    · exact h.value p hp

/-! ### Readers -/

/-- What every member keeps is kept by the members of a mapping. -/
theorem of_readMembers {member : Place → σ → Reader → Except Fault (σ × Reader)}
    (hmember : ∀ {place s r s' r'}, member place s r = .ok (s', r') → I s → I s') {fuel : Nat} :
    ∀ {s s' : σ} {r : Reader}, readMembers place member fuel s r = .ok (s', r') → I s → I s' := by
  induction fuel with
  | zero =>
    intro s s' r h
    cases h
  | succ fuel ih =>
    intro s s' r h hs
    unfold readMembers at h
    split at h
    · cases h
    · obtain ⟨rfl, -⟩ := Prod.mk.inj (Except.ok.inj h)
      exact hs
    · obtain ⟨⟨t, u⟩, ht, hrest⟩ := exists_of_bind h
      exact ih hrest (hmember ht hs)

/-- What every member keeps holds of a mapping if it holds at its beginning. -/
theorem of_readMapping {member : Place → σ → Reader → Except Fault (σ × Reader)} {start s : σ}
    (hmember : ∀ {place s r s' r'}, member place s r = .ok (s', r') → I s → I s')
    (h : readMapping doc place expected member start r = .ok (s, r')) (hstart : I start) : I s := by
  unfold readMapping at h
  obtain ⟨⟨part, inner, after⟩, -, hpart⟩ := exists_of_bind h
  dsimp only at hpart
  split at hpart
  · obtain ⟨⟨t, u⟩, ht, hdone⟩ := exists_of_bind hpart
    obtain ⟨rfl, -⟩ := Prod.mk.inj (Except.ok.inj hdone)
    exact of_readMembers hmember ht hstart
  · obtain ⟨rfl, -⟩ := Prod.mk.inj (Except.ok.inj hpart)
    exact hstart
  · split_ifs at hpart
    obtain ⟨rfl, -⟩ := Prod.mk.inj (Except.ok.inj hpart)
    exact hstart
  · cases hpart

/-- The field of a record has what every value has that is read for it. -/
theorem of_readRecord {value : Place → Reader → Except Fault (α × Reader)}
    (hvalue : ∀ {place r a r'}, value place r = .ok (a, r') → P a) {a : α}
    (h : readRecord doc place expected field value r = .ok (a, r')) : P a := by
  unfold readRecord at h
  obtain ⟨⟨found, u⟩, hfound, hdone⟩ := exists_of_bind h
  have hall : ∀ a ∈ found, P a := by
    refine of_readMapping (I := fun found => ∀ a ∈ found, P a) ?_ hfound (by simp)
    intro place found r found' r' hmember hold
    obtain ⟨⟨n, v⟩, -, hmember⟩ := exists_of_bind hmember
    dsimp only at hmember
    split_ifs at hmember
    · cases hmember
    · obtain ⟨⟨b, w⟩, hb, hnew⟩ := exists_of_bind hmember
      obtain ⟨rfl, -⟩ := Prod.mk.inj (Except.ok.inj hnew)
      intro a ha
      obtain rfl := Option.mem_some_iff.mp ha
      exact hvalue hb
    · obtain ⟨rest, -, hsame⟩ := exists_of_bind hmember
      obtain ⟨rfl, -⟩ := Prod.mk.inj (Except.ok.inj hsame)
      exact hold
  cases found with
  | none => cases hdone
  | some b =>
    obtain ⟨rfl, -⟩ := Prod.mk.inj (Except.ok.inj hdone)
    exact hall b rfl

/-- What is read from names to values is a table. -/
theorem isTable_of_readTable {value : Place → Reader → Except Fault (α × Reader)}
    (hvalue : ∀ {place r a r'}, value place r = .ok (a, r') → P a) {table : List (String × α)}
    (h : readTable doc place value r = .ok (table, r')) : IsTable P table := by
  unfold readTable at h
  refine of_readMapping ?_ h ⟨List.nodup_nil, by simp⟩
  intro place table r table' r' hmember htable
  obtain ⟨⟨n, v⟩, -, hmember⟩ := exists_of_bind hmember
  obtain ⟨⟨a, w⟩, ha, hput⟩ := exists_of_bind hmember
  obtain ⟨rfl, -⟩ := Prod.mk.inj (Except.ok.inj hput)
  exact htable.put (hvalue ha)

/-- A gate that is read is a table of channels. -/
theorem isTable_of_readGate {s : Section} (h : readGate doc place r = .ok (s, r')) :
    IsTable (fun _ => True) s :=
  of_readRecord (fun h => isTable_of_readTable (fun _ => trivial) h) h

/-- In the file that a text is each gate stands once, and in each gate each label. -/
theorem isTable_of_parse {text : String} {f : File} (h : File.parse text = .ok f) :
    IsTable (IsTable fun _ => True) f.gates := by
  unfold parse at h
  obtain ⟨⟨gates, u⟩, hgates, hdone⟩ := exists_of_bind h
  dsimp only at hdone
  split_ifs at hdone
  obtain rfl := Except.ok.inj hdone
  exact of_readRecord (fun h => isTable_of_readTable isTable_of_readGate h) hgates

end

end Switchboard.Gate.File
