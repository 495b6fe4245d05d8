import Switchboard.Proofs.Envelope.Reading
import Switchboard.Proofs.Json.Fault
/-!
# How much of a frame is told

What the client is told of its frame is not longer than the frame allows. A label takes no more
bytes when it is written than the text in the frame that stands for it, whatever escapes that is
spelled with (`length_channel_le`). Of a malformed frame a fault is told, and that says little
however long the frame is (`length_malformed_le`).
-/

namespace Switchboard.Envelope

open Json Ascii

section

variable {size : Nat}

/-! ### Labels -/

/-- A label is no longer when it is written than the text that stands for it. -/
theorem Stands.length_renderString_le {v : Bytes} {c : String} (h : Stands v c) :
    (renderString c).length ≤ v.length := by
  induction h with
  | text h => exact h.length_renderString_le
  | @quoted v q a u b text c hv hq _ _ htext _ ih =>
    have hinner := hq.length_encode_le
    have houter : q.length ≤ v.length :=
      (hv.isInfix (rawToken, q) List.mem_cons_self).length_le
    rw [htext] at hinner
    simp only [List.length_append] at hinner
    omega

/-- A frame is longer than its label when that is written. -/
theorem length_channel_le {raw : Bytes} {e : Envelope} (h : decode raw = .ok e) :
    (renderString e.channel).length + 12 ≤ raw.length := by
  obtain ⟨ms, v, payload, hobject, hchannel, hstands, -⟩ := exists_of_decode h
  have hmember : v ∈ valuesOf "channel" ms := by simp [hchannel]
  have hvalue := hobject.length_value_le hmember
  have hname : (renderString "channel").length = 9 := by decide
  have hlabel := hstands.length_renderString_le
  have hraw := length_normalize_le raw
  omega

/-! ### Faults -/

/-- A payload that cannot be read is told of in few words. -/
theorem terse_readPayload (s : Bytes) : Terse size (readPayload s) := by
  apply (terse_skipColon s).bind
  intro t _
  split
  · simp
  · split_ifs
    · exact (terse_skipIdent _ _).bind fun _ _ => terse_pure _
    · exact (terse_captureValue _).bind fun _ _ => terse_pure _

/-- So is a member. -/
theorem terse_readMember (name : String) (parts : Parts) {s : Bytes} (hs : s.length ≤ size) :
    Terse size (readMember name parts s) := by
  unfold readMember
  split_ifs with hchannel hpayload
  · subst hchannel
    split
    · exact terse_error.mpr (isTerse_duplicateField (by decide) s)
    · apply (terse_skipColon s).bind
      intro t hcolon
      obtain ⟨b, -, rfl⟩ := exists_of_skipColon hcolon
      have ht : t.length ≤ size := by
        simp only [List.length_append, List.length_cons] at hs
        omega
      exact (terse_readValue ht _).bind fun _ _ => terse_pure _
  · subst hpayload
    split
    · exact terse_error.mpr (isTerse_duplicateField (by decide) s)
    · exact (terse_readPayload s).bind fun _ _ => terse_pure _
  · exact (terse_skipMember s).bind fun _ _ => terse_pure _

/-- So are the members up to the end of an object. -/
theorem terse_foldMembers {fuel : Nat} {first : Bool} {parts : Parts} {s : Bytes}
    (hs : s.length ≤ size) : Terse size (foldMembers readMember fuel first parts s) := by
  induction fuel generalizing first parts s with
  | zero => simp [foldMembers]
  | succ fuel ih =>
    unfold foldMembers
    apply (terse_nextMember first s).bind
    rintro (- | u) hnext
    · exact terse_pure _
    · obtain ⟨l, -, rfl⟩ := exists_of_nextMember hnext
      apply (terse_readString u).bind
      rintro ⟨name, t⟩ hname
      obtain ⟨n, -, rfl⟩ := exists_of_readString hname
      have ht : t.length ≤ size := by
        simp only [List.length_append, List.length_cons] at hs
        omega
      apply (terse_readMember name parts ht).bind
      rintro ⟨parts', r⟩ hmember
      obtain ⟨b, a, v, -, -, -, rfl, -⟩ := readsOnly_readMember _ _ _ _ _ hmember
      apply ih
      simp only [List.length_append, List.length_cons] at ht
      omega

/-- What is wrong with a frame behind its brace is told in few words. -/
theorem terse_readParts {s : Bytes} (hs : s.length ≤ size) : Terse size (readParts s) := by
  apply (terse_foldMembers hs).bind
  rintro ⟨parts, r⟩ _
  exact (terse_endObject r).bind fun t _ => (terse_endText t).bind fun _ _ => terse_pure _

/-- A frame that is malformed begins with a brace, and the reading of its members failed. -/
theorem exists_fault_of_decode {raw : Bytes} {reason : String}
    (h : decode raw = .error (.malformed reason)) : ∃ s fault, normalize raw = openBrace :: s ∧
      readParts s = .error fault ∧ reason = fault.message (normalize raw) := by
  cases hn : normalize raw with
  | nil => simp [decode, hn] at h
  | cons b s =>
    by_cases hb : b = openBrace
    · subst hb
      cases hparts : readParts s with
      | error fault =>
        rw [decode_of_fault hn hparts] at h
        obtain rfl := Rejection.malformed.inj (Except.error.inj h)
        exact ⟨s, fault, rfl, hparts, by rw [hn]⟩
      | ok parts =>
        rw [decode_of_readParts hn hparts] at h
        rcases parts with ⟨- | v, payload⟩
        · cases h
        · cases v <;> cases h
    · simp [decode, hn, hb] at h

/-- What is told of a malformed frame is short but for the digits of a line and a column. -/
theorem length_malformed_le {raw : Bytes} {reason : String}
    (h : decode raw = .error (.malformed reason)) :
    escapedLength reason ≤ Problem.maxWording + 23 + 2 * ((raw.length + 1) / 1000) := by
  obtain ⟨s, fault, hs, hfault, rfl⟩ := exists_fault_of_decode h
  have hlength : s.length ≤ (normalize raw).length := by
    rw [hs, List.length_cons]
    exact Nat.le_succ _
  have hmessage := (terse_readParts hlength fault hfault).length_message_le
  have hraw := Nat.div_le_div_right (c := 1000) (Nat.succ_le_succ (length_normalize_le raw))
  omega

end

end Switchboard.Envelope
