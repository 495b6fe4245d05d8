import Switchboard.Proofs.Json.Roundtrip
import Switchboard.Proofs.Envelope.Codec
import Switchboard.Failure.Reader
/-!
# Failures survive their renderings

A failure is told in a notice, which is decoded from its frame and read back as the kind, the
message and the details that it was made of, and in the body of an HTTP answer, in which a reader
finds the same three (`readsBack`). No message and no details can break either: what clients or the
resolver put into them is escaped where it is text, and written as values otherwise.

The reader counts the arrays and objects that are open at once. A notice has one around its details,
and a body has two, so that details may be nested that much less than a text may be.
-/

namespace Switchboard

open Json Ascii

/-! ### Notices -/

/-- What a notice tells is a value in one line, unless its details hold doubles. -/
theorem Failure.isPayload_render {f : Failure} (h : ∀ d, f.details = some d → d.Exact) :
    Envelope.IsPayload f.notice.render := by
  have hdetails : (f.details.getD .empty).Exact := by
    cases hd : f.details with
    | none => exact .object (by simp)
    | some d => exact h d hd
  have hexact : (Json.Value.object [("code", .string f.kind.name), ("message", .string f.message),
      ("details", f.details.getD .empty)]).Exact := by
    refine .object fun m hm => ?_
    simp only [List.mem_cons, List.not_mem_nil, or_false] at hm
    rcases hm with rfl | rfl | rfl
    · exact .string _
    · exact .string _
    · exact hdetails
  exact ⟨Json.Value.isValue_render hexact, Json.Value.isLine_render hexact⟩

/-- A notice is decoded as an envelope of the label of notices. -/
theorem Failure.decode_controlFrame {f : Failure} (h : ∀ d, f.details = some d → d.Exact) :
    Envelope.decode f.controlFrame = .ok f.notice.envelope :=
  Envelope.decode_encode_of_isPayload (e := f.notice.envelope) (f.isPayload_render h)

/-- A failure with one detail can be told. -/
theorem Failure.decode_withDetails (kind : Kind) (text name value : String) :
    Envelope.decode (withDetails kind text [(name, .string value)]).controlFrame =
      .ok (withDetails kind text [(name, .string value)]).notice.envelope := by
  apply decode_controlFrame
  intro d hd
  obtain rfl := Option.some.inj hd
  refine .object fun m hm => ?_
  obtain rfl := List.mem_singleton.mp hm
  exact .string value

/-! ### Objects as they are written -/

/-- Members behind the first are members of the grammar. -/
theorem hasMembers_renderMembers {ms : Members} (h : ∀ m ∈ ms, IsValue m.2.render) :
    HasMembers false (ms.map fun m => (m.1, m.2.render)) (renderMembers ms) := by
  induction ms with
  | nil => exact .nil false
  | cons m ms ih =>
    obtain ⟨hm, hms⟩ := List.forall_mem_cons.mp h
    have := HasMembers.cons isLead_comma (spells_escape (Utf8.encode m.1)) isBlank_nil isBlank_nil hm
      (ih hms)
    simpa [renderMembers, renderString] using this

/-- An object is written as one with the same members. -/
theorem isObject_render {ms : Members} (h : ∀ m ∈ ms, IsValue m.2.render) :
    IsObject (ms.map fun m => (m.1, m.2.render)) (Value.object ms).render := by
  cases ms with
  | nil => exact ⟨[], [], .nil true, isBlank_nil, rfl⟩
  | cons m ms =>
    obtain ⟨hm, hms⟩ := List.forall_mem_cons.mp h
    have := HasMembers.cons isLead_nil (spells_escape (Utf8.encode m.1)) isBlank_nil isBlank_nil hm
      (hasMembers_renderMembers hms)
    exact ⟨_, [], this, isBlank_nil, by simp [Value.render, renderString]⟩

/-! ### Reading notices -/

/-- A kind is read from its name, whatever follows. -/
theorem Failure.Kind.read_append {kind : Failure.Kind} {v : Bytes} (h : IsText v kind.name)
    {a : Bytes} (ha : IsBlank a) (t : Bytes) : Failure.Kind.read (a ++ v ++ t) = .ok (kind, t) := by
  obtain ⟨n, hn, rfl⟩ := h
  have hname : Failure.Kind.ofName? kind.name = some kind := by cases kind <;> decide
  have hquote (s : Bytes) : skipSpace (quote :: s) = quote :: s := skipSpace_cons rfl s
  unfold Failure.Kind.read
  rw [skipSpace_append_string ha]
  simp [Failure.Kind.readName, expectString, hquote, readString_append hn, hname, bind, Except.bind,
    pure, Except.pure]

/-- A string is read where only a string will do, whatever follows. -/
theorem expectString_append {v : Bytes} {c : String} (h : IsText v c) (expected : String)
    {a : Bytes} (ha : IsBlank a) (t : Bytes) :
    expectString expected (a ++ v ++ t) = .ok (c, t) := by
  obtain ⟨n, hn, rfl⟩ := h
  unfold expectString
  rw [skipSpace_append_string ha]
  simp [readString_append hn]

namespace Notice

/-- What a member adds to what has been read of a notice. -/
inductive Adds : String → Bytes → Parts → Parts → Prop
  | kind {v : Bytes} {kind : Failure.Kind} {message : Option String} {details : Option Value}
    (hv : IsText v kind.name) :
    Adds "code" v ⟨none, message, details⟩ ⟨some kind, message, details⟩
  | message {v : Bytes} {kind : Option Failure.Kind} {message : String} {details : Option Value}
    (hv : IsText v message) :
    Adds "message" v ⟨kind, none, details⟩ ⟨kind, some message, details⟩
  | details {x y : Value} {kind : Option Failure.Kind} {message : Option String}
    (hx : x.ReadsAs (maxDepth - 1) y) :
    Adds "details" x.render ⟨kind, message, none⟩ ⟨kind, message, some y⟩

/-- A member of a notice is read whatever follows it. -/
theorem readsAll_readMember : ReadsAll readMember Adds := by
  intro name parts next b a v t hadds hb ha _ ht
  cases hadds with
  | kind hv =>
    rw [readMember, if_pos rfl]
    simp only [Option.isSome_none, Bool.false_eq_true, if_false, skipColon_append hb,
      Failure.Kind.read_append hv ha, bind, Except.bind, pure, Except.pure]
  | message hv =>
    rw [readMember, if_neg (by decide), if_pos rfl]
    simp only [Option.isSome_none, Bool.false_eq_true, if_false, skipColon_append hb,
      expectString_append hv _ ha, bind, Except.bind, pure, Except.pure]
  | details hx =>
    rw [readMember, if_neg (by decide), if_neg (by decide), if_pos rfl]
    simp only [Option.isSome_none, Bool.false_eq_true, if_false, skipColon_append hb,
      hx.readValue_append ha ht, bind, Except.bind, pure, Except.pure]

/-- A notice is read from an object that has its three members. -/
theorem parse_of_isObject {text : Bytes} {ms : TextMembers} {parts : Parts} {n : Notice}
    (h : IsObject ms text) (htakes : Takes Adds ms ⟨none, none, none⟩ parts)
    (hparts : ofParts parts = .ok n) : parse text = .ok n := by
  obtain ⟨w, b, hw, hb, rfl⟩ := h
  have hfold := foldMembers_append readsAll_readMember hw htakes hb []
    (hw.length_lt (b ++ [closeBrace]))
  have hspace : skipSpace (openBrace :: (w ++ b) ++ [closeBrace])
      = openBrace :: (w ++ (b ++ [closeBrace])) := by
    simp [skipSpace_cons (b := openBrace) rfl]
  have hread : readObject (w ++ (b ++ [closeBrace])) = .ok (n, []) := by
    rw [readObject, hfold]
    simp only [hparts, endObject_append hb, bind, Except.bind, pure, Except.pure]
  unfold parse
  rw [hspace]
  simp [hread, endText, skipSpace, bind, Except.bind, pure, Except.pure]

/-- The three members of a notice, with the details last. -/
theorem exact_fields {d : Nat} (kind message : String) {details : Value} (h : details.Plain d) :
    ∀ m ∈ [("code", Value.string kind), ("message", .string message), ("details", details)],
      m.2.Exact := by
  intro m hm
  simp only [List.mem_cons, List.not_mem_nil, or_false] at hm
  rcases hm with rfl | rfl | rfl
  · exact .string kind
  · exact .string message
  · exact h.exact

/-- A notice is read back from its text. -/
theorem parse_render {n : Notice} (h : n.details.Plain (maxDepth - 2)) :
    parse n.render = .ok n := by
  have hexact := exact_fields n.kind.name n.message h
  have hobject := isObject_render fun m hm => Value.isValue_render (hexact m hm)
  have hdetails := h.readsAs (show maxDepth - 2 < maxDepth - 1 by decide)
  have htakes : Takes Adds _ ⟨none, none, none⟩ ⟨some n.kind, some n.message, some n.details⟩ :=
    .cons (.kind (isText_renderString n.kind.name))
      (.cons (.message (isText_renderString n.message)) (.cons (.details hdetails) (.nil _)))
  exact parse_of_isObject hobject htakes rfl

end Notice

/-! ### Reading bodies -/

namespace Failure

/-- The members of a failure's object in the body of an answer. -/
def fields (f : Failure) : Members :=
  [("code", .string f.kind.name), ("message", .string f.message)] ++
    (f.details.map fun d => ("details", d)).toList

/-- A body is the text of an object in an object. -/
theorem body_eq (f : Failure) : f.body = (Value.object [("error", .object f.fields)]).render := by
  unfold body fields renderFields
  cases f.details <;> rfl

/-- The object in a body is read with its members in order. -/
theorem parse_body {f : Failure} (h : ∀ d, f.details = some d → d.Plain (maxDepth - 3)) :
    Json.parse f.body = .ok (.object [("error", .ofMembers f.fields)]) := by
  have hmembers : ∀ m ∈ f.fields, m.1 ≠ rawToken ∧ m.2.Plain (maxDepth - 3) := by
    intro m hm
    simp only [fields, List.mem_append, List.mem_cons, List.not_mem_nil, or_false,
      Option.mem_toList, Option.map_eq_some_iff] at hm
    rcases hm with (rfl | rfl) | ⟨d, hd, rfl⟩
    · exact ⟨show "code" ≠ rawToken by decide, .string _⟩
    · exact ⟨show "message" ≠ rawToken by decide, .string _⟩
    · exact ⟨show "details" ≠ rawToken by decide, h d hd⟩
  have hexact : ∀ m ∈ f.fields, m.2.Exact := fun m hm => (hmembers m hm).2.exact
  have hinner : (Value.object f.fields).ReadsAs (maxDepth - 1) (.ofMembers f.fields) := by
    have hvalues : ∀ m ∈ f.fields, m.2.ReadsAs (maxDepth - 2) (id m.2) := fun m hm =>
      (hmembers m hm).2.readsAs (by decide)
    have hread := readsAs_object (by decide) (fun m hm => (hmembers m hm).1) hvalues hexact
    have hsame : f.fields.map (fun m => (m.1, id m.2)) = f.fields := List.map_id' f.fields
    rwa [hsame] at hread
  have houter : (Value.object [("error", .object f.fields)]).ReadsAs (maxDepth - 1 + 1)
      (.ofMembers [("error", .ofMembers f.fields)]) := by
    refine readsAs_object (f := fun _ => .ofMembers f.fields) (by decide) ?_ ?_ ?_
    · intro m hm
      obtain rfl := List.mem_singleton.mp hm
      exact show "error" ≠ rawToken by decide
    · intro m hm
      obtain rfl := List.mem_singleton.mp hm
      exact hinner
    · intro m hm
      obtain rfl := List.mem_singleton.mp hm
      exact .object hexact
  rw [body_eq]
  exact houter.parse

/-- What is found in the object of a body. -/
theorem member?_fields (f : Failure) :
    (Value.ofMembers f.fields).member? "code" = some (.string f.kind.name) ∧
      (Value.ofMembers f.fields).member? "message" = some (.string f.message) ∧
      (Value.ofMembers f.fields).member? "details" = f.details := by
  have h₁ : ¬"message" < "code" := by decide
  have h₂ : ¬"details" < "code" := by decide
  have h₃ : "details" < "message" := by decide
  unfold fields
  cases f.details <;>
    simp [Value.ofMembers, Members.insert, Value.member?, h₁, h₂, h₃]

/-! ### Main result -/

/-- Failures survive their renderings, notices theirs. The notice of a failure is decoded from its
frame with the label of notices, and its payload is read back as the kind, the message and the
details, an empty object where there are none, and would be written so again. In the body of an
answer a reader finds the same kind, message and details, and no details where there are none. And
every notice is read back from its text. Details may be nested as deep as a text may be, but for the
objects that are put around them. -/
theorem readsBack :
    (∀ f : Failure, (∀ d, f.details = some d → d.Plain (maxDepth - 2)) →
      ∃ p n, Envelope.decode f.controlFrame = .ok ⟨Envelope.controlLabel, p⟩ ∧
        Notice.parse p = .ok n ∧ n.kind = f.kind ∧ n.message = f.message ∧
        n.details = f.details.getD .empty ∧ n.render = p) ∧
    (∀ f : Failure, (∀ d, f.details = some d → d.Plain (maxDepth - 3)) →
      ∃ e, Json.parse f.body = .ok (.object [("error", e)]) ∧
        e.member? "code" = some (.string f.kind.name) ∧
        e.member? "message" = some (.string f.message) ∧ e.member? "details" = f.details) ∧
    ∀ n : Notice, n.details.Plain (maxDepth - 2) → Notice.parse n.render = .ok n := by
  refine ⟨fun f h => ?_, fun f h => ?_, fun n h => Notice.parse_render h⟩
  · have hdetails : (f.details.getD .empty).Plain (maxDepth - 2) := by
      cases hd : f.details with
      | none => exact .object .nil (by simp) (by simp)
      | some d => exact h d hd
    exact ⟨f.notice.render, f.notice, decode_controlFrame fun d hd => (h d hd).exact,
      Notice.parse_render hdetails, rfl, rfl, rfl, rfl⟩
  · exact ⟨_, parse_body h, f.member?_fields⟩

/-- A failure whose details are nested, its message in two lines. -/
theorem readsBack_nested :
    let details : Value := .object [("a", .array [.null, .bool true, .string "\"\n"]),
      ("b", .object [("n", .number (.int (-9223372036854775808)))])]
    let f : Failure := ⟨.internal, "two\nlines", some details⟩
    details.Plain (maxDepth - 3) ∧
      (∃ p n, Envelope.decode f.controlFrame = .ok ⟨Envelope.controlLabel, p⟩ ∧
        Notice.parse p = .ok n ∧ n.kind = .internal ∧ n.message = "two\nlines" ∧
        n.details = details ∧ n.render = p) ∧
      (∃ e, Json.parse f.body = .ok (.object [("error", e)]) ∧
        e.member? "code" = some (.string "Internal") ∧
        e.member? "message" = some (.string "two\nlines") ∧ e.member? "details" = some details) ∧
      Notice.parse f.notice.render = .ok f.notice := by
  intro details f
  have hinner : (Value.object [("n", .number (.int (-9223372036854775808)))]).Plain 1 := by
    refine .object (by simp) (by decide +kernel) ?_
    simpa using Value.Plain.int (by decide) (by decide)
  have harray : (Value.array [.null, .bool true, .string "\"\n"]).Plain 1 := by
    refine .array ?_
    simpa using ⟨Value.Plain.null, Value.Plain.bool true, Value.Plain.string "\"\n"⟩
  have hdetails : details.Plain 2 := by
    refine .object (by simp +decide) (by decide +kernel) ?_
    simpa using ⟨harray, hinner⟩
  have hbody : details.Plain (maxDepth - 3) := hdetails.mono (by decide)
  have hnotice : details.Plain (maxDepth - 2) := hdetails.mono (by decide)
  exact ⟨hbody, readsBack.1 f (by rintro d ⟨⟩; exact hnotice),
    readsBack.2.1 f (by rintro d ⟨⟩; exact hbody), readsBack.2.2 f.notice hnotice⟩

end Failure

end Switchboard
