import Switchboard.Proofs.Envelope.Reading
/-!
# Envelopes survive their encoding

An envelope whose payload is empty or JSON is decoded from its own frame: with the channel it had,
whatever the characters of its label are, and with its payload in one line and without the blanks
around it (`decode_encode`). The payload is put into the frame unread, so this rests on the scanner:
behind the name of the member it finds the end of the payload where the payload ends, and nothing
in it can close the envelope or add a member.

What `decode` returns is decoded from its own frame without any change.
-/

namespace Switchboard.Envelope

open Json Ascii

/-! ### Payloads -/

/-- A text without the blanks of JSON at its ends. -/
def trimBlank (s : Bytes) : Bytes := (skipSpace (skipSpace s).reverse).reverse

/-- What a payload is read back as: in one line, without the blanks at its ends, and `null` when it
is empty. -/
def canonical (p : Bytes) : Bytes := if p.isEmpty then nullText else oneLine (trimBlank p)

/-- What is left of a value with blanks around it is the value. -/
theorem trimBlank_append {a v b : Bytes} (ha : IsBlank a) (hv : IsValue v) (hb : IsBlank b) :
    trimBlank (a ++ v ++ b) = v := by
  have hback : skipSpace (v ++ b).reverse = v.reverse := by
    obtain ⟨r, c, rfl, hc⟩ := hv.exists_concat
    have hb' : IsBlank b.reverse := fun x hx => hb x (List.mem_reverse.mp hx)
    rw [List.reverse_append, skipSpace_append hb', List.reverse_append]
    exact skipSpace_cons hc r.reverse
  rw [trimBlank, skipSpace_append_value ha hv, hback, List.reverse_reverse]

/-! ### Frames -/

/-- The frame of a label and a payload's text. -/
def frame (label : String) (p : Bytes) : Bytes :=
  opening ++ renderString label ++ middle ++ p ++ closing

/-- An envelope is written as the frame of its label and payload. -/
theorem encode_eq_frame (e : Envelope) : e.encode = frame e.channel e.written := rfl

/-- A frame begins with a brace and the name of its first member. -/
theorem opening_eq :
    opening = openBrace :: quote :: (escape (Utf8.encode "channel") ++ [quote, colon]) := by
  decide

/-- Its second member follows behind a comma. -/
theorem middle_eq :
    middle = comma :: quote :: (escape (Utf8.encode "payload") ++ [quote, colon]) := by
  decide

/-- A frame ends with a brace. -/
theorem closing_eq : closing = [closeBrace] := by decide

/-- Bytes between two that are no blanks are left as they are. -/
theorem trim_eq_self {b c : UInt8} (hb : isBlank b = false) (hc : isBlank c = false) (s : Bytes) :
    Bytes.trim (b :: s ++ [c]) = b :: s ++ [c] := by
  have hstart : Bytes.trimStart (b :: s ++ [c]) = b :: s ++ [c] := by
    rw [Bytes.trimStart, List.cons_append, List.dropWhile_cons, hb, if_neg Bool.false_ne_true]
  rw [Bytes.trim, hstart, List.reverse_append, List.reverse_singleton, List.singleton_append,
    List.dropWhile_cons, hc, if_neg Bool.false_ne_true, List.reverse_cons, List.reverse_reverse]

/-- A frame has two members, and nothing is left of the blanks around the payload. -/
theorem isObject_frame (label : String) {a v b : Bytes} (ha : IsBlank a) (hv : IsValue v)
    (hb : IsBlank b) :
    IsObject [("channel", renderString label), ("payload", v)] (frame label (a ++ v ++ b)) := by
  have hpayload : HasMembers false [("payload", v)] _ :=
    .cons ⟨[], [], isBlank_nil, isBlank_nil, rfl⟩ (spells_escape _) isBlank_nil ha hv (.nil false)
  have hlead : IsLead true [] := isBlank_nil
  have hmembers := HasMembers.cons hlead (spells_escape (Utf8.encode "channel")) isBlank_nil
    isBlank_nil (isValue_renderString label) hpayload
  exact ⟨_, b, hmembers, hb, by simp [frame, opening_eq, middle_eq, closing_eq]⟩

/-- No blanks are taken off a frame. -/
theorem trim_frame (label : String) (p : Bytes) : Bytes.trim (frame label p) = frame label p := by
  have hframe : frame label p = openBrace :: (quote :: (escape (Utf8.encode "channel")
      ++ [quote, colon]) ++ renderString label ++ middle ++ p) ++ [closeBrace] := by
    simp [frame, opening_eq, closing_eq]
  rw [hframe]
  exact trim_eq_self rfl rfl _

/-- A frame around a well-formed payload is well-formed. -/
theorem isValid_frame (label : String) {p : Bytes} (hp : Utf8.isValid p = true) :
    Utf8.isValid (frame label p) = true := by
  have hopening : IsLine opening := isLine_of_all (by decide)
  have hmiddle : IsLine middle := isLine_of_all (by decide)
  have hclosing : IsLine closing := isLine_of_all (by decide)
  have hfront := ((hopening.append (isLine_renderString label)).append hmiddle).isValid
  exact Utf8.isValid_append (Utf8.isValid_append hfront hp) hclosing.isValid

/-- A frame is decoded as its label and the value between the blanks, in one line. -/
theorem decode_frame (label : String) {a v b : Bytes} (ha : IsBlank a) (hv : IsValue v)
    (hb : IsBlank b) (hu : Utf8.isValid v = true) :
    decode (frame label (a ++ v ++ b)) = .ok ⟨label, oneLine v⟩ := by
  have htrim := trim_frame label (a ++ v ++ b)
  have hobject := isObject_frame label ha hv hb
  have hpayload : Utf8.isValid (a ++ v ++ b) = true :=
    Utf8.isValid_append (Utf8.isValid_append ha.isValid hu) hb.isValid
  have hvalid := isValid_frame label hpayload
  rw [← htrim] at hobject hvalid
  have hchannel : valuesOf "channel" [("channel", renderString label), ("payload", v)]
      = [renderString label] := by
    rw [valuesOf_cons_self, valuesOf_cons_of_ne (by decide), valuesOf_nil]
  have hmember : valuesOf "payload" [("channel", renderString label), ("payload", v)]
      = (some v).toList := by
    rw [valuesOf_cons_of_ne (by decide), valuesOf_cons_self, valuesOf_nil, Option.toList_some]
  exact decode_of_isObject hvalid hobject hchannel (isText_renderString label) hmember

/-- A payload that is JSON is read back in one line and without the blanks around it. -/
theorem decode_encode_of_isJson (label : String) {p : Bytes} (h : isJson p = true) :
    decode (encode ⟨label, p⟩) = .ok ⟨label, canonical p⟩ := by
  obtain ⟨a, v, b, ha, hv, hb, hu, rfl⟩ := isJson_iff.mp h
  have hne : (a ++ v ++ b).isEmpty = false := by
    obtain ⟨c, r, rfl, -⟩ := hv.exists_cons
    simp
  rw [encode_eq_frame, written, canonical, hne, if_neg Bool.false_ne_true,
    if_neg Bool.false_ne_true, trimBlank_append ha hv hb, decode_frame label ha hv hb hu]

/-- A missing payload is read back as `null`. -/
theorem decode_encode_nil (label : String) :
    decode (encode ⟨label, []⟩) = .ok ⟨label, canonical []⟩ := by
  have hnull : IsValue nullText := .null
  have := decode_frame label isBlank_nil hnull isBlank_nil (by decide)
  have hline : oneLine nullText = nullText := by decide
  simpa [encode_eq_frame, written, canonical, hline] using this

/-! ### What is decoded -/

/-- What a payload is that was cut out of a frame: a value in one line. -/
structure IsPayload (p : Bytes) : Prop where
  isValue : IsValue p
  isLine : IsLine p

/-- The payload of an envelope that was decoded is a value in one line. -/
theorem isPayload_of_decode {raw : Bytes} {e : Envelope} (h : decode raw = .ok e) :
    IsPayload e.payload := by
  obtain ⟨hjson, hline, -⟩ := isJson_of_decode h
  obtain ⟨ms, v, payload, hobject, -, -, hpayload, hvalid, hp⟩ := exists_of_decode h
  cases payload with
  | none =>
    rw [hp]
    exact ⟨.null, isLine_of_all (by decide)⟩
  | some p =>
    obtain rfl : e.payload = p := hp
    have hmember : e.payload ∈ valuesOf "payload" ms := by simp [hpayload]
    exact ⟨hobject.isValue_of_mem _ (mem_valuesOf.mp hmember), oneLine_eq_self hline, hvalid _ rfl⟩

/-- An envelope whose payload is a value in one line is decoded as it is. -/
theorem decode_encode_of_isPayload {e : Envelope} (h : IsPayload e.payload) :
    decode e.encode = .ok e := by
  obtain ⟨hvalue, hline⟩ := h
  obtain ⟨c, r, hr, -⟩ := hvalue.exists_cons
  have hwritten : e.written = e.payload := by simp [written, hr]
  have hdecode := decode_frame e.channel isBlank_nil hvalue isBlank_nil hline.isValid
  rw [hline.oneLine_eq] at hdecode
  simpa [encode_eq_frame, hwritten] using hdecode

/-- What was decoded is decoded from its own frame. -/
theorem decode_encode_of_decode {raw : Bytes} {e : Envelope} (h : decode raw = .ok e) :
    decode e.encode = .ok e :=
  decode_encode_of_isPayload (isPayload_of_decode h)

/-- No frame is the frame of two channels, whatever their payloads are. -/
theorem channel_eq_of_encode_eq {e e' : Envelope} (h : e.encode = e'.encode) :
    e.channel = e'.channel := by
  have hframe (e : Envelope) : e.encode = opening ++ quote :: (escape (Utf8.encode e.channel)
      ++ quote :: (middle ++ e.written ++ closing)) := by
    simp [encode, renderString]
  rw [hframe, hframe] at h
  obtain ⟨-, hlabel⟩ := List.cons.inj (List.append_cancel_left h)
  have hread := readString_append (spells_escape (Utf8.encode e.channel))
    (middle ++ e.written ++ closing)
  rw [hlabel, readString_append (spells_escape _)] at hread
  exact (Prod.mk.inj (Except.ok.inj hread)).1.symm

/-! ### Main results -/

/-- Envelopes survive their encoding. One with any label and with a payload that is empty or JSON is
decoded from its frame with that label and with its payload in one line and without the blanks
around it; and whatever was decoded from a frame is decoded from its own frame as it is. -/
theorem decode_encode :
    (∀ label p, p = [] ∨ isJson p = true →
      decode (encode ⟨label, p⟩) = .ok ⟨label, canonical p⟩) ∧
    ∀ raw e, decode raw = .ok e → decode e.encode = .ok e := by
  refine ⟨fun label p hp => ?_, fun raw e h => decode_encode_of_decode h⟩
  rcases hp with rfl | hp
  · exact decode_encode_nil label
  · exact decode_encode_of_isJson label hp

/-- A label with a quote and a line break in it, and a payload of two lines. -/
theorem decode_encode_two_lines :
    let p := Utf8.encode " [1,\n2]\n"
    let e : Envelope := ⟨"a\"\n", p⟩
    isJson p = true ∧ decode e.encode = .ok ⟨"a\"\n", Utf8.encode "[1, 2]"⟩ ∧
      decode (encode ⟨"a\"\n", Utf8.encode "[1, 2]"⟩) = .ok ⟨"a\"\n", Utf8.encode "[1, 2]"⟩ := by
  have hjson : isJson (Utf8.encode " [1,\n2]\n") = true := by decide +kernel
  have hcanonical : canonical (Utf8.encode " [1,\n2]\n") = Utf8.encode "[1, 2]" := by decide +kernel
  have hfirst := decode_encode.1 "a\"\n" _ (Or.inr hjson)
  rw [hcanonical] at hfirst
  exact ⟨hjson, hfirst, decode_encode.2 _ _ hfirst⟩

/-- The length of a frame is known before the frame is written. -/
theorem length_encode (e : Envelope) : e.encode.length = e.encodedLength := by
  have hopening : opening.length = 11 := by decide
  have hmiddle : middle.length = 11 := by decide
  have hclosing : closing.length = 1 := by decide
  have hwritten : e.written.length = if e.payload.isEmpty then 4 else e.payload.length := by
    unfold written
    split_ifs
    · decide
    · rfl
  simp only [encode, encodedLength, List.length_append, hopening, hmiddle, hclosing, hwritten]

end Switchboard.Envelope
