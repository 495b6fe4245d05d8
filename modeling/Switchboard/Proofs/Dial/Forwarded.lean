import Mathlib
import Switchboard.Dial.Request
/-!
# What reaches a channel of a client's header fields

The fields of a message count as a map from names to lists of values: two messages carry the same
fields when every name has the same values in both, in the same order.

A dial carries the token and whatever of the client's fields does not belong to the client's own
connection, and nothing else (`forwarded_exact`). So two clients whose fields agree outside
`ofConnection` and `authorization` are dialed for alike, down to the key that the dialer draws
(`request_agree`). Other names of the family `Sec-WebSocket-` are fields like any other: they are
carried on (`forwarded_accept`).
-/

namespace Switchboard

namespace Http.Headers

variable (h other : Headers) (name value : Bytes)

/-! ### The values of a name -/

theorem contains_eq_true_iff : h.contains name = true ↔ h.values name ≠ [] := by
  rw [contains, List.any_eq_true, values, Ne, List.map_eq_nil_iff, List.filter_eq_nil_iff]
  push Not
  rfl

variable {h name} in
/-- A name that does not occur has no value. -/
theorem values_of_notMem (hname : name ∉ h.fields.map Header.name) : h.values name = [] := by
  rw [values, List.map_eq_nil_iff, List.filter_eq_nil_iff]
  intro f hf heq
  exact hname (of_decide_eq_true heq ▸ List.mem_map_of_mem hf)

/-- Where no name occurs twice, a field has the only value of its name. -/
theorem values_of_nodup (hnodup : (h.fields.map Header.name).Nodup) {f : Header}
    (hf : f ∈ h.fields) : h.values f.name = [f.value] := by
  obtain ⟨front, back, hfields⟩ := List.append_of_mem hf
  rw [hfields, List.map_append, List.map_cons, List.nodup_middle, List.nodup_cons,
    List.mem_append, not_or] at hnodup
  obtain ⟨⟨hfront, hback⟩, -⟩ := hnodup
  have hone : h.values f.name =
      (⟨front⟩ : Headers).values f.name ++ f.value :: (⟨back⟩ : Headers).values f.name := by
    simp only [values, hfields, List.filter_append, List.filter_cons, decide_true, if_true,
      List.map_append, List.map_cons]
  rw [hone, values_of_notMem hfront, values_of_notMem hback]
  rfl

theorem values_remove (taken : Bytes) :
    (h.remove taken).values name = if name = taken then [] else h.values name := by
  unfold remove values
  rw [List.filter_filter]
  split_ifs with hname
  · rw [List.map_eq_nil_iff, List.filter_eq_nil_iff]
    intro f _ hf
    simp only [ne_eq, decide_not, Bool.and_eq_true, decide_eq_true_eq, Bool.not_eq_true',
      decide_eq_false_iff_not] at hf
    exact hf.2 (hf.1.trans hname)
  · congr 1
    apply List.filter_congr
    intro f _
    by_cases hf : f.name = name
    · simp [hf, hname]
    · simp [hf]

/-- Names that are taken away one after the other have no value, and the others keep theirs. -/
theorem values_foldl_remove (taken : List Bytes) :
    (taken.foldl remove h).values name = if name ∈ taken then [] else h.values name := by
  induction taken generalizing h with
  | nil => rw [List.foldl_nil, if_neg List.not_mem_nil]
  | cons n taken ih =>
    rw [List.foldl_cons, ih, values_remove]
    by_cases hn : name = n
    · simp [hn]
    · simp [hn]

/-- A name that is given one value has that value alone. -/
theorem values_insert : (h.insert name value).values name = [value] := by
  simp [insert, remove, append, values, List.filter_filter]

theorem values_insert_of_ne {given : Bytes} (hname : name ≠ given) :
    (h.insert given value).values name = h.values name := by
  rw [insert, append, values, List.filter_append, List.map_append]
  rw [show ((h.remove given).fields.filter (·.name = name)).map Header.value =
    (h.remove given).values name from rfl, values_remove, if_neg hname]
  simp [hname.symm]

/-- A name that occurs in the other fields takes its values from there. -/
theorem values_extend (hname : other.contains name = true) :
    (h.extend other).values name = other.values name := by
  have hnone : (h.fields.filter fun f => !other.contains f.name).filter (·.name = name) = [] := by
    rw [List.filter_filter, List.filter_eq_nil_iff]
    intro f _ hf
    simp only [Bool.and_eq_true, decide_eq_true_eq, Bool.not_eq_true'] at hf
    obtain ⟨rfl, hf⟩ := hf
    simp [hname] at hf
  rw [values, extend, List.filter_append, hnone]
  rfl

/-- A name that does not occur in the other fields keeps its values. -/
theorem values_extend_of_nil (hname : other.values name = []) :
    (h.extend other).values name = h.values name := by
  have hkept : (h.fields.filter fun f => !other.contains f.name).filter (·.name = name) =
      h.fields.filter (·.name = name) := by
    rw [List.filter_filter]
    apply List.filter_congr
    intro f _
    by_cases hf : f.name = name
    · have : other.contains name = false := by
        rw [← Bool.not_eq_true, contains_eq_true_iff]
        exact fun hne => hne hname
      simp [hf, this]
    · simp [hf]
  rw [values, extend, List.filter_append, hkept, List.map_append]
  rw [show (other.fields.filter (·.name = name)).map Header.value = other.values name from rfl,
    hname, List.append_nil]
  rfl

/-! ### Fields that agree -/

/-- Every name that is not hidden has the same values in both. -/
def AgreeOutside (hidden : Bytes → Prop) (h other : Headers) : Prop :=
  ∀ name, ¬ hidden name → h.values name = other.values name

/-- Every name has the same values in both. -/
def Agree (h other : Headers) : Prop := ∀ name, h.values name = other.values name

variable {h other}

/-- Whether fields agree is decided by the names that occur in them. -/
theorem agreeOutside_of_names {hidden : Bytes → Prop}
    (hnames : ∀ name ∈ (h.fields ++ other.fields).map Header.name,
      hidden name ∨ h.values name = other.values name) : AgreeOutside hidden h other := by
  intro name hname
  by_cases hmem : name ∈ (h.fields ++ other.fields).map Header.name
  · exact (hnames name hmem).resolve_left hname
  · rw [List.map_append, List.mem_append, not_or] at hmem
    rw [values_of_notMem hmem.1, values_of_notMem hmem.2]

/-- Fields that agree do the same to the fields that they extend. -/
theorem Agree.extend (hagree : Agree h other) {own own' : Headers} {hidden : Bytes → Prop}
    (hown : AgreeOutside hidden own own') :
    AgreeOutside hidden (own.extend h) (own'.extend other) := by
  intro name hname
  by_cases hnone : h.values name = []
  · rw [values_extend_of_nil _ _ _ hnone, values_extend_of_nil _ _ _ (hagree name ▸ hnone),
      hown name hname]
  · rw [values_extend _ _ _ ((contains_eq_true_iff _ _).2 hnone),
      values_extend _ _ _ ((contains_eq_true_iff _ _).2 (hagree name ▸ hnone)), hagree name]

end Http.Headers

namespace Dial

open Http Headers

/-- The names whose values a client has no part in. -/
def IsWithheld (name : Bytes) : Prop := name = authorization ∨ name ∈ ofConnection

instance : DecidablePred IsWithheld := fun _ => inferInstanceAs (Decidable (_ ∨ _))

/-- The names of a client's own upgrade: those of its connection, and all that begin with
`sec-websocket-`. -/
def IsOfUpgrade (name : Bytes) : Prop :=
  name ∈ [authorization, host, upgrade, connection] ∨ Utf8.encode "sec-websocket-" <+: name

instance : DecidablePred IsOfUpgrade := fun _ => inferInstanceAs (Decidable (_ ∨ _))

section

variable {client client' fields fields' : Headers} {token : String}

/-! ### What is forwarded -/

theorem forwarded_eq_error_iff {f : Failure} :
    forwarded client token = .error f ↔ isValue (bearer token) = false ∧
      f = .plain .internal "internal token is not a valid header value" := by
  unfold forwarded
  split_ifs with hvalue
  · simp [hvalue]
  · rw [Bool.not_eq_true] at hvalue
    rw [Except.error.injEq]
    exact ⟨fun hf => ⟨hvalue, hf.symm⟩, fun hf => hf.2.symm⟩

/-- A token is fit for a field if none of its bytes is a control character other than the tab. -/
theorem isValue_bearer_eq_false_iff : isValue (bearer token) = false ↔
    ∃ b ∈ Utf8.encode token, (b < 0x20 ∧ b ≠ Ascii.tab) ∨ b = Ascii.delete := by
  have hscheme : (Utf8.encode "Bearer ").all isValueByte = true := by decide +kernel
  have hbyte : ∀ b : UInt8,
      isValueByte b = false ↔ (b < 0x20 ∧ b ≠ Ascii.tab) ∨ b = Ascii.delete := by
    intro b
    have htab : Ascii.tab ≠ Ascii.delete := by decide
    unfold isValueByte
    by_cases hdelete : b = Ascii.delete
    · simp [hdelete, htab.symm]
    · simp [hdelete]
  rw [isValue, bearer, List.all_append, hscheme, Bool.true_and, List.all_eq_false]
  simp only [Bool.not_eq_true, hbyte]

theorem forwarded_of_ok (h : forwarded client token = .ok fields) :
    fields = (ofConnection.foldl remove client).insert authorization (bearer token) := by
  unfold forwarded at h
  split_ifs at h
  exact (Except.ok.inj h).symm

theorem values_forwarded_authorization (h : forwarded client token = .ok fields) :
    fields.values authorization = [bearer token] := by
  rw [forwarded_of_ok h, values_insert]

theorem values_forwarded (h : forwarded client token = .ok fields) {name : Bytes}
    (hname : name ≠ authorization) :
    fields.values name = if name ∈ ofConnection then [] else client.values name := by
  rw [forwarded_of_ok h, values_insert_of_ne _ _ _ hname, values_foldl_remove]

/-- The token of a client is not among what belongs to its connection. -/
theorem authorization_notMem_ofConnection : authorization ∉ ofConnection := by decide +kernel

theorem values_forwarded_ofConnection (h : forwarded client token = .ok fields) {name : Bytes}
    (hname : name ∈ ofConnection) : fields.values name = [] := by
  rw [values_forwarded h (ne_of_mem_of_not_mem hname authorization_notMem_ofConnection),
    if_pos hname]

/-- What is forwarded for clients that agree outside what is withheld agrees everywhere. -/
theorem forwarded_agree (h : forwarded client token = .ok fields)
    (h' : forwarded client' token = .ok fields') (hagree : AgreeOutside IsWithheld client client') :
    Agree fields fields' := by
  intro name
  by_cases hname : name = authorization
  · rw [hname, values_forwarded_authorization h, values_forwarded_authorization h']
  · rw [values_forwarded h hname, values_forwarded h' hname]
    split_ifs with hof
    · rfl
    · exact hagree name (not_or.2 ⟨hname, hof⟩)

/-! ### The request -/

/-- A dial carries the token as its only authorization. -/
theorem values_authorization (hf : forwarded client token = .ok fields) (u : Url) (key : Bytes) :
    (request u key fields).headers.values authorization = [bearer token] := by
  have hvalues := values_forwarded_authorization hf
  have hcontains : fields.contains authorization = true := by
    rw [contains_eq_true_iff, hvalues]
    exact List.cons_ne_nil _ _
  rw [request, values_extend _ _ _ hcontains, hvalues]

variable (u : Url) (key : Bytes)

/-- The dialer gives no name two values. -/
theorem nodup_ownFields : ((ownFields u key).fields.map Header.name).Nodup := by
  have : [host, connection, upgrade, webSocketVersion, webSocketKey].Nodup := by decide +kernel
  exact this

/-- The dialer gives values to names only that are withheld. -/
theorem ofConnection_of_mem_ownFields {f : Header} (hf : f ∈ (ownFields u key).fields) :
    f.name ∈ ofConnection := by
  have hnames : ∀ name ∈ [host, connection, upgrade, webSocketVersion, webSocketKey],
      name ∈ ofConnection := by decide +kernel
  exact hnames f.name (List.mem_map_of_mem (f := Header.name) hf)

/-- A name of the client's connection has the dialer's values. -/
theorem values_request_ofConnection (h : forwarded client token = .ok fields) {name : Bytes}
    (hname : name ∈ ofConnection) :
    (request u key fields).headers.values name = (ownFields u key).values name :=
  values_extend_of_nil _ _ _ (values_forwarded_ofConnection h hname)

/-- What the dialer begins with stays as it is. -/
theorem values_request_own (h : forwarded client token = .ok fields) {f : Header}
    (hf : f ∈ (ownFields u key).fields) :
    (request u key fields).headers.values f.name = [f.value] := by
  rw [values_request_ofConnection u key h (ofConnection_of_mem_ownFields u key hf),
    values_of_nodup _ (nodup_ownFields u key) hf]

/-- The key is the one that the dialer drew. -/
theorem values_request_key (h : forwarded client token = .ok fields) :
    (request u key fields).headers.values webSocketKey = [key] := by
  have hmem : (⟨webSocketKey, key⟩ : Header) ∈ (ownFields u key).fields :=
    List.mem_append_right [_, _, _, _] List.mem_cons_self
  exact values_request_own u key h hmem

/-- Dials that differ in their keys begin with the same fields otherwise. -/
theorem ownFields_agree (key' : Bytes) :
    AgreeOutside (· = webSocketKey) (ownFields u key) (ownFields u key') := by
  intro name hname
  have hkey : ¬ webSocketKey = name := fun heq => hname heq.symm
  simp only [values, ownFields, List.filter_cons, List.filter_nil, hkey, decide_false,
    Bool.false_eq_true, if_false]

end

/-! ### Exactly the client's fields -/

/-- The fields of a client are refused exactly when the token is not fit for a field. Otherwise what
is forwarded has no value for a name of the client's connection, the token as its only authorization
and the client's own values for every other name; and a request has the values that were forwarded
for each name among them, and beyond them those that the dialer derives from the URL. -/
theorem forwarded_exact (client : Headers) (token : String) :
    ((∃ f, forwarded client token = .error f) ↔
      ∃ b ∈ Utf8.encode token, (b < 0x20 ∧ b ≠ Ascii.tab) ∨ b = Ascii.delete) ∧
    (∀ f, forwarded client token = .error f → f.kind = .internal) ∧
    ∀ fields, forwarded client token = .ok fields →
      (∀ name ∈ ofConnection, fields.values name = []) ∧
      fields.values authorization = [bearer token] ∧
      (∀ name, name ∉ ofConnection → name ≠ authorization →
        fields.values name = client.values name) ∧
      ∀ (u : Url) (key : Bytes),
        (request u key fields).headers.values host =
          [Utf8.encode (String.ofList u.renderServer)] ∧
        (request u key fields).headers.values connection = [Utf8.encode "Upgrade"] ∧
        (request u key fields).headers.values upgrade = [Utf8.encode "websocket"] ∧
        (request u key fields).headers.values webSocketVersion = [Utf8.encode "13"] ∧
        (request u key fields).headers.values webSocketKey = [key] ∧
        ∀ name, fields.contains name = true →
          (request u key fields).headers.values name = fields.values name := by
  refine ⟨?_, ?_, ?_⟩
  · rw [← isValue_bearer_eq_false_iff]
    simp only [forwarded_eq_error_iff, exists_and_left, exists_eq, and_true]
  · intro f hf
    rw [(forwarded_eq_error_iff.1 hf).2]
    rfl
  · intro fields hfields
    refine ⟨fun name hname => values_forwarded_ofConnection hfields hname,
      values_forwarded_authorization hfields, ?_, ?_⟩
    · intro name hof hname
      rw [values_forwarded hfields hname, if_neg hof]
    · intro u key
      have hown := fun f hf => values_request_own (f := f) u key hfields hf
      simp only [ownFields, List.forall_mem_cons] at hown
      obtain ⟨hhost, hconnection, hupgrade, hversion, hkey, -⟩ := hown
      refine ⟨hhost, hconnection, hupgrade, hversion, hkey, ?_⟩
      intro name hname
      exact values_extend _ _ _ hname

/-- A client that asks for two languages. -/
def languages : Headers :=
  ⟨[⟨Utf8.encode "accept-language", Utf8.encode "en"⟩, ⟨host, Utf8.encode "hub.example"⟩,
    ⟨authorization, Utf8.encode "Bearer browser"⟩,
    ⟨Utf8.encode "accept-language", Utf8.encode "fr"⟩]⟩

theorem forwarded_exact_languages :
    (∃ f, forwarded languages "bad\ntoken" = .error f ∧ f.kind = .internal) ∧
    ∃ fields, forwarded languages "itk" = .ok fields ∧
      fields.values host = [] ∧ fields.values authorization = [Utf8.encode "Bearer itk"] ∧
      fields.values (Utf8.encode "accept-language") = [Utf8.encode "en", Utf8.encode "fr"] := by
  refine ⟨?_, ?_⟩
  · obtain ⟨hfails, hkind, -⟩ := forwarded_exact languages "bad\ntoken"
    obtain ⟨f, hf⟩ := hfails.2 ⟨0x0A, by decide +kernel⟩
    exact ⟨f, hf, hkind f hf⟩
  · obtain ⟨-, -, hok⟩ := forwarded_exact languages "itk"
    have hfields : forwarded languages "itk" =
        .ok ((ofConnection.foldl remove languages).insert authorization (bearer "itk")) :=
      if_pos (by decide +kernel)
    obtain ⟨hnone, hbearer, hothers, -⟩ := hok _ hfields
    refine ⟨_, hfields, hnone host (by decide +kernel), ?_, ?_⟩
    · rw [hbearer]
      decide +kernel
    · rw [hothers _ (by decide +kernel) (by decide +kernel)]
      decide +kernel

/-! ### Clients that differ in their upgrade -/

/-- Clients whose fields agree outside what is withheld are refused alike, and dialed for alike but
for the key that the dialer draws. Of what is withheld a request has the dialer's values only. -/
theorem request_agree {client client' : Headers} (h : AgreeOutside IsWithheld client client')
    (token : String) :
    (∀ f, forwarded client token = .error f ↔ forwarded client' token = .error f) ∧
    ∀ fields fields', forwarded client token = .ok fields →
      forwarded client' token = .ok fields' →
      Agree fields fields' ∧ ∀ (u : Url) (key key' : Bytes),
        (request u key fields).method = (request u key' fields').method ∧
        (request u key fields).target = (request u key' fields').target ∧
        AgreeOutside (· = webSocketKey) (request u key fields).headers
          (request u key' fields').headers ∧
        (request u key fields).headers.values webSocketKey = [key] ∧
        (request u key fields).headers.values authorization = [bearer token] ∧
        ∀ name ∈ ofConnection,
          (request u key fields).headers.values name = (ownFields u key).values name := by
  refine ⟨?_, ?_⟩
  · intro f
    rw [forwarded_eq_error_iff, forwarded_eq_error_iff]
  · intro fields fields' hfields hfields'
    have hagree := forwarded_agree hfields hfields' h
    refine ⟨hagree, ?_⟩
    intro u key key'
    refine ⟨rfl, rfl, hagree.extend (ownFields_agree u key key'), ?_,
      values_authorization hfields u key, ?_⟩
    · exact values_request_key u key hfields
    · intro name hname
      exact values_request_ofConnection u key hfields hname

/-- The client of `languages` from elsewhere, with another token and a key. -/
def otherLanguages : Headers :=
  ⟨[⟨webSocketKey, Utf8.encode "dGhl"⟩, ⟨Utf8.encode "accept-language", Utf8.encode "en"⟩,
    ⟨Utf8.encode "accept-language", Utf8.encode "fr"⟩, ⟨authorization, Utf8.encode "Basic"⟩]⟩

theorem request_agree_otherLanguages : AgreeOutside IsWithheld languages otherLanguages ∧
    ∃ fields fields', forwarded languages "itk" = .ok fields ∧
      forwarded otherLanguages "itk" = .ok fields' ∧ Agree fields fields' := by
  have hagree : AgreeOutside IsWithheld languages otherLanguages :=
    agreeOutside_of_names (by decide +kernel)
  have hvalue : isValue (bearer "itk") = true := by decide +kernel
  have hfields : ∀ client : Headers, forwarded client "itk" =
      .ok ((ofConnection.foldl remove client).insert authorization (bearer "itk")) :=
    fun _ => if_pos hvalue
  obtain ⟨-, hok⟩ := request_agree hagree "itk"
  exact ⟨hagree, _, _, hfields languages, hfields otherLanguages,
    (hok _ _ (hfields languages) (hfields otherLanguages)).1⟩

/-- The name of a field of the upgrade that a client does not send. -/
def webSocketAccept : Bytes := Utf8.encode "sec-websocket-accept"

/-- A client whose upgrade has a field of an answer. -/
def answering : Headers := ⟨[⟨webSocketAccept, Utf8.encode "x"⟩]⟩

/-- Not all of the family `Sec-WebSocket-` is withheld: a client that has such a field in its
request is dialed for with it. -/
theorem forwarded_accept : AgreeOutside IsOfUpgrade answering empty ∧
    ∃ fields fields', forwarded answering "itk" = .ok fields ∧
      forwarded empty "itk" = .ok fields' ∧ ¬ Agree fields fields' ∧
      ∀ (u : Url) (key : Bytes),
        (request u key fields).headers.values webSocketAccept = [Utf8.encode "x"] ∧
        (request u key fields').headers.values webSocketAccept = [] := by
  have hvalue : isValue (bearer "itk") = true := by decide +kernel
  have hname : webSocketAccept ≠ authorization := by decide +kernel
  have hof : webSocketAccept ∉ ofConnection := by decide +kernel
  have hown : webSocketAccept ∉
      [host, connection, upgrade, webSocketVersion, webSocketKey] := by decide +kernel
  have hvalues : ∀ {client fields : Headers}, forwarded client "itk" = .ok fields →
      fields.values webSocketAccept = client.values webSocketAccept := by
    intro client fields h
    rw [values_forwarded h hname, if_neg hof]
  have hthere : answering.values webSocketAccept = [Utf8.encode "x"] := by decide +kernel
  have hfields : forwarded answering "itk" = .ok _ := if_pos hvalue
  have hfields' : forwarded empty "itk" = .ok _ := if_pos hvalue
  refine ⟨agreeOutside_of_names (by decide +kernel), _, _, hfields, hfields', ?_, ?_⟩
  · intro hagree
    have hsame := hagree webSocketAccept
    rw [hvalues hfields, hvalues hfields', hthere] at hsame
    exact List.cons_ne_nil _ _ hsame
  · intro u key
    refine ⟨?_, ?_⟩
    · have hcontains := (contains_eq_true_iff _ webSocketAccept).2
        ((hvalues hfields).trans hthere ▸ List.cons_ne_nil _ _)
      rw [request, values_extend _ _ _ hcontains, hvalues hfields, hthere]
    · rw [request, values_extend_of_nil _ _ _ (hvalues hfields')]
      exact values_of_notMem hown

end Dial

end Switchboard
