import IntentGateway.Proofs.Gateway.Refusal

/-! # What is read of a request

A body that is no request has issues, each with the body itself or with one of its fields. A
request takes its id and its parameters from the body, and the operation that it asks for takes its
arguments from the parameters. So whatever is quoted of a request is a part of the body, or has a
JSON form.
-/

namespace IntentGateway.Rpc

open Json (HasForm)
open Schema

/-! ## Issues of a request -/

section Issues

variable {P : Issue → Prop} (hkey : ∀ key issue, P issue → P (issue.under (.key key)))
include hkey

theorem reports_strictId {part : Value} (h : ∀ fault, P ⟨fault, [], part⟩) :
    (strictId part).Reports P := by
  have hn := reports_strictInteger h
  have hs := reports_strictString h
  rw [strictId]
  split
  · trivial
  · trivial
  · rename_i issues more hinteger hstring
    rw [hinteger] at hn
    rw [hstring] at hs
    refine List.forall_mem_append.mpr ⟨List.forall_mem_map.mpr ?_, List.forall_mem_map.mpr ?_⟩
    · exact fun issue hmem => hkey _ issue (hn issue hmem)
    · exact fun issue hmem => hkey _ issue (hs issue hmem)

/-- Every issue with a request is about the request or one of its fields, by way of keys. -/
theorem Request.reports_decode {v : Value} (hself : ∀ fault, P ⟨fault, [], v⟩)
    (hfield : ∀ entries, v = .map entries → ∀ entry ∈ entries, ∀ fault, P ⟨fault, [], entry.2⟩) :
    (Request.decode v).Reports P := by
  rw [decode, record.eq_def]
  split
  · rename_i entries
    have hpart := hfield entries rfl
    have hmissing (key : String) : P ⟨.missing, [.key key], .map entries⟩ :=
      hkey key ⟨.missing, [], .map entries⟩ (hself _)
    have hunder {α : Type} {decode : Decoder α}
        (h : ∀ entry ∈ entries, (decode entry.2).Reports P) :
        ∀ entry ∈ entries, ∀ used,
          (decode entry.2).Reports fun issue => P (issue.under (.key used)) :=
      fun entry hmem used => (h entry hmem).imp fun issue => hkey used issue
    refine Checked.reports_seq (Checked.reports_seq (Checked.reports_seq
      (Checked.reports_map ?_) ?_) ?_) ?_
    · exact reports_required (hmissing _)
        (hunder fun entry hmem => reports_literal (hpart entry hmem) version)
    · exact reports_required (hmissing _)
        (hunder fun entry hmem => reports_strictString (hpart entry hmem))
    · exact reports_defaulted (hunder fun entry hmem => reports_listOf_any (hpart entry hmem))
    · exact reports_defaulted (hunder fun entry hmem =>
        reports_optional (reports_strictId hkey (hpart entry hmem)))
  · exact Checked.reports_fault (hself _)

end Issues

variable {room : ℕ}

/-- An issue can be written if the input that it quotes can, and the way to it. -/
theorem hasForm_issue {issue : Issue}
    (h : ∀ segment ∈ issue.path, HasForm room segment.toValue) :
    HasForm (room + 2) issue.toValue ↔ HasForm (room + 1) issue.input := by
  have hpath : HasForm (room + 1) (.list (issue.path.map Segment.toValue)) :=
    Json.hasForm_list.mpr (List.forall_mem_map.mpr h)
  rw [Issue.toValue, Json.hasForm_map]
  simp [Json.EntryHasForm, Json.hasForm_str, hpath]

/-- The way to an issue with a request can be written, and its input if the whole can. -/
theorem Request.hasForm_issues {v : Value} :
    (Request.decode v).Reports fun issue =>
      (∀ segment ∈ issue.path, HasForm 0 segment.toValue)
        ∧ ∀ room, HasForm room v → HasForm room issue.input := by
  apply Request.reports_decode
  · rintro key issue ⟨hpath, hinput⟩
    exact ⟨List.forall_mem_cons.mpr ⟨Json.hasForm_str key, hpath⟩, hinput⟩
  · exact fun fault => ⟨fun _ hmem => (nomatch hmem), fun _ hv => hv⟩
  · rintro entries rfl entry hmem fault
    exact ⟨fun _ hmem => (nomatch hmem), fun room hv => hv.of_mem_map hmem⟩

/-! ## Parts of a request -/

/-- An id that is accepted can be written. -/
theorem hasForm_of_strictId {v : Value} (hv : v.Readable) {id : RequestId}
    (h : strictId v = .valid id) : HasForm room id.toValue := by
  cases v with
  | int n =>
    cases h
    cases hv with
    | int hfits => exact Json.hasForm_int.mpr hfits
  | str s =>
    cases h
    exact Json.hasForm_str s
  | _ => cases h

/-- The id that is read off a body is the given one. -/
theorem toValue_of_ofValue? {v : Value} {id : RequestId} (h : RequestId.ofValue? v = some id) :
    id.toValue = v := by
  cases v with
  | int n =>
    cases h
    rfl
  | str s =>
    cases h
    rfl
  | illFormed points =>
    cases h
    rfl
  | _ => cases h

theorem RequestId.isScalar_toValue (id : RequestId) : id.toValue.isScalar = true := by
  cases id with
  | number n => rfl
  | text raw => exact Value.isScalar_ofRaw raw

/-- An id takes no level of its own. -/
theorem hasForm_id_iff (depth room : ℕ) {id : Option RequestId} :
    HasForm depth (.ofOption RequestId.toValue id)
      ↔ HasForm room (.ofOption RequestId.toValue id) := by
  have hscalar : (Value.ofOption RequestId.toValue id).isScalar = true := by
    cases id with
    | none => rfl
    | some id => exact id.isScalar_toValue
  exact Json.hasForm_iff_of_within (.scalar hscalar) (.scalar hscalar)

theorem hasForm_bodyId? {v : Value} (h : HasForm room v) :
    HasForm room (.ofOption RequestId.toValue (bodyId? v)) := by
  refine Json.hasForm_ofOption fun id hid => ?_
  obtain ⟨part, hfield, hpart⟩ := Option.bind_eq_some_iff.mp hid
  rw [toValue_of_ofValue? hpart]
  cases v with
  | map entries =>
    obtain ⟨entry, hmem, rfl⟩ := Option.map_eq_some_iff.mp hfield
    exact h.of_mem_map (List.mem_of_find?_eq_some hmem)
  | _ => cases hfield

/-- What a request holds is in the map that it was read from. -/
theorem Request.of_decode {v : Value} {request : Request} (h : decode v = .valid request) :
    ∃ entries, v = .map entries
      ∧ (∀ id, request.id = some id → ∃ key part, (key, part) ∈ entries ∧ strictId part = .valid id)
      ∧ (request.params = [] ∨ ∃ key, (key, .list request.params) ∈ entries) := by
  obtain ⟨entries, rfl, hfields⟩ := record_eq_valid.mp h
  simp only [Checked.seq_eq_valid, Checked.map_eq_valid] at hfields
  obtain ⟨_, id, ⟨_, params, ⟨_, method, ⟨_, _, rfl⟩, _, rfl⟩, hparams, rfl⟩, hid, rfl⟩ := hfields
  refine ⟨entries, rfl, ?_, ?_⟩
  · rintro given rfl
    rcases defaulted_eq_valid.mp hid with ⟨used, part, hfind, hpart⟩ | ⟨_, hdefault⟩
    · obtain ⟨key, hmem⟩ := Field.mem_of_find? hfind
      exact ⟨key, part, hmem, (optional_eq_some.mp hpart).2⟩
    · cases hdefault
  · rcases defaulted_eq_valid.mp hparams with ⟨used, part, hfind, hpart⟩ | ⟨_, hdefault⟩
    · obtain ⟨key, hmem⟩ := Field.mem_of_find? hfind
      obtain ⟨items, rfl, hitems⟩ := listOf_eq_valid.mp hpart
      have : items = params := List.map_injective_iff.mpr (fun _ _ h => by cases h; rfl) hitems
      exact Or.inr ⟨key, this ▸ hmem⟩
    · exact Or.inl hdefault.symm

/-- The id of a request that was read can be written. -/
theorem Request.hasForm_id_of_decode {v : Value} (hv : v.Readable) {request : Request}
    (h : decode v = .valid request) : HasForm room (.ofOption RequestId.toValue request.id) := by
  obtain ⟨entries, rfl, hid, _⟩ := of_decode h
  cases hv with
  | map hentries =>
    refine Json.hasForm_ofOption fun id hrequest => ?_
    obtain ⟨key, part, hmem, hpart⟩ := hid id hrequest
    exact hasForm_of_strictId (hentries _ hmem) hpart

/-- The parameters of a request that was read were read too. -/
theorem Request.readable_of_decode {v : Value} (hv : v.Readable) {request : Request}
    (h : decode v = .valid request) : ∀ param ∈ request.params, param.Readable := by
  obtain ⟨entries, rfl, _, hparams⟩ := of_decode h
  cases hv with
  | map hentries =>
    rcases hparams with hnil | ⟨key, hmem⟩
    · simp [hnil]
    · cases hentries _ hmem with
      | list hitems => exact hitems

/-- So do the parameters have JSON forms, if the whole has one. -/
theorem Request.hasForm_of_decode {v : Value} (hv : HasForm room v) {request : Request}
    (h : decode v = .valid request) : ∀ param ∈ request.params, HasForm room param := by
  obtain ⟨entries, rfl, _, hparams⟩ := of_decode h
  rcases hparams with hnil | ⟨key, hmem⟩
  · simp [hnil]
  · exact fun param hparam => (hv.of_mem_map hmem).of_mem_list hparam

/-- They are nested no more often than the whole. -/
theorem Request.within_of_decode {depth : ℕ} {v : Value} (hv : v.Within depth)
    {request : Request} (h : decode v = .valid request) :
    ∀ param ∈ request.params, param.Within depth := by
  obtain ⟨entries, rfl, _, hparams⟩ := of_decode h
  rcases hparams with hnil | ⟨key, hmem⟩
  · simp [hnil]
  · cases hv with
    | scalar h => cases h
    | map hentries =>
      cases hentries _ hmem with
      | scalar h => cases h
      | list hitems => exact fun item hitem => (hitems item hitem).mono (by omega)

/-- What is no batch is read as a request. -/
theorem Received.ofValue_of_not_list {v : Value} (h : ∀ items, v ≠ .list items) :
    Received.ofValue v =
      match Request.decode v with
      | .valid asked => .request asked
      | .invalid issues =>
        .refused (.refusing (.plain .invalidRequest
          [("errors", .list (issues.map Issue.toValue))]) (bodyId? v)) := by
  cases v with
  | list items => exact absurd rfl (h items)
  | _ => rfl

/-- A value amounts to the request that it is read as. -/
theorem Received.ofValue_eq_request_iff {v : Value} {request : Request} :
    Received.ofValue v = .request request ↔ Request.decode v = .valid request := by
  by_cases hlist : ∃ items, v = .list items
  · obtain ⟨items, rfl⟩ := hlist
    exact iff_of_false (fun h => nomatch h) fun h => nomatch h
  · rw [ofValue_of_not_list fun items heq => hlist ⟨items, heq⟩]
    cases Request.decode v with
    | valid asked => simp
    | invalid issues => simp

/-! ## The operation of a request -/

open Failure (QuotedBy only_ok only_error quotedBy_shown_bind quotedBy_shown_worded
  quotes_worded)

variable [Nesting]

/-- A string parameter is the given one. -/
theorem ofRaw_of_stringParam {name : String} {given : Value} {raw : RawText}
    (h : stringParam name given = .ok raw) : .ofRaw raw = given := by
  rw [stringParam] at h
  split at h
  · rename_i hraw
    cases h
    exact (Value.eq_ofRaw_of_raw? hraw).symm
  · obtain ⟨_, _, h⟩ := Failure.bind_eq_ok h
    cases h

/-- An integer parameter has a JSON form if it was read. -/
theorem hasForm_of_intParam {name : String} {given : Value} (hv : given.Readable) {n : Int}
    (h : intParam name given = .ok n) : HasForm room (.int n) := by
  rw [intParam.eq_def] at h
  dsimp only at h
  split at h
  · rename_i m hgiven
    split at h
    · cases h
      split at hgiven
      · rename_i x
        cases hv with
        | float hx =>
          cases hinteger : x.toInt? with
          | none => simp [hinteger] at hgiven
          | some k =>
            obtain rfl : k = n := by simpa [hinteger] using hgiven
            exact Json.hasForm_int.mpr (hx.fits hinteger)
      · subst hgiven
        cases hv with
        | int hfits => exact Json.hasForm_int.mpr hfits
    · obtain ⟨_, _, h⟩ := Failure.bind_eq_ok h
      cases h
  · obtain ⟨_, _, h⟩ := Failure.bind_eq_ok h
    cases h

section Operations

variable {P : Value → Prop}

omit [Nesting] in
theorem quotedBy_ofRequest {raw : RawText} (h : P (.ofRaw raw)) :
    QuotedBy P (Amount.ofRequest raw) := by
  rw [Amount.ofRequest]
  split
  · exact only_error.mpr (quotes_worded (by simpa using h))
  · split
    · exact only_ok _
    · exact only_error.mpr trivial

variable (hP : ∀ v, HasForm 1 v → P v)
include hP

theorem quotedBy_stringParam (name : String) (given : Value) :
    QuotedBy P (stringParam name given) := by
  rw [stringParam]
  split
  · exact only_ok _
  · exact quotedBy_shown_worded hP

theorem quotedBy_intParam (name : String) (given : Value) : QuotedBy P (intParam name given) := by
  rw [intParam.eq_def]
  dsimp only
  split
  · split
    · exact only_ok _
    · exact quotedBy_shown_worded hP
  · exact quotedBy_shown_worded hP

omit [Nesting] in
theorem quotes_wrongCount (method : Method) (given : List Value) :
    (method.wrongCount given).Quotes P := by
  have hnames : HasForm 1 (.list (method.params.map .str)) :=
    Json.hasForm_list.mpr (by simp [Json.hasForm_str])
  exact quotes_worded (by simpa using hP _ hnames)

/-- A refusal of the parameters quotes the amount or none of them, and the amount only if it is a
string. -/
theorem Method.quotedBy_operation (method : Method) {given : List Value}
    (h : ∀ raw, .ofRaw raw ∈ given → P (.ofRaw raw)) : QuotedBy P (method.operation given) := by
  rw [operation.eq_def]
  split
  · rename_i merchant amount token
    refine (quotedBy_stringParam hP _ _).bind fun raw hraw => ?_
    have hamount : P (.ofRaw raw) := h raw (by simp [ofRaw_of_stringParam hraw])
    refine (quotedBy_ofRequest hamount).bind fun _ _ => ?_
    refine (quotedBy_stringParam hP _ _).bind fun _ _ => ?_
    exact (quotedBy_stringParam hP _ _).bind fun _ _ => only_ok _
  · exact (quotedBy_intParam hP _ _).bind fun _ _ => only_ok _
  · exact (quotedBy_stringParam hP _ _).bind fun _ _ => only_ok _
  · refine (quotedBy_intParam hP _ _).bind fun _ _ => ?_
    exact (quotedBy_stringParam hP _ _).bind fun _ _ => only_ok _
  · exact (quotedBy_intParam hP _ _).bind fun _ _ => only_ok _
  · exact (quotedBy_stringParam hP _ _).bind fun _ _ => only_ok _
  · exact only_error.mpr (quotes_wrongCount hP method given)

theorem Request.quotedBy_operation (request : Request)
    (h : ∀ raw, .ofRaw raw ∈ request.params → P (.ofRaw raw)) :
    QuotedBy P request.operation := by
  rw [Request.operation]
  split
  · rename_i method _
    exact method.quotedBy_operation hP h
  · exact quotedBy_shown_bind fun _ => quotes_worded (by simpa using hP _ (Json.hasForm_str _))

/-- The arguments of an operation are strings and numbers among the parameters, and the rate of the
policy. -/
theorem Method.arguments_of_operation {method : Method} {given : List Value}
    (hgiven : ∀ v ∈ given, v.Readable) (h : ∀ raw, .ofRaw raw ∈ given → P (.ofRaw raw))
    {operation : Operation} (hop : method.operation given = .ok operation) {policy : Policy}
    (hrate : ∀ n, policy.feeBps = .int n → P (.int n)) :
    ∀ v ∈ operation.arguments policy, P v := by
  have htext {name : String} {v : Value} {raw : RawText} (hv : v ∈ given)
      (hraw : stringParam name v = .ok raw) : P (.ofRaw raw) :=
    h raw (ofRaw_of_stringParam hraw ▸ hv)
  have hnumber {name : String} {v : Value} {n : Int} (hv : v ∈ given)
      (hn : intParam name v = .ok n) : P (.int n) :=
    hP _ (hasForm_of_intParam (hgiven v hv) hn)
  rw [Method.operation.eq_def] at hop
  split at hop
  · obtain ⟨_, _, hop⟩ := Failure.bind_eq_ok hop
    obtain ⟨_, _, hop⟩ := Failure.bind_eq_ok hop
    obtain ⟨merchant, hmerchant, hop⟩ := Failure.bind_eq_ok hop
    obtain ⟨token, htoken, hop⟩ := Failure.bind_eq_ok hop
    cases hop
    -- no rate is given, so that of the policy is taken
    have hbps (n : Int) (hn : policy.feeBps.int? = some n) : P (.int n) := by
      refine hrate n ?_
      cases hrates : policy.feeBps <;> rw [hrates] at hn <;> cases hn
      rfl
    simpa [Operation.arguments, Operation.orPolicy, Value.isNull] using
      ⟨htext (by simp) hmerchant, htext (by simp) htoken, hbps⟩
  · obtain ⟨id, hid, hop⟩ := Failure.bind_eq_ok hop
    cases hop
    simpa [Operation.arguments] using hnumber (by simp) hid
  · obtain ⟨merchant, hmerchant, hop⟩ := Failure.bind_eq_ok hop
    cases hop
    simpa [Operation.arguments] using htext (by simp) hmerchant
  · obtain ⟨id, hid, hop⟩ := Failure.bind_eq_ok hop
    obtain ⟨payer, hpayer, hop⟩ := Failure.bind_eq_ok hop
    cases hop
    simpa [Operation.arguments] using ⟨hnumber (by simp) hid, htext (by simp) hpayer⟩
  · obtain ⟨id, hid, hop⟩ := Failure.bind_eq_ok hop
    cases hop
    simpa [Operation.arguments] using hnumber (by simp) hid
  · obtain ⟨address, haddress, hop⟩ := Failure.bind_eq_ok hop
    cases hop
    simpa [Operation.arguments] using htext (by simp) haddress
  · cases hop

theorem Request.arguments_of_operation {request : Request}
    (hparams : ∀ v ∈ request.params, v.Readable)
    (h : ∀ raw, .ofRaw raw ∈ request.params → P (.ofRaw raw)) {operation : Operation}
    (hop : request.operation = .ok operation) {policy : Policy}
    (hrate : ∀ n, policy.feeBps = .int n → P (.int n)) :
    ∀ v ∈ operation.arguments policy, P v := by
  rw [Request.operation] at hop
  split at hop
  · exact Method.arguments_of_operation hP hparams h hop hrate
  · obtain ⟨_, _, hop⟩ := Failure.bind_eq_ok hop
    cases hop

end Operations

end IntentGateway.Rpc
