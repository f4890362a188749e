import IntentGateway.Proofs.Gateway.Reason
import IntentGateway.Proofs.Rpc.Answer

/-! # The stages of a request

A body is read as JSON, then as a request, then its method is looked up, and then its parameters are
counted.
-/

namespace IntentGateway

namespace Rpc

open Schema

/-! ## Requests -/

/-- Whether an id, if it is a string, is a text. -/
def RequestId.IsText (id : RequestId) : Prop :=
  ∀ raw, id = .text raw → ∃ s, raw = .text s

/-- What the entries of a map have to be for it to be read as a request. -/
structure Request.IsReadFrom (request : Request) (entries : Value.Entries) : Prop where
  version : entries.find? "jsonrpc" = some (.str version)
  method : entries.find? "method" = some (.str request.method)
  params : (entries.find? "params").getD (.list []) = .list request.params
  id : (entries.find? "id").getD .null = .ofOption RequestId.toValue request.id
  id_text : ∀ id ∈ request.id, id.IsText

theorem strictId_eq_valid {v : Value} {id : RequestId} :
    strictId v = .valid id ↔ v = id.toValue ∧ id.IsText := by
  constructor
  · intro h
    cases v with
    | int n =>
      cases h
      exact ⟨rfl, fun raw hraw => nomatch hraw⟩
    | str s =>
      cases h
      exact ⟨rfl, fun raw hraw => ⟨s, by cases hraw; rfl⟩⟩
    | _ => cases h
  · rintro ⟨rfl, htext⟩
    cases id with
    | number n => rfl
    | text raw =>
      obtain ⟨s, rfl⟩ := htext raw rfl
      rfl

theorem optional_strictId_eq_valid (v : Value) (given : Option RequestId) :
    optional strictId v = .valid given ↔
      v = .ofOption RequestId.toValue given ∧ ∀ id ∈ given, id.IsText := by
  cases given with
  | none => simpa [Value.ofOption] using optional_eq_none
  | some id =>
    have hne : id.toValue ≠ .null := by
      rcases id with n | (s | points) <;> exact fun h => nomatch h
    rw [optional_eq_some, strictId_eq_valid]
    constructor
    · rintro ⟨_, rfl, htext⟩
      exact ⟨rfl, by simpa using htext⟩
    · rintro ⟨rfl, htext⟩
      exact ⟨hne, rfl, htext id rfl⟩

/-- A value is read as a request exactly if it is a map with the entries of one. -/
theorem Request.decode_eq_valid_iff {v : Value} {request : Request} :
    decode v = .valid request ↔ ∃ entries, v = .map entries ∧ request.IsReadFrom entries := by
  have hparams (record : Value.Entries) (params : List Value) :=
    defaulted_key_eq_valid_of_encode record "params" [] (a := params) (P := fun _ => True)
      (fun _ _ => by rw [listOf_any_eq_valid, and_true]) trivial
  have hid (record : Value.Entries) (id : Option RequestId) :=
    defaulted_key_eq_valid_of_encode record "id" none (a := id) optional_strictId_eq_valid
      fun id hid => nomatch hid
  refine record_eq_valid.trans (exists_congr fun entries => and_congr_right fun _ => ?_)
  simp only [Checked.seq_eq_valid, Checked.map_eq_valid, required_key_eq_valid, literal_eq_valid,
    strictString_eq_valid, nullable, hparams, hid]
  constructor
  · rintro ⟨_, id, ⟨_, params, ⟨_, method, ⟨_, ⟨_, hversion, rfl, _⟩, rfl⟩, ⟨_, hmethod, rfl⟩, rfl⟩,
      ⟨hparams, _⟩, rfl⟩, ⟨hid, htext⟩, rfl⟩
    exact ⟨hversion, hmethod, hparams, hid, htext⟩
  · rintro ⟨hversion, hmethod, hparams, hid, htext⟩
    exact ⟨_, request.id, ⟨_, request.params, ⟨_, request.method,
      ⟨version, ⟨_, hversion, rfl, rfl⟩, rfl⟩, ⟨_, hmethod, rfl⟩, rfl⟩, ⟨hparams, trivial⟩, rfl⟩,
      ⟨hid, htext⟩, rfl⟩

/-- Whether a body is JSON, and a request. -/
def Asks [Nesting] (body : List UInt8) (request : Request) : Prop :=
  ∃ entries, Json.read body = .ok (.map entries) ∧ request.IsReadFrom entries

theorem asks_iff [Nesting] {body : List UInt8} {v : Value} (h : Json.read body = .ok v)
    {request : Request} :
    Asks body request ↔ Request.decode v = .valid request := by
  simp only [Request.decode_eq_valid_iff, Asks, h, Except.ok.injEq]

/-! ## Ids -/

/-- The id that a body gives, if that is an integer or a string, and otherwise null. -/
def idMember (v : Value) : Value :=
  match v.field? "id" with
  | some (.int n) => .int n
  | some (.str s) => .str s
  | some (.illFormed points) => .illFormed points
  | _ => .null

/-- The id that a body is answered with. -/
def idOf [Nesting] (body : List UInt8) : Value :=
  match Json.read body with
  | .ok v => idMember v
  | .error _ => .null

theorem ofOption_bodyId? (v : Value) : .ofOption RequestId.toValue (bodyId? v) = idMember v := by
  unfold bodyId? idMember
  cases v.field? "id" with
  | none => rfl
  | some given => cases given <;> rfl

/-- A request has the id that its body gives. -/
theorem Request.IsReadFrom.ofOption_id {request : Request} {entries : Value.Entries}
    (h : request.IsReadFrom entries) :
    .ofOption RequestId.toValue request.id = idMember (.map entries) := by
  have hid := h.id
  unfold idMember
  rw [Value.field?]
  cases hfind : entries.find? "id" with
  | none =>
    rw [hfind] at hid
    exact hid.symm
  | some given =>
    rw [hfind, Option.getD_some] at hid
    subst hid
    rcases request.id with _ | (n | (s | points)) <;> rfl

/-! ## Methods -/

theorem Method.ofName?_eq_some_iff {name : String} {method : Method} :
    ofName? name = some method ↔ method.name = name := by
  constructor
  · intro h
    rw [ofName?] at h
    have hname := List.find?_some h
    exact beq_iff_eq.mp hname
  · rintro rfl
    cases method <;> decide

theorem Method.ofName?_eq_none_iff {name : String} :
    ofName? name = none ↔ ∀ method : Method, method.name ≠ name := by
  rw [Option.eq_none_iff_forall_ne_some]
  exact forall_congr' fun method => not_congr ofName?_eq_some_iff

/-- A request for a method that there is none of is refused as such. -/
theorem Request.operation_of_unknown [Nesting] {request : Request}
    (h : ∀ method : Method, method.name ≠ request.method) :
    ∃ message, request.operation
      = .error (.worded .methodNotFound message [("method", .str request.method)]) := by
  obtain ⟨shown, hshown⟩ := (Value.Readable.str request.method).shown (.scalar rfl)
  unfold Request.operation
  rw [Method.ofName?_eq_none_iff.mpr h]
  dsimp only
  rw [hshown]
  exact ⟨_, rfl⟩

theorem Method.operation_of_wrongCount [Nesting] (method : Method) {given : List Value}
    (h : given.length ≠ method.params.length) :
    method.operation given = .error (method.wrongCount given) := by
  unfold Method.operation
  split
  case h_7 => rfl
  all_goals exact absurd rfl h

section Parameters

variable [Nesting]

open Failure (OnlyFor only_ok only_error only_bind isFor_worded isFor_of_reason?_eq_none
  onlyFor_shown_bind)

/-- The reasons that parameters are refused for. -/
def Method.reasons : List Reason :=
  [.invalidParams, .invalidAmount]

theorem onlyFor_intParam (name : String) (given : Value) :
    OnlyFor Method.reasons (intParam name given) := by
  unfold intParam
  dsimp only
  split
  · split
    · exact only_ok _
    · exact onlyFor_shown_bind (by decide) _ _ _
  · exact onlyFor_shown_bind (by decide) _ _ _

theorem onlyFor_stringParam (name : String) (given : Value) :
    OnlyFor Method.reasons (stringParam name given) := by
  unfold stringParam
  split
  · exact only_ok _
  · exact onlyFor_shown_bind (by decide) _ _ _

omit [Nesting] in
theorem onlyFor_ofRequest (raw : RawText) : OnlyFor Method.reasons (Amount.ofRequest raw) := by
  unfold Amount.ofRequest
  dsimp only
  split
  · exact only_error.mpr (isFor_worded (by decide) _ _)
  · split
    · exact only_ok _
    · exact only_error.mpr (isFor_of_reason?_eq_none rfl)

theorem Method.onlyFor_operation (method : Method) (given : List Value) :
    OnlyFor Method.reasons (method.operation given) := by
  unfold Method.operation
  split
  · refine only_bind.mpr ⟨onlyFor_stringParam _ _, fun raw _ => ?_⟩
    refine only_bind.mpr ⟨onlyFor_ofRequest raw, fun gross _ => ?_⟩
    refine only_bind.mpr ⟨onlyFor_stringParam _ _, fun merchant _ => ?_⟩
    exact only_bind.mpr ⟨onlyFor_stringParam _ _, fun token _ => only_ok _⟩
  · exact only_bind.mpr ⟨onlyFor_intParam _ _, fun _ _ => only_ok _⟩
  · exact only_bind.mpr ⟨onlyFor_stringParam _ _, fun _ _ => only_ok _⟩
  · refine only_bind.mpr ⟨onlyFor_intParam _ _, fun id _ => ?_⟩
    exact only_bind.mpr ⟨onlyFor_stringParam _ _, fun payer _ => only_ok _⟩
  · exact only_bind.mpr ⟨onlyFor_intParam _ _, fun _ _ => only_ok _⟩
  · exact only_bind.mpr ⟨onlyFor_stringParam _ _, fun _ _ => only_ok _⟩
  · exact only_error.mpr (isFor_worded (by decide) _ _)

/-- A request for a method that there is is refused for its parameters, or as an operation. -/
theorem onlyFor_outcomeOf {request : Request} {method : Method}
    (hmethod : method.name = request.method) (gateway : Gateway) :
    OnlyFor (Method.reasons ++ Operation.reasons) (gateway.outcomeOf request) := by
  have hoperation : request.operation = method.operation request.params := by
    unfold Request.operation
    rw [Method.ofName?_eq_some_iff.mpr hmethod]
  unfold Gateway.outcomeOf
  rw [hoperation]
  split
  · rename_i failure hfailure
    refine only_error.mpr ((method.onlyFor_operation _ failure hfailure).of_subset ?_)
    exact List.subset_append_left _ _
  · rename_i operation _
    intro failure hfailure
    refine (gateway.onlyFor_perform operation failure hfailure).of_subset ?_
    exact List.subset_append_right _ _

end Parameters

end Rpc

/-! ## Codes -/

namespace Http

open Json (HasForm Writable)

/-- The number of the error that a response tells, if it tells one. -/
def Response.errorCode? (response : Response) : Option Value :=
  match response.content with
  | .json payload => (payload.field? "error").bind fun error => error.field? "code"
  | .text _ => none

variable [Nesting]

/-- The content of a response whose payload can be written. -/
theorem content_ofPayload {payload : Value} (h : Writable payload) :
    (Response.ofPayload payload).content = .json payload := by
  obtain ⟨text, htext⟩ := h
  rw [Response.ofPayload, htext]

theorem errorCode?_ofPayload {response : Rpc.Response}
    (h : Writable response.toPayload) :
    (Response.ofPayload response.toPayload).errorCode?
      = response.error.map fun error => .int error.code := by
  unfold Response.errorCode?
  rw [content_ofPayload h]
  dsimp only
  unfold Rpc.Response.toPayload
  cases response.error <;> rfl

theorem errorCode?_of_not_writable {payload : Value} (h : ¬ Writable payload) :
    (Response.ofPayload payload).errorCode? = none := by
  rw [ofPayload_of_not_writable h]
  rfl

/-- A response tells the number of its error if it can be written. -/
theorem errorCode?_ofPayload_eq_some_iff {response : Rpc.Response} {code : Int} :
    (Response.ofPayload response.toPayload).errorCode? = some (.int code) ↔
      Writable response.toPayload ∧ response.error.map (·.code) = some code := by
  by_cases h : Writable response.toPayload
  · rw [errorCode?_ofPayload h]
    simp [h]
  · rw [errorCode?_of_not_writable h]
    simp [h]

end Http

namespace Gateway

open Rpc Http
open Json (HasForm Writable)

section

variable [Nesting]

/-- The number of the error that a body that is JSON is answered with. -/
def answerCode (gateway : Gateway) (v : Value) : Option Int :=
  (gateway.answer v).error.map (·.code)

variable {v : Value} {request : Rpc.Request} (gateway : Gateway)

theorem answerCode_of_invalid (h : ∀ request, Request.decode v ≠ .valid request) :
    gateway.answerCode v = some (-32600) := by
  unfold answerCode answer
  split
  · rename_i response hreceived
    by_cases hlist : ∃ items, v = .list items
    · -- a batch, refused without a look at what is in it
      obtain ⟨items, rfl⟩ := hlist
      cases hreceived
      rfl
    · -- refused with the issues that were found
      rw [Received.ofValue_of_not_list fun items heq => hlist ⟨items, heq⟩] at hreceived
      split at hreceived
      · cases hreceived
      · cases hreceived
        rfl
  · rename_i asked hreceived
    exact absurd (Received.ofValue_eq_request_iff.mp hreceived) (h asked)

theorem answerCode_of_error {failure : Failure} (h : Request.decode v = .valid request)
    (hfailure : gateway.outcomeOf request = .error failure) :
    gateway.answerCode v = some (answerable failure).reason.number := by
  unfold answerCode
  rw [answer_of_valid h, hfailure]
  rfl

/-- The reasons of the envelope are not those of what is served. -/
theorem answerCode_of_known (h : Request.decode v = .valid request) {method : Method}
    (hmethod : method.name = request.method) :
    gateway.answerCode v ≠ some (-32700) ∧ gateway.answerCode v ≠ some (-32600)
      ∧ gateway.answerCode v ≠ some (-32601) := by
  cases houtcome : gateway.outcomeOf request with
  | ok outcome =>
    -- an answer with a result has no error
    have hnone : gateway.answerCode v = none := by
      unfold answerCode
      rw [answer_of_valid h, houtcome]
      rfl
    rw [hnone]
    exact ⟨nofun, nofun, nofun⟩
  | error failure =>
    -- what is served fails for its own reasons, or is told as an internal error
    have hfor := onlyFor_outcomeOf hmethod gateway failure houtcome
    have hreason : (answerable failure).reason
        ∈ .internal :: (Method.reasons ++ Operation.reasons) := by
      cases failure with
      | refused refusal => exact List.mem_cons_of_mem _ (hfor _ rfl)
      | _ => exact List.mem_cons_self
    have hnumber : ∀ reason ∈ Reason.internal :: (Method.reasons ++ Operation.reasons),
        reason.number ≠ -32700 ∧ reason.number ≠ -32600 ∧ reason.number ≠ -32601 := by
      decide
    rw [answerCode_of_error gateway h houtcome]
    simpa using hnumber _ hreason

/-- The answer to a body that is JSON has the id that the body gives. -/
theorem ofOption_id_answer (v : Value) :
    .ofOption RequestId.toValue (gateway.answer v).id = idMember v := by
  by_cases hlist : ∃ items, v = .list items
  · -- a batch has no id
    obtain ⟨items, rfl⟩ := hlist
    rfl
  rw [answer_eq (fun items heq => hlist ⟨items, heq⟩) gateway]
  cases hdecode : Request.decode v with
  | invalid issues => exact ofOption_bodyId? v
  | valid asked =>
    -- the request keeps the id of the body, and the answer that of the request
    have hid : (asked.respond (gateway.outcomeOf asked)).id = asked.id := by
      cases gateway.outcomeOf asked <;> rfl
    obtain ⟨entries, rfl, hread⟩ := Request.decode_eq_valid_iff.mp hdecode
    dsimp only
    rw [hid, hread.ofOption_id]

/-- What asks for no operation is answered by every gateway in the same way, and changes none. -/
theorem answer_of_no_operation
    (h : ∀ request operation, Request.decode v = .valid request →
      request.operation ≠ .ok operation) :
    ∃ response, ∀ gateway : Gateway,
      gateway.answer v = response ∧ gateway.answered v = gateway := by
  unfold answer answered
  cases hreceived : Received.ofValue v with
  | refused response => exact ⟨response, fun gateway => ⟨rfl, rfl⟩⟩
  | request asked =>
    have hdecode := Received.ofValue_eq_request_iff.mp hreceived
    cases hoperation : asked.operation with
    | ok operation => exact absurd hoperation (h asked operation hdecode)
    | error failure =>
      -- the parameters are refused before any gateway is looked at
      refine ⟨asked.respond (.error failure), fun gateway => ?_⟩
      obtain ⟨houtcome, hstate⟩ := handle_of_error hoperation gateway
      exact ⟨congrArg asked.respond houtcome, hstate⟩

/-- A body that is JSON is no request, a request for a method that there is none of, or one for a
method that there is; and the number of the error tells which. -/
theorem answerCode_cases (v : Value) :
    ((∀ request, Request.decode v ≠ .valid request) ∧ gateway.answerCode v = some (-32600))
      ∨ (∃ request, Request.decode v = .valid request
          ∧ (∀ method : Method, method.name ≠ request.method)
          ∧ gateway.answerCode v = some (-32601))
      ∨ ∃ request method, Request.decode v = .valid request ∧ Method.name method = request.method
          ∧ gateway.answerCode v ≠ some (-32700) ∧ gateway.answerCode v ≠ some (-32600)
          ∧ gateway.answerCode v ≠ some (-32601) := by
  by_cases hrequest : ∃ request, Request.decode v = .valid request
  · obtain ⟨request, hdecode⟩ := hrequest
    right
    -- the method of a request has the name of one that there is, or none has its name
    by_cases hmethod : ∃ method : Method, method.name = request.method
    · obtain ⟨method, hname⟩ := hmethod
      exact Or.inr ⟨request, method, hdecode, hname, gateway.answerCode_of_known hdecode hname⟩
    · have hunknown : ∀ method : Method, method.name ≠ request.method := not_exists.mp hmethod
      obtain ⟨message, hoperation⟩ := Request.operation_of_unknown hunknown
      have houtcome := (handle_of_error hoperation gateway).1
      exact Or.inl ⟨request, hdecode, hunknown, gateway.answerCode_of_error hdecode houtcome⟩
  · have hnone := not_exists.mp hrequest
    exact Or.inl ⟨hnone, gateway.answerCode_of_invalid hnone⟩

/-- No body that is JSON is told to be none. -/
theorem answerCode_ne_unreadable (v : Value) : gateway.answerCode v ≠ some (-32700) := by
  rcases gateway.answerCode_cases v with ⟨_, hcode⟩ | ⟨_, _, _, hcode⟩ | ⟨_, _, _, _, hcode, _⟩
  · rw [hcode]
    decide
  · rw [hcode]
    decide
  · exact hcode

theorem answerCode_eq_invalidRequest_iff {v : Value} :
    gateway.answerCode v = some (-32600) ↔ ¬ ∃ request, Request.decode v = .valid request := by
  rcases gateway.answerCode_cases v with
    ⟨hnone, hcode⟩ | ⟨request, hdecode, _, hcode⟩ | ⟨request, _, hdecode, _, _, hcode, _⟩
  · exact iff_of_true hcode (not_exists.mpr hnone)
  · refine iff_of_false ?_ (not_not.mpr ⟨request, hdecode⟩)
    rw [hcode]
    decide
  · exact iff_of_false hcode (not_not.mpr ⟨request, hdecode⟩)

theorem answerCode_eq_methodNotFound_iff {v : Value} :
    gateway.answerCode v = some (-32601) ↔
      ∃ request, Request.decode v = .valid request
        ∧ ∀ method : Method, method.name ≠ request.method := by
  rcases gateway.answerCode_cases v with
    ⟨hnone, hcode⟩ | ⟨request, hdecode, hunknown, hcode⟩ |
    ⟨request, method, hdecode, hknown, _, _, hcode⟩
  · refine iff_of_false ?_ fun ⟨request, hdecode, _⟩ => hnone request hdecode
    rw [hcode]
    decide
  · exact iff_of_true hcode ⟨request, hdecode, hunknown⟩
  · -- a body is no other request, so its method cannot be unknown as well
    refine iff_of_false hcode ?_
    rintro ⟨other, hother, hunknown⟩
    rw [hdecode] at hother
    cases hother
    exact hunknown method hknown

/-- The number of the error that is served for a body. -/
theorem errorCode?_serve {path : String} (hpath : route? path = some .rpc) (body : List UInt8)
    (code : Int) :
    (gateway.serve { method := "POST", path, body }).1.errorCode? = some (.int code) ↔
      (Json.read body = .error .malformed ∧ code = -32700)
        ∨ ∃ v, Json.read body = .ok v ∧ Writable (gateway.answer v).toPayload
          ∧ gateway.answerCode v = some code := by
  rw [serve_post gateway hpath]
  cases hread : Json.read body with
  | error e =>
    cases e with
    | malformed =>
      -- nothing is quoted, so the refusal can be written
      have hform : Writable (Response.refusing (.plain .unreadable []) none).toPayload :=
        writable_refusing_nil .unreadable "Parse error"
      dsimp only
      rw [errorCode?_ofPayload hform]
      simp [Response.refusing, ErrorObject.ofRefusal, Refusal.plain, Refusal.ofReason,
        Reason.number, eq_comm]
    | tooDeep container =>
      -- the server is in trouble, which has no number
      refine iff_of_false (fun h => ?_) (by simp)
      cases h
  | ok v =>
    dsimp only
    rw [errorCode?_ofPayload_eq_some_iff, ← answerCode]
    simp

/-- A body that asks for no operation is served by every gateway in the same way, and changes none.
-/
theorem serve_of_no_operation {path : String} (hpath : route? path = some .rpc) {body : List UInt8}
    (h : ¬ ∃ request operation, Asks body request ∧ request.operation = .ok operation) :
    ∃ answer, ∀ gateway : Gateway,
      gateway.serve { method := "POST", path, body } = (answer, gateway) := by
  cases hread : Json.read body with
  | error e =>
    cases e with
    | malformed =>
      refine ⟨.ofPayload (Response.refusing (.plain .unreadable []) none).toPayload, ?_⟩
      intro gateway
      rw [serve_eq gateway hpath, hread]
    | tooDeep container =>
      refine ⟨.serverError, ?_⟩
      intro gateway
      rw [serve_eq gateway hpath, hread]
  | ok v =>
    -- only here could the gateway be looked at
    simp only [asks_iff hread] at h
    obtain ⟨response, hresponse⟩ := answer_of_no_operation fun request operation hdecode hop =>
      h ⟨request, operation, hdecode, hop⟩
    refine ⟨.ofPayload response.toPayload, fun gateway => ?_⟩
    obtain ⟨hanswer, hsame⟩ := hresponse gateway
    rw [serve_eq gateway hpath, hread]
    dsimp only
    rw [hanswer, hsame]

/-- What is served for a body that is a request. -/
theorem serve_of_asks (gateway : Gateway) {path : String} (hpath : route? path = some .rpc)
    {body : List UInt8} {request : Rpc.Request} (h : Asks body request) :
    gateway.serve { method := "POST", path, body } =
      (.ofPayload (request.respond (gateway.outcomeOf request)).toPayload,
        (gateway.handle request).2) := by
  obtain ⟨entries, hread, hentries⟩ := h
  have hdecode := Request.decode_eq_valid_iff.mpr ⟨entries, rfl, hentries⟩
  rw [serve_eq gateway hpath, hread]
  dsimp only
  rw [answer_of_valid hdecode, answered, Received.ofValue_eq_request_iff.mpr hdecode]

/-- Exactly what is no JSON is told so. -/
theorem errorCode?_serve_eq_unreadable_iff (gateway : Gateway) {path : String}
    (hpath : route? path = some .rpc) (body : List UInt8) :
    (gateway.serve { method := "POST", path, body }).1.errorCode? = some (.int (-32700)) ↔
      Json.read body = .error .malformed := by
  refine (gateway.errorCode?_serve hpath body _).trans ⟨?_, fun hread => Or.inl ⟨hread, rfl⟩⟩
  rintro (⟨hread, _⟩ | ⟨v, _, _, hcode⟩)
  · exact hread
  · exact absurd hcode (gateway.answerCode_ne_unreadable v)

section Reachable

variable (policy : Policy) (clock : Rat) (events : List Event)

/-- A body that is JSON can be answered if the answer can be written. -/
theorem canAnswer_iff_of_ok {body : List UInt8} {v : Value} (hread : Json.read body = .ok v) :
    let gateway := (Gateway.fresh policy clock).after events
    gateway.CanAnswer body ↔ Writable (gateway.answer v).toPayload := by
  intro gateway
  rw [CanAnswer, hread]
  exact (writable_answer_iff policy clock events (Json.readable_of_read hread)).symm

/-- A refusal of a request can be written if the values in its details can be quoted. -/
theorem writable_answer_of_error {v : Value} (hv : v.Readable) {request : Rpc.Request}
    {failure : Failure} (h : Request.decode v = .valid request) :
    let gateway := (Gateway.fresh policy clock).after events
    gateway.outcomeOf request = .error failure →
      (Writable (gateway.answer v).toPayload ↔
        ∀ entry ∈ (answerable failure).details, Quotable entry.2) := by
  intro gateway houtcome
  have hbatch : ∀ items, v ≠ .list items := by
    rintro items rfl
    cases h
  -- of a refused request the answer quotes the details
  refine (writable_answer_iff policy clock events hv).trans ?_
  rw [quoted_eq hbatch, h]
  dsimp only
  rw [houtcome, List.forall_mem_map]

section Asks

variable {body : List UInt8} {request : Rpc.Request} (h : Asks body request)
include h

/-- A request can be answered if what it comes to can be told. -/
theorem canAnswer_iff_of_asks :
    let gateway := (Gateway.fresh policy clock).after events
    gateway.CanAnswer body ↔ Writable (request.respond (gateway.outcomeOf request)).toPayload := by
  intro gateway
  obtain ⟨entries, hread, hentries⟩ := h
  refine (canAnswer_iff_of_ok policy clock events hread).trans ?_
  rw [answer_of_valid (Request.decode_eq_valid_iff.mpr ⟨entries, rfl, hentries⟩)]

/-- A request that fails can be answered if the values in the details can be quoted. -/
theorem canAnswer_iff_of_error {failure : Failure} :
    let gateway := (Gateway.fresh policy clock).after events
    gateway.outcomeOf request = .error failure →
      (gateway.CanAnswer body ↔ ∀ entry ∈ (answerable failure).details, Quotable entry.2) := by
  intro gateway houtcome
  obtain ⟨entries, hread, hentries⟩ := h
  have hdecode := Request.decode_eq_valid_iff.mpr ⟨entries, rfl, hentries⟩
  exact (canAnswer_iff_of_ok policy clock events hread).trans
    (writable_answer_of_error policy clock events (Json.readable_of_read hread) hdecode houtcome)

variable {path : String} (hpath : route? path = some .rpc)
include hpath

/-- A request that fails is answered with the number of its failure. -/
theorem errorCode?_serve_of_error {failure : Failure} {code : Int} :
    let gateway := (Gateway.fresh policy clock).after events
    gateway.outcomeOf request = .error failure →
      ((gateway.serve { method := "POST", path, body }).1.errorCode? = some (.int code) ↔
        gateway.CanAnswer body ∧ code = (answerable failure).reason.number) := by
  intro gateway houtcome
  have hnumber : (request.respond (gateway.outcomeOf request)).error.map (·.code)
      = some (answerable failure).reason.number := by
    rw [houtcome]
    rfl
  have hcan := canAnswer_iff_of_asks policy clock events h
  rw [serve_of_asks gateway hpath h, errorCode?_ofPayload_eq_some_iff, hnumber,
    Option.some.injEq, eq_comm]
  exact and_congr_left' hcan.symm

/-- One that succeeds is not. -/
theorem errorCode?_serve_of_success {outcome : Outcome} (code : Int) :
    let gateway := (Gateway.fresh policy clock).after events
    gateway.outcomeOf request = .ok outcome →
      (gateway.serve { method := "POST", path, body }).1.errorCode? ≠ some (.int code) := by
  intro gateway houtcome
  rw [serve_of_asks gateway hpath h, ne_eq, errorCode?_ofPayload_eq_some_iff, houtcome]
  rintro ⟨_, hcode⟩
  cases hcode

end Asks

/-- A request for a method that there is none of can be answered. -/
theorem writable_answer_of_unknown {v : Value} (hv : v.Readable) {request : Rpc.Request}
    (h : Request.decode v = .valid request)
    (hmethod : ∀ method : Method, method.name ≠ request.method) :
    Writable (((Gateway.fresh policy clock).after events).answer v).toPayload := by
  obtain ⟨message, hoperation⟩ := Request.operation_of_unknown hmethod
  refine (writable_answer_of_error policy clock events hv h
    (handle_of_error hoperation _).1).mpr ?_
  -- the name of the method is all that is quoted
  have hname : Quotable (.str request.method) := Json.hasForm_str request.method
  simpa [answerable, Failure.worded, Refusal.ofReason] using hname

/-- Exactly what is JSON and no request is told so, if it can be answered. -/
theorem errorCode?_serve_eq_invalidRequest_iff {path : String} (hpath : route? path = some .rpc)
    (body : List UInt8) :
    let gateway := (Gateway.fresh policy clock).after events
    (gateway.serve { method := "POST", path, body }).1.errorCode? = some (.int (-32600)) ↔
      gateway.CanAnswer body ∧ (∃ v, Json.read body = .ok v)
        ∧ ¬ ∃ request, Asks body request := by
  intro gateway
  refine (gateway.errorCode?_serve hpath body _).trans ?_
  constructor
  · rintro (⟨_, hcode⟩ | ⟨v, hread, hform, hcode⟩)
    · -- what is no JSON has another number
      cases hcode
    · refine ⟨(canAnswer_iff_of_ok policy clock events hread).mpr hform, ⟨v, hread⟩, ?_⟩
      simp only [asks_iff hread]
      exact gateway.answerCode_eq_invalidRequest_iff.mp hcode
  · rintro ⟨hcan, ⟨v, hread⟩, hnone⟩
    simp only [asks_iff hread] at hnone
    have hform := (canAnswer_iff_of_ok policy clock events hread).mp hcan
    exact Or.inr ⟨v, hread, hform, gateway.answerCode_eq_invalidRequest_iff.mpr hnone⟩

/-- Exactly a request for a method that there is none of is told so. -/
theorem errorCode?_serve_eq_methodNotFound_iff {path : String} (hpath : route? path = some .rpc)
    (body : List UInt8) :
    let gateway := (Gateway.fresh policy clock).after events
    (gateway.serve { method := "POST", path, body }).1.errorCode? = some (.int (-32601)) ↔
      ∃ request, Asks body request ∧ ∀ method : Method, method.name ≠ request.method := by
  intro gateway
  refine (gateway.errorCode?_serve hpath body _).trans ?_
  constructor
  · rintro (⟨_, hcode⟩ | ⟨v, hread, _, hcode⟩)
    · cases hcode
    · simp only [asks_iff hread]
      exact gateway.answerCode_eq_methodNotFound_iff.mp hcode
  · rintro ⟨request, ⟨entries, hread, hentries⟩, hunknown⟩
    have hdecode := (asks_iff hread).mp ⟨entries, hread, hentries⟩
    -- whether it can be written need not be asked for this number
    have hform := writable_answer_of_unknown policy clock events (Json.readable_of_read hread)
      hdecode hunknown
    have hcode := gateway.answerCode_eq_methodNotFound_iff.mpr ⟨request, hdecode, hunknown⟩
    exact Or.inr ⟨_, hread, hform, hcode⟩

/-- What is served for a request whose parameters are in the wrong number. -/
theorem errorCode?_serve_of_wrongCount {path : String} (hpath : route? path = some .rpc)
    {body : List UInt8} {request : Rpc.Request} (h : Asks body request) {method : Method}
    (hmethod : method.name = request.method)
    (hcount : request.params.length ≠ method.params.length) :
    let gateway := (Gateway.fresh policy clock).after events
    (gateway.serve { method := "POST", path, body }).1.errorCode? = some (.int (-32602)) := by
  intro gateway
  have hoperation : request.operation = .error (method.wrongCount request.params) := by
    unfold Request.operation
    rw [Method.ofName?_eq_some_iff.mpr hmethod]
    exact method.operation_of_wrongCount hcount
  have houtcome := (handle_of_error hoperation gateway).1
  refine (errorCode?_serve_of_error policy clock events h hpath houtcome).mpr ⟨?_, rfl⟩
  refine (canAnswer_iff_of_error policy clock events h houtcome).mpr ?_
  -- the names of the parameters are all that is quoted
  have hnames : Quotable (.list (method.params.map .str)) :=
    .of_hasForm_one (Json.hasForm_list.mpr (by simp [Json.hasForm_str]))
  simpa [answerable, Method.wrongCount, Failure.worded, Refusal.ofReason] using hnames

/-- What is served for a body that can be answered has the id that the body gives. -/
theorem id_serve {path : String} (hpath : route? path = some .rpc) (body : List UInt8) :
    let gateway := (Gateway.fresh policy clock).after events
    gateway.CanAnswer body →
      ∃ payload, (gateway.serve { method := "POST", path, body }).1.content = .json payload
        ∧ payload.field? "id" = some (idOf body) := by
  intro gateway hcan
  rw [serve_post gateway hpath]
  unfold idOf
  cases hread : Json.read body with
  | error e =>
    cases e with
    | malformed =>
      exact ⟨_, content_ofPayload (writable_refusing_nil .unreadable "Parse error"), rfl⟩
    | tooDeep container =>
      -- such a body cannot be answered
      rw [CanAnswer, hread] at hcan
      exact hcan.elim
  | ok v =>
    have hform := (canAnswer_iff_of_ok policy clock events hread).mp hcan
    refine ⟨_, content_ofPayload hform, ?_⟩
    dsimp only
    rw [← gateway.ofOption_id_answer v]
    rfl

/-- A body that cannot be answered is trouble for the server. -/
theorem serve_of_not_canAnswer {path : String} (hpath : route? path = some .rpc)
    (body : List UInt8) :
    let gateway := (Gateway.fresh policy clock).after events
    ¬ gateway.CanAnswer body →
      (gateway.serve { method := "POST", path, body }).1 = .serverError := by
  intro gateway hcan
  rw [serve_post gateway hpath]
  cases hread : Json.read body with
  | error e =>
    cases e with
    | malformed =>
      rw [CanAnswer, hread] at hcan
      exact absurd trivial hcan
    | tooDeep container => rfl
  | ok v =>
    have hform := (canAnswer_iff_of_ok policy clock events hread).not.mp hcan
    exact ofPayload_of_not_writable hform

/-- Whatever has happened to a gateway, the error that a body is answered with tells how far the
body has got: it is no JSON, no request, a request for a method that there is none of, or one whose
parameters are not those of its method. What asks for no operation is answered without the gateway.
The answer has the id that the body gives. If the body cannot be answered, the server is in trouble
instead; that does not happen to a body that an answer can quote, unless the rate of the policy
cannot be written. -/
theorem errors_by_stage (body : List UInt8) {path : String} (hpath : path = "/" ∨ path = "/rpc") :
    let gateway := (Gateway.fresh policy clock).after events
    let response := (gateway.serve { method := "POST", path, body }).1
    (response.errorCode? = some (.int (-32700)) ↔ Json.read body = .error .malformed)
      ∧ (response.errorCode? = some (.int (-32600)) ↔
          gateway.CanAnswer body ∧ (∃ v, Json.read body = .ok v) ∧ ¬ ∃ request, Asks body request)
      ∧ (response.errorCode? = some (.int (-32601)) ↔
          ∃ request, Asks body request ∧ ∀ method : Method, method.name ≠ request.method)
      ∧ (∀ request method, Asks body request → Method.name method = request.method →
          request.params.length ≠ method.params.length →
          response.errorCode? = some (.int (-32602)))
      ∧ ((∃ request operation, Asks body request ∧ request.operation = .ok operation) ∨
          ∃ answer, ∀ other : Gateway,
            other.serve { method := "POST", path, body } = (answer, other))
      ∧ (gateway.CanAnswer body → ∃ payload, response.content = .json payload
          ∧ payload.field? "id" = some (idOf body))
      ∧ (¬ gateway.CanAnswer body → response = .serverError)
      ∧ ((∀ n, gateway.policy.feeBps = .int n → Numeral.fits n = true) →
          ∀ v, Json.read body = .ok v → Quotable v → gateway.CanAnswer body) := by
  intro gateway response
  have hroute : route? path = some .rpc := if_pos hpath
  refine ⟨?_, ?_, ?_, ?_, ?_, ?_, ?_, ?_⟩
  · exact gateway.errorCode?_serve_eq_unreadable_iff hroute body
  · exact errorCode?_serve_eq_invalidRequest_iff policy clock events hroute body
  · exact errorCode?_serve_eq_methodNotFound_iff policy clock events hroute body
  · intro request method hasks hmethod hcount
    exact errorCode?_serve_of_wrongCount policy clock events hroute hasks hmethod hcount
  · -- the gateway is looked at for the sake of an operation only
    by_cases hasks : ∃ request operation, Asks body request ∧ request.operation = .ok operation
    · exact Or.inl hasks
    · exact Or.inr (serve_of_no_operation hroute hasks)
  · exact id_serve policy clock events hroute body
  · exact serve_of_not_canAnswer policy clock events hroute body
  · -- an answer quotes parts of the body, and the rate of the policy at most
    intro hrate v hread hform
    have hv := Json.readable_of_read hread
    refine (canAnswer_iff_of_ok policy clock events hread).mpr ?_
    exact (writable_answer_iff policy clock events hv).mpr
      (quotable_quoted policy clock events hv hform hrate)

end Reachable

end

/-- A request for a method that there is none of is told so, with its id. -/
theorem errors_by_stage_unknown :
    let body := Text.utf8Bytes
      "\x7b\"jsonrpc\":\"2.0\",\"method\":\"gorr_mint\",\"id\":7\x7d".toList
    let response :=
      ((Gateway.fresh .standard 0).serve { method := "POST", path := "/rpc", body }).1
    response.errorCode? = some (.int (-32601))
      ∧ ∃ payload, response.content = .json payload ∧ payload.field? "id" = some (.int 7) := by
  have hread : Json.read (Text.utf8Bytes
      "\x7b\"jsonrpc\":\"2.0\",\"method\":\"gorr_mint\",\"id\":7\x7d".toList)
      = .ok (.map [("jsonrpc", .str "2.0"), ("method", .str "gorr_mint"), ("id", .int 7)]) := rfl
  generalize Text.utf8Bytes
    "\x7b\"jsonrpc\":\"2.0\",\"method\":\"gorr_mint\",\"id\":7\x7d".toList = given at hread ⊢
  intro body response
  obtain ⟨_, _, hunknown, _, _, hid, _, hcan⟩ := errors_by_stage .standard 0 [] body (Or.inr rfl)
  have hseven : HasForm 0 (.int 7) := Json.hasForm_int.mpr (by decide)
  have hform : HasForm 1 (.map [("jsonrpc", .str "2.0"), ("method", .str "gorr_mint"),
      ("id", .int 7)]) :=
    Json.hasForm_map.mpr (by simp [Json.EntryHasForm, Json.hasForm_str, hseven])
  have hrate (n : Int) (hn : Policy.standard.feeBps = .int n) : Numeral.fits n = true := by
    cases hn
    decide
  have hanswerable := hcan hrate _ hread (.of_hasForm_one hform)
  have hasks : Asks body ⟨"gorr_mint", [], some (.number 7)⟩ :=
    ⟨_, hread, rfl, rfl, rfl, rfl, by rintro _ ⟨⟩ raw ⟨⟩⟩
  have hnone : ∀ method : Method, method.name ≠ "gorr_mint" := by
    intro method
    cases method <;> decide
  have hidOf : idOf body = .int 7 := by
    rw [idOf, hread]
    rfl
  exact ⟨hunknown.mpr ⟨_, hasks, hnone⟩, hidOf ▸ hid hanswerable⟩

/-- A string that is no text is JSON and no request. Its refusal quotes it, and cannot be written.
-/
theorem not_told_invalid_surrogate :
    let body := Text.utf8Bytes "\"\\ud800\"".toList
    let response :=
      ((Gateway.fresh .standard 0).serve { method := "POST", path := "/rpc", body }).1
    (∃ v, Json.read body = .ok v) ∧ (¬ ∃ request, Asks body request)
      ∧ response.errorCode? ≠ some (.int (-32600)) := by
  have hraw : (Json.read (Text.utf8Bytes "\"\\ud800\"".toList)).toOption.bind Value.raw?
      = some (.illFormed [.surrogate 0]) := by
    decide +kernel
  generalize Text.utf8Bytes "\"\\ud800\"".toList = given at hraw ⊢
  intro body response
  have hread : Json.read body = .ok (.illFormed [.surrogate 0]) := by
    cases hread : Json.read given with
    | error e =>
      rw [hread] at hraw
      cases hraw
    | ok v =>
      rw [hread] at hraw
      exact congrArg Except.ok (Value.eq_ofRaw_of_raw? hraw)
  have hserve : response = .serverError := by
    show ((Gateway.fresh .standard 0).serve { method := "POST", path := "/rpc", body }).1 = _
    rw [serve_post _ rfl, hread]
    rfl
  refine ⟨⟨_, hread⟩, ?_, ?_⟩
  · rintro ⟨request, entries, hentries, _⟩
    rw [hread] at hentries
    cases hentries
  · rw [hserve]
    intro h
    cases h

end Gateway

end IntentGateway
