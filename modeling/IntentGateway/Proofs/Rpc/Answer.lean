import IntentGateway.Proofs.Rpc.Request

/-! # Answers in band

Whatever is posted, the gateway means to answer in band: with success on the side of HTTP, and a
JSON object with a result or an error. An answer takes over parts of what was posted: the id, the
inputs of issues, the details of a refusal. So the answer is in band exactly if the body is not
nested too deep to be read, and those parts can be written where they stand in the answer. Otherwise
the server is in trouble.
-/

namespace IntentGateway

open Json (HasForm Writable)
open Schema

/-! ## Responses -/

namespace Http

variable [Nesting]

/-- A response in band: a JSON object with the version, an id, and either an error or a result. -/
structure Response.InBand (response : Response) : Prop where
  status : response.status = 200
  content : ∃ payload, response.content = .json payload ∧ Writable payload
    ∧ payload.field? "jsonrpc" = some (.str Rpc.version)
    ∧ (payload.field? "id").isSome = true
    ∧ (payload.field? "error").isSome = !(payload.field? "result").isSome

/-- Trouble of the server is not in band. -/
theorem not_inBand_serverError : ¬ Response.serverError.InBand := by
  intro h
  cases h.status

theorem ofPayload_of_not_writable {payload : Value} (h : ¬ Writable payload) :
    Response.ofPayload payload = .serverError := by
  rw [Response.ofPayload]
  cases hw : Json.write payload with
  | error e => rfl
  | ok text => exact absurd ⟨text, hw⟩ h

/-- A response is in band if its payload can be written. -/
theorem inBand_ofPayload_iff {response : Rpc.Response} :
    (Response.ofPayload response.toPayload).InBand ↔ Writable response.toPayload := by
  constructor
  · intro h
    by_contra hform
    rw [ofPayload_of_not_writable hform] at h
    exact not_inBand_serverError h
  · rintro ⟨text, hw⟩
    rw [Response.ofPayload, hw]
    refine ⟨rfl, _, rfl, ⟨text, hw⟩, rfl, rfl, ?_⟩
    rw [Rpc.Response.toPayload]
    cases response.error <;> rfl

end Http

namespace Rpc

variable {room : ℕ}

theorem hasForm_number (reason : Reason) : HasForm room (.int reason.number) := by
  rw [Json.hasForm_int]
  cases reason <;> decide

/-- A response with a result can be written if its id and its result can. -/
theorem hasForm_toPayload_of_result {result : Value} {id : Option RequestId} :
    HasForm (room + 1) (Response.toPayload ⟨result, none, id⟩) ↔
      HasForm room (.ofOption RequestId.toValue id) ∧ HasForm room result := by
  rw [Response.toPayload, Json.hasForm_map]
  simp [Json.EntryHasForm, Json.hasForm_str]

/-- A refusal can be written if the id can, and what is in its details four levels inside. -/
theorem hasForm_refusing {P : Value → Prop} {refusal : Refusal} (h : refusal.Quotes P)
    (id : Option RequestId) :
    HasForm (room + 4) (Response.refusing refusal id).toPayload ↔
      HasForm room (.ofOption RequestId.toValue id)
        ∧ ∀ entry ∈ refusal.details, HasForm room entry.2 := by
  obtain ⟨message, hmessage⟩ := h.message
  obtain ⟨code, hcode⟩ := h.code
  have hnamed {depth : ℕ} :
      HasForm depth (.ofRaw refusal.code) ∧ HasForm depth (.ofRaw refusal.message) := by
    rw [hcode, hmessage]
    exact ⟨Json.hasForm_str code, Json.hasForm_str message⟩
  have hdetails : HasForm (room + 1) (.map refusal.details)
      ↔ ∀ entry ∈ refusal.details, HasForm room entry.2 :=
    Json.hasForm_map.trans (forall₂_congr fun entry hmem =>
      and_iff_right (h.details entry hmem).1)
  have hdata : HasForm (room + 2) (.map refusal.data)
      ↔ ∀ entry ∈ refusal.details, HasForm room entry.2 := by
    rw [Json.hasForm_map, ← hdetails, Refusal.data]
    cases hempty : refusal.details with
    | nil => simp [Json.EntryHasForm, Json.hasForm_str, Json.hasForm_map, hnamed]
    | cons entry details => simp [Json.EntryHasForm, Json.hasForm_str, hnamed]
  rw [Response.toPayload, Response.refusing, Json.hasForm_map]
  simp [Json.EntryHasForm, Json.hasForm_str, ErrorObject.toPayload, ErrorObject.ofRefusal,
    Json.hasForm_map, hasForm_number, hnamed, hdata, hasForm_id_iff (room + 3) room]

/-- A refusal without details can be written. -/
theorem writable_refusing_nil [Nesting] (reason : Reason) (message : String) :
    Writable (Response.refusing (.ofReason reason message []) none).toPayload := by
  have hquotes : (Refusal.ofReason reason message []).Quotes fun _ => True :=
    ⟨⟨_, rfl⟩, ⟨_, rfl⟩, fun _ hmem => nomatch hmem⟩
  obtain ⟨spare, hspare⟩ := Nesting.exists_written
  rw [Json.writable_iff, hspare]
  exact (hasForm_refusing hquotes none).mpr ⟨Json.hasForm_null, fun _ hmem => nomatch hmem⟩

theorem quotes_answerable {P : Value → Prop} {failure : Failure} (h : failure.Quotes P) :
    (answerable failure).Quotes P := by
  cases failure with
  | refused refusal => exact h
  | _ => exact ⟨⟨_, rfl⟩, ⟨_, rfl⟩, by simp [answerable, Refusal.ofReason]⟩

end Rpc

/-- Whether an answer can quote a value. What it quotes of a body stands inside six lists and maps:
the response, its error, the data and the details of that, the issues, and one of them. -/
def Rpc.Quotable [Nesting] (v : Value) : Prop :=
  HasForm (Nesting.written - 6) v

/-- There is room for a list of scalars. -/
theorem Rpc.Quotable.of_hasForm_one [Nesting] {v : Value} (h : HasForm 1 v) : Quotable v := by
  obtain ⟨spare, hspare⟩ := Nesting.exists_written
  exact h.mono (by omega)

namespace Gateway

open Rpc Http

section Answers

variable [Nesting]

/-! ## What is answered -/

/-- What a request comes to. -/
def outcomeOf (gateway : Gateway) (request : Rpc.Request) : Except Failure Outcome :=
  match request.operation with
  | .error failure => .error failure
  | .ok operation => (perform operation gateway).1

theorem handle_fst (gateway : Gateway) (request : Rpc.Request) :
    (gateway.handle request).1 = request.respond (gateway.outcomeOf request) := by
  rw [handle, outcomeOf]
  cases request.operation <;> rfl

/-- A request for an operation comes to what the operation does. -/
theorem handle_of_ok {request : Rpc.Request} {operation : Operation}
    (h : request.operation = .ok operation) (gateway : Gateway) :
    gateway.outcomeOf request = (perform operation gateway).1
      ∧ (gateway.handle request).2 = (perform operation gateway).2 := by
  unfold outcomeOf handle
  rw [h]
  exact ⟨rfl, rfl⟩

/-- A request for no operation fails, and changes nothing. -/
theorem handle_of_error {request : Rpc.Request} {failure : Failure}
    (h : request.operation = .error failure) (gateway : Gateway) :
    gateway.outcomeOf request = .error failure ∧ (gateway.handle request).2 = gateway := by
  unfold outcomeOf handle
  rw [h]
  exact ⟨rfl, rfl⟩

/-- The answer to a body that is JSON. -/
def answer (gateway : Gateway) (v : Value) : Rpc.Response :=
  match Received.ofValue v with
  | .refused response => response
  | .request request => request.respond (gateway.outcomeOf request)

/-- The gateway after a body that is JSON. -/
def answered (gateway : Gateway) (v : Value) : Gateway :=
  match Received.ofValue v with
  | .refused _ => gateway
  | .request request => (gateway.handle request).2

/-- What serving a body on the paths of the protocol comes to. -/
theorem serve_eq (gateway : Gateway) {path : String} (hpath : route? path = some .rpc)
    (body : List UInt8) :
    gateway.serve { method := "POST", path, body } =
      match Json.read body with
      | .ok v => (.ofPayload (gateway.answer v).toPayload, gateway.answered v)
      | .error .malformed =>
        (.ofPayload (Response.refusing (.plain .unreadable []) none).toPayload, gateway)
      | .error (.tooDeep _) => (.serverError, gateway) := by
  have hhead : ¬ "POST" = "HEAD" := by decide
  simp only [serve, serveFully, hpath, Route.method, ne_eq, not_true_eq_false, if_false,
    if_neg hhead, handleBody, receive]
  rcases Json.read body with (_ | container) | v
  · rfl
  · rfl
  · dsimp only
    rw [answer, answered]
    cases Received.ofValue v with
    | refused response => rfl
    | request request =>
      dsimp only
      rw [← handle_fst]

/-- What is served for a body on the paths of the protocol. -/
theorem serve_post (gateway : Gateway) {path : String} (hpath : route? path = some .rpc)
    (body : List UInt8) :
    (gateway.serve { method := "POST", path, body }).1 =
      match Json.read body with
      | .ok v => .ofPayload (gateway.answer v).toPayload
      | .error .malformed => .ofPayload (Response.refusing (.plain .unreadable []) none).toPayload
      | .error (.tooDeep _) => .serverError := by
  rw [serve_eq gateway hpath]
  rcases Json.read body with (_ | container) | v <;> rfl

/-- What an answer takes over from the value of a body: the id and the inputs of the issues if it is
no request, and if it is one, the values in the details of a refusal. -/
def quoted (gateway : Gateway) : Value → List Value
  | .list _ => []
  | v =>
    match Request.decode v with
    | .invalid issues => .ofOption RequestId.toValue (bodyId? v) :: issues.map (·.input)
    | .valid request =>
      match gateway.outcomeOf request with
      | .ok _ => []
      | .error failure => (answerable failure).details.map (·.2)

/-- Whether a body can be answered: it is not nested too deep to be read, and the answer can quote
what it takes over from it. -/
def CanAnswer (gateway : Gateway) (body : List UInt8) : Prop :=
  match Json.read body with
  | .ok v => ∀ part ∈ gateway.quoted v, Quotable part
  | .error .malformed => True
  | .error (.tooDeep _) => False

section NotBatch

variable {v : Value} (h : ∀ items, v ≠ .list items) (gateway : Gateway)
include h

theorem answer_eq :
    gateway.answer v =
      match Request.decode v with
      | .valid request => request.respond (gateway.outcomeOf request)
      | .invalid issues =>
        .refusing (.plain .invalidRequest [("errors", .list (issues.map Issue.toValue))])
          (bodyId? v) := by
  rw [answer, Received.ofValue_of_not_list h]
  cases Request.decode v <;> rfl

theorem quoted_eq :
    gateway.quoted v =
      match Request.decode v with
      | .invalid issues => .ofOption RequestId.toValue (bodyId? v) :: issues.map (·.input)
      | .valid request =>
        match gateway.outcomeOf request with
        | .ok _ => []
        | .error failure => (answerable failure).details.map (·.2) := by
  cases v with
  | list items => exact absurd rfl (h items)
  | _ => rfl

end NotBatch

/-- A body that is read as a request is answered with what the request comes to. -/
theorem answer_of_valid {v : Value} {request : Rpc.Request}
    (h : Request.decode v = .valid request) (gateway : Gateway) :
    gateway.answer v = request.respond (gateway.outcomeOf request) := by
  rw [answer, Received.ofValue_eq_request_iff.mpr h]

section Reachable

variable (policy : Policy) (clock : Rat) (events : List Event)

/-- What a request comes to can be told, if its strings and the rate of the policy can. -/
theorem told_outcomeOf {P : Value → Prop} (hP : ∀ v, HasForm 1 v → P v) {request : Rpc.Request}
    (hparams : ∀ v ∈ request.params, v.Readable)
    (h : ∀ raw, .ofRaw raw ∈ request.params → P (.ofRaw raw)) :
    let gateway := (Gateway.fresh policy clock).after events
    (∀ n, gateway.policy.feeBps = .int n → P (.int n)) →
      Outcome.Told P (gateway.outcomeOf request) := by
  intro gateway hrate
  rw [outcomeOf]
  cases hop : request.operation with
  | error failure => exact request.quotedBy_operation hP h failure hop
  | ok operation =>
    exact told_perform hP policy clock events operation
      (Request.arguments_of_operation hP hparams h hop hrate)

/-- An answer can be written exactly if it can quote what it takes over. -/
theorem writable_answer_iff {v : Value} (hv : v.Readable) :
    let gateway := (Gateway.fresh policy clock).after events
    Writable (gateway.answer v).toPayload ↔ ∀ part ∈ gateway.quoted v, Quotable part := by
  intro gateway
  by_cases hlist : ∃ items, v = .list items
  · -- a batch is refused without being quoted
    obtain ⟨items, rfl⟩ := hlist
    exact iff_of_true (writable_refusing_nil .invalidRequest _) fun _ hmem => nomatch hmem
  have hbatch : ∀ items, v ≠ .list items := fun items heq => hlist ⟨items, heq⟩
  obtain ⟨spare, hspare⟩ := Nesting.exists_written
  have hquotable : (Quotable : Value → Prop) = HasForm (spare + 2) := by
    funext v
    rw [Quotable, hspare]
    rfl
  rw [answer_eq hbatch, quoted_eq hbatch, hquotable, Json.writable_iff, hspare]
  cases hdecode : Request.decode v with
  | invalid issues =>
    -- the issues stand four levels inside, and their inputs two levels further in
    have hissues : (Request.decode v).Reports _ := Request.hasForm_issues
    rw [hdecode] at hissues
    have hquotes : (Refusal.plain .invalidRequest
        [("errors", .list (issues.map Issue.toValue))]).Quotes fun _ => True :=
      ⟨⟨_, rfl⟩, ⟨_, rfl⟩, by simp [Refusal.plain, Refusal.ofReason]⟩
    dsimp only
    rw [hasForm_refusing hquotes, List.forall_mem_cons, hasForm_id_iff (spare + 4) (spare + 2)]
    refine and_congr_right fun _ => ?_
    simp only [Refusal.plain, Refusal.ofReason, List.forall_mem_singleton, Json.hasForm_list,
      List.forall_mem_map]
    refine forall₂_congr fun issue hmem => hasForm_issue fun segment hsegment => ?_
    exact ((hissues issue hmem).1 segment hsegment).mono (Nat.zero_le _)
  | valid request =>
    -- what an operation is refused with holds no list of lists, so it makes no difference where
    -- it stands
    have htold := told_outcomeOf policy clock events (P := Value.Within 1)
      (fun _ hform => hform.within) (Request.readable_of_decode hv hdecode)
      (fun raw _ => Value.within_ofRaw raw 1) fun n _ => .scalar rfl
    dsimp only
    cases houtcome : gateway.outcomeOf request with
    | ok outcome =>
      rw [houtcome] at htold
      have hresult : HasForm (spare + 7) outcome.toWire := htold.mono (by omega)
      have hform := hasForm_toPayload_of_result.mpr
        ⟨Request.hasForm_id_of_decode hv hdecode, hresult⟩
      exact iff_of_true hform fun _ hmem => nomatch hmem
    | error failure =>
      rw [houtcome] at htold
      have hquotes := quotes_answerable htold
      rw [Request.respond, hasForm_refusing hquotes,
        and_iff_right (Request.hasForm_id_of_decode hv hdecode), List.forall_mem_map]
      refine forall₂_congr fun entry hmem => ?_
      have hshallow := (hquotes.details entry hmem).2
      exact Json.hasForm_iff_of_within (hshallow.mono (by omega)) (hshallow.mono (by omega))

/-- An answer can quote all that it takes over, if it can quote the body and the rate of the policy
can be written. -/
theorem quotable_quoted {v : Value} (hv : v.Readable) (h : Quotable v) :
    let gateway := (Gateway.fresh policy clock).after events
    (∀ n, gateway.policy.feeBps = .int n → Numeral.fits n = true) →
      ∀ part ∈ gateway.quoted v, Quotable part := by
  intro gateway hrate
  by_cases hlist : ∃ items, v = .list items
  · obtain ⟨items, rfl⟩ := hlist
    exact fun _ hmem => nomatch hmem
  rw [quoted_eq fun items heq => hlist ⟨items, heq⟩]
  cases hdecode : Request.decode v with
  | invalid issues =>
    have hissues : (Request.decode v).Reports _ := Request.hasForm_issues
    rw [hdecode] at hissues
    refine List.forall_mem_cons.mpr ⟨hasForm_bodyId? h, List.forall_mem_map.mpr ?_⟩
    exact fun issue hmem => (hissues issue hmem).2 _ h
  | valid request =>
    have htold := told_outcomeOf policy clock events (P := Quotable)
      (fun _ => .of_hasForm_one) (Request.readable_of_decode hv hdecode)
      (fun _ hmem => Request.hasForm_of_decode h hdecode _ hmem)
      fun n hn => Json.hasForm_int.mpr (hrate n hn)
    dsimp only
    cases houtcome : gateway.outcomeOf request with
    | ok outcome => exact fun _ hmem => nomatch hmem
    | error failure =>
      rw [houtcome] at htold
      refine List.forall_mem_map.mpr fun entry hmem => ?_
      exact ((quotes_answerable htold).details entry hmem).2

/-- Whatever has happened to a gateway, it answers a body in band exactly if the body can be
answered; else the server is in trouble. If an answer can quote the body and the rate of the policy
can be written, the body can be answered. -/
theorem answers_in_band_iff (body : List UInt8) {path : String}
    (hpath : path = "/" ∨ path = "/rpc") :
    let gateway := (Gateway.fresh policy clock).after events
    let response := (gateway.serve { method := "POST", path, body }).1
    (response.InBand ↔ gateway.CanAnswer body)
      ∧ (¬ gateway.CanAnswer body → response = .serverError)
      ∧ ((∀ n, gateway.policy.feeBps = .int n → Numeral.fits n = true) →
          ∀ v, Json.read body = .ok v → Quotable v → gateway.CanAnswer body) := by
  intro gateway response
  have hserve : response = _ := gateway.serve_post (if_pos hpath) body
  rw [hserve, CanAnswer]
  cases hread : Json.read body with
  | error e =>
    cases e with
    | malformed =>
      have hform := writable_refusing_nil .unreadable "Parse error"
      exact ⟨iff_of_true (inBand_ofPayload_iff.mpr hform) trivial, fun h => absurd trivial h,
        fun _ _ h => nomatch h⟩
    | tooDeep container =>
      exact ⟨iff_of_false not_inBand_serverError id, fun _ => rfl, fun _ _ h => nomatch h⟩
  | ok v =>
    have hv := Json.readable_of_read hread
    have hanswer := writable_answer_iff policy clock events hv
    refine ⟨inBand_ofPayload_iff.trans hanswer, fun h => ?_, ?_⟩
    · exact ofPayload_of_not_writable fun hform => h (hanswer.mp hform)
    · rintro hrate _ ⟨⟩ hform
      exact quotable_quoted policy clock events hv hform hrate

end Reachable

end Answers

/-- A body that is no JSON is answered in band. -/
theorem answers_in_band_nonsense :
    ((Gateway.fresh .standard 0).serve
      { method := "POST", path := "/rpc", body := Text.utf8Bytes "nonsense".toList }).1.InBand := by
  have hread : Json.read (Text.utf8Bytes "nonsense".toList) = .error .malformed := rfl
  refine (answers_in_band_iff .standard 0 [] _ (Or.inr rfl)).1.mpr ?_
  rw [CanAnswer, hread]
  trivial

/-- A body that is not a finite number is quoted in its refusal, which then cannot be written. -/
theorem not_answered_in_band_nan :
    ¬ ((Gateway.fresh .standard 0).serve
      { method := "POST", path := "/rpc", body := Text.utf8Bytes "NaN".toList }).1.InBand := by
  have hserve : ((Gateway.fresh .standard 0).serve
      { method := "POST", path := "/rpc", body := Text.utf8Bytes "NaN".toList }).1
        = .serverError := rfl
  rw [hserve]
  exact not_inBand_serverError

end Gateway

end IntentGateway
