import IntentGateway.Proofs.Rpc.Answer

/-! # Failures leave no trace

An operation that fails leaves the gateway as it is, and so does a request over HTTP that is
answered with an error, or with anything else but a result. What follows goes on as if neither had
happened: the next intent gets the id that it would have got.
-/

namespace IntentGateway

/-! ## Errors and results over HTTP -/

namespace Http

/-- A response whose content is an object with an error. -/
def Response.TellsError (response : Response) : Prop :=
  ∃ payload, response.content = .json payload ∧ (payload.field? "error").isSome = true

/-- A response whose content is an object with a result and no error. -/
def Response.GivesResult (response : Response) : Prop :=
  ∃ payload, response.content = .json payload ∧ (payload.field? "result").isSome = true
    ∧ payload.field? "error" = none

theorem Response.GivesResult.not_tellsError {response : Response} (h : response.GivesResult) :
    ¬ response.TellsError := by
  rintro ⟨told, htold, herror⟩
  obtain ⟨given, hgiven, _, hnone⟩ := h
  rw [hgiven, Content.json.injEq] at htold
  rw [← htold, hnone] at herror
  cases herror

/-- A payload with a result gives it, if it can be written. -/
theorem givesResult_ofPayload [Nesting] {result : Value} {id : Option Rpc.RequestId}
    (h : Json.Writable (Rpc.Response.toPayload ⟨result, none, id⟩)) :
    (Response.ofPayload (Rpc.Response.toPayload ⟨result, none, id⟩)).GivesResult := by
  obtain ⟨text, htext⟩ := h
  rw [Response.ofPayload, htext]
  exact ⟨_, rfl, rfl, rfl⟩

end Http

/-- Whether an event is an operation that fails, or a request that is answered with an error. -/
def Event.FailsAt [Nesting] (gateway : Gateway) : Event → Prop
  | .perform operation => ∃ failure, (Gateway.perform operation gateway).1 = .error failure
  | .serve request => (gateway.serve request).1.TellsError
  | _ => False

namespace Gateway

open Rpc Http
open Json (Writable)

/-- A request over HTTP changes nothing, unless it is posted to a path of the protocol. -/
theorem serve_eq_self_or_post [Nesting] (gateway : Gateway) (request : Http.Request) :
    (gateway.serve request).2 = gateway ∨
      route? request.path = some .rpc ∧ request.method = "POST" := by
  rw [serve_snd]
  cases hoperation : request.operation? with
  | none => exact Or.inl rfl
  | some operation => exact Or.inr (Http.Request.posted_of_operation? hoperation).1

section Served

variable [Nesting] {gateway : Gateway}

/-- A request that fails leaves the gateway as it is. -/
theorem handle_snd_of_error (hs : gateway.store.Sound) {request : Rpc.Request} {failure : Failure}
    (h : gateway.outcomeOf request = .error failure) : (gateway.handle request).2 = gateway := by
  cases hoperation : request.operation with
  | error other => exact (handle_of_error hoperation gateway).2
  | ok operation =>
    obtain ⟨houtcome, hstate⟩ := handle_of_ok hoperation gateway
    rw [houtcome] at h
    rw [hstate]
    exact perform_of_error hs (Prod.ext h rfl)

/-- A body that is JSON changes nothing, unless it is a request that succeeds. -/
theorem answered_eq_self_or_succeeds (hs : gateway.store.Sound) (v : Value) :
    gateway.answered v = gateway ∨ ∃ request outcome, Request.decode v = .valid request
      ∧ gateway.outcomeOf request = .ok outcome := by
  unfold answered
  split
  · exact Or.inl rfl
  · rename_i request hreceived
    cases houtcome : gateway.outcomeOf request with
    | error failure => exact Or.inl (handle_snd_of_error hs houtcome)
    | ok outcome =>
      exact Or.inr ⟨request, outcome, Received.ofValue_eq_request_iff.mp hreceived, houtcome⟩

/-- An operation that creates an intent gives it the next id. -/
theorem id_of_created {merchant gross token feeBps lifetime : Value} {now : Option Int} {id : Int}
    {view : View}
    (h : (perform (.create merchant gross token feeBps lifetime now) gateway).1
      = .ok (.created id view)) : id = gateway.store.nextId := by
  change (((Operation.create merchant gross token feeBps lifetime now).call gateway.policy
    gateway.now).run gateway.store).1 = _ at h
  rcases Operation.run_create merchant gross token feeBps lifetime now gateway.policy gateway.now
    gateway.store with ⟨failure, hrun⟩ | ⟨accepted, intent, store', _, hi, hrun⟩
  · rw [hrun] at h
    cases h
  · obtain ⟨_, rfl, _⟩ := Store.insert_eq_ok hi
    rw [hrun] at h
    cases h
    rfl

end Served

/-! ## Whatever has happened to a gateway -/

section Reachable

variable [Nesting] (policy : Policy) (clock : Rat) (events : List Event)

/-- A request over HTTP that changes anything is answered with a result. -/
theorem serve_eq_self_or_givesResult (request : Http.Request) :
    let gateway := (Gateway.fresh policy clock).after events
    (gateway.serve request).2 = gateway ∨ (gateway.serve request).1.GivesResult := by
  intro gateway
  rcases gateway.serve_eq_self_or_post request with hself | ⟨hpath, hmethod⟩
  · exact Or.inl hself
  obtain ⟨method, path, body⟩ := request
  subst hmethod
  rw [serve_eq gateway hpath]
  cases hread : Json.read body with
  | error e => cases e <;> exact Or.inl rfl
  | ok v =>
    rcases answered_eq_self_or_succeeds (sound_after policy clock events) v with
      hself | ⟨asked, outcome, hdecode, houtcome⟩
    · exact Or.inl hself
    · -- nothing is quoted along with a result, so it can be written
      have hbatch : ∀ items, v ≠ .list items := by
        rintro items rfl
        cases hdecode
      have hanswer : gateway.answer v = ⟨outcome.toWire, none, asked.id⟩ := by
        rw [answer_of_valid hdecode, houtcome, Request.respond]
      have hquoted : gateway.quoted v = [] := by
        rw [quoted_eq hbatch, hdecode]
        dsimp only
        rw [houtcome]
      have hform : Writable (gateway.answer v).toPayload := by
        refine (writable_answer_iff policy clock events (Json.readable_of_read hread)).mpr ?_
        rw [hquoted]
        exact fun _ hmem => absurd hmem List.not_mem_nil
      right
      dsimp only
      rw [hanswer] at hform ⊢
      exact givesResult_ofPayload hform

/-- What fails at a gateway leaves it as it is, and only what is answered with a result changes it
over HTTP. What follows a failure goes on as if it had not happened: an intent that is created
then gets the id that it would have got. -/
theorem failures_leave_no_trace :
    let gateway := (Gateway.fresh policy clock).after events
    (∀ event : Event, event.FailsAt gateway →
        event.apply gateway = gateway
          ∧ ∀ later, gateway.after (event :: later) = gateway.after later
            ∧ ∀ merchant gross token feeBps lifetime now id view,
              (perform (.create merchant gross token feeBps lifetime now)
                (gateway.after (event :: later))).1 = .ok (.created id view) →
              id = (gateway.after later).store.nextId)
      ∧ ∀ request, (gateway.serve request).2 = gateway
        ∨ (gateway.serve request).1.GivesResult := by
  intro gateway
  have hserve : ∀ request, (gateway.serve request).2 = gateway
      ∨ (gateway.serve request).1.GivesResult :=
    serve_eq_self_or_givesResult policy clock events
  refine ⟨fun event hfails => ?_, hserve⟩
  have hsame : event.apply gateway = gateway := by
    cases event with
    | perform operation =>
      obtain ⟨failure, hfailure⟩ := hfails
      exact perform_of_error (sound_after policy clock events) (Prod.ext hfailure rfl)
    | serve request =>
      refine (hserve request).resolve_right fun hresult => ?_
      exact hresult.not_tellsError hfails
    | _ => exact hfails.elim
  have hafter : ∀ later, gateway.after (event :: later) = gateway.after later := by
    intro later
    show (event.apply gateway).after later = gateway.after later
    rw [hsame]
  refine ⟨hsame, fun later => ⟨hafter later, fun _ _ _ _ _ _ id view hcreated => ?_⟩⟩
  rw [hafter later] at hcreated
  exact id_of_created hcreated

end Reachable

/-- A refund of an intent that has not been paid fails. The second intent that is created then has
the second id. -/
theorem failures_leave_no_trace_unpaid :
    let create : Operation := .create (.str "0x1111111111111111111111111111111111111111") (.int 5)
      (.str "GORR") .null .null none
    let gateway := (Gateway.fresh .standard 0).after [.perform create]
    (Event.perform (.refund 1 none)).FailsAt gateway
      ∧ (gateway.after [.perform (.refund 1 none)]).store = gateway.store
      ∧ ∀ id view, (perform create (gateway.after [.perform (.refund 1 none)])).1
        = .ok (.created id view) → id = 2 := by
  intro create gateway
  have hfails : (Event.perform (.refund 1 none)).FailsAt gateway := ⟨_, rfl⟩
  obtain ⟨hsame, hlater⟩ :=
    (failures_leave_no_trace .standard 0 [.perform create]).1 (.perform (.refund 1 none)) hfails
  refine ⟨hfails, congrArg Gateway.store hsame, fun id view hcreated => ?_⟩
  exact (hlater []).2 _ _ _ _ _ _ id view hcreated

end Gateway

end IntentGateway
