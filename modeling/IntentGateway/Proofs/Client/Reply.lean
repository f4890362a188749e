import IntentGateway.Proofs.Client.Call
import IntentGateway.Proofs.Json.Form
import IntentGateway.Proofs.Json.Nesting
import IntentGateway.Proofs.Link.Retry
import IntentGateway.Proofs.Refusal.Received

/-! # What a call ends with

A client promises a result, or a refusal: by the transport, or under the protocol. A call keeps the
promise whatever the endpoint replies and however the requests fail, but for the cases listed here:
the client makes no attempt or cannot write the request, the delays overflow, a reply is nested too
deep, or the error of a reply is told as no refusal.
-/

namespace IntentGateway

open Json (Writable)

/-- Whether a failure is one that a client promises. -/
def Failure.IsPromised (failure : Failure) : Prop :=
  failure.isRefusalUnder .transport = true ∨ failure.isRefusalUnder .protocol = true

theorem Failure.not_isPromised_of_reason? {failure : Failure} (h : failure.reason? = none) :
    ¬ failure.IsPromised := by
  simp [IsPromised, isRefusalUnder, h]

/-- Whether a result, if it is a failure, is one that a client promises. -/
abbrev Failure.OnlyPromised {α : Type} (result : Except Failure α) : Prop :=
  Only IsPromised result

theorem Failure.not_onlyPromised_of_reason? {α : Type} {failure : Failure}
    (h : failure.reason? = none) : ¬ OnlyPromised (.error failure : Except Failure α) :=
  fun honly => not_isPromised_of_reason? h (only_error.mp honly)

/-- An error member is told as promised, unless it is told as no refusal. -/
theorem Refusal.isPromised_received_iff [Nesting] {error : Value} (h : error.Readable)
    (hv : error.Within Nesting.read) : (received error).IsPromised ↔ ¬ Untold error := by
  rcases received_cases h hv with ⟨huntold, hreason⟩ | ⟨htold, hunder⟩
  · exact iff_of_false (Failure.not_isPromised_of_reason? hreason) fun h => h huntold
  · exact iff_of_true (Or.inr hunder) htold

/-- How requests fail is told as trouble of the transport. -/
theorem Failure.IsHttp.isPromised {failure : Failure} (h : failure.IsHttp) :
    (Client.transportFailure failure).IsPromised := by
  cases failure with
  | link fault => exact Or.inl rfl
  | status code message => exact Or.inl rfl
  | _ => exact h.elim

namespace Client

theorem isPromised_malformed (method message : String) : (malformed method message).IsPromised :=
  Or.inr rfl

variable {τ : Type} [Seconds τ] [Nesting]

/-! ## One call -/

/-- The reply that a call gets, if it gets one. -/
def replyTo (retry : Retry τ) (method : String) (params : List Value)
    (connection : Connection (Link.Script τ)) : Except Failure Link.Reply :=
  (retry.run Link.Script.link
    (transmit Link.Script.link connection.isClosed
      (requestBody method params (connection.lastId + 1))) connection.surroundings).1

/-- Whether a reply is the one that is waited for, with an error that is told as no refusal. -/
def IsUntold (id : ℕ) (payload : Value.Entries) : Prop :=
  ((payload.find? "id").getD .null).equalsInt id = true
    ∧ ∃ error, payload.find? "error" = some error ∧ Refusal.Untold error

/-- What makes the body of a reply end a call in a way that is not promised. -/
inductive Spoils (id : ℕ) (body : List UInt8) : Prop where
  | tooDeep {container : Container} (h : Json.read body = .error (.tooDeep container))
  | untold {payload : Value.Entries} (h : Json.read body = .ok (.map payload))
      (huntold : IsUntold id payload)

/-- What makes a call end in a way that is not promised. -/
inductive CallEscapes (retry : Retry τ) (method : String) (params : List Value)
    (connection : Connection (Link.Script τ)) : Prop where
  | noAttempt (h : retry.maxRetries < 0)
  | unwritable (h : ¬ Writable (requestBody method params (connection.lastId + 1)))
  | overflow (h : replyTo retry method params connection = .error .delayOverflow)
  | spoiled {reply : Link.Reply} (h : replyTo retry method params connection = .ok reply)
      (hbody : Spoils (connection.lastId + 1) reply.body)

open Failure (OnlyPromised not_onlyPromised_of_reason? only_ok only_error)

/-- A reply that is waited for and has no error holds a result, or is told as malformed. -/
theorem onlyPromised_resultOf_of_no_error {payload : Value.Entries} {id : ℕ} (method : String)
    (hid : ((payload.find? "id").getD .null).equalsInt id = true)
    (herror : payload.find? "error" = none ∨ payload.find? "error" = some .null) :
    OnlyPromised (resultOf method id payload) := by
  rcases herror with herror | herror
  all_goals
    simp only [resultOf, hid, herror]
    cases payload.find? "result" with
    | none => exact only_error.mpr (isPromised_malformed _ _)
    | some result => exact only_ok result

/-- The entries of a reply hold a result or a promised failure, unless the reply is the one that is
waited for and its error is told as no refusal. -/
theorem onlyPromised_resultOf_iff {payload : Value.Entries} (h : (Value.map payload).Readable)
    (hv : (Value.map payload).Within Nesting.read) (method : String) (id : ℕ) :
    OnlyPromised (resultOf method id payload) ↔ ¬ IsUntold id payload := by
  cases hequal : ((payload.find? "id").getD .null).equalsInt id with
  | false =>
    -- whatever was read can be quoted in the message
    obtain ⟨shown, hshown⟩ := (h.getD_find? "id").shown (hv.getD_find? "id")
    refine iff_of_true ?_ fun h => Bool.false_ne_true (hequal.symm.trans h.1)
    simp only [resultOf, hequal, hshown]
    exact only_error.mpr (isPromised_malformed _ _)
  | true =>
    cases herror : payload.find? "error" with
    | none =>
      refine iff_of_true (onlyPromised_resultOf_of_no_error method hequal (Or.inl herror)) ?_
      simp [IsUntold, herror]
    | some error =>
      have huntold : IsUntold id payload ↔ Refusal.Untold error := by
        simp [IsUntold, hequal, herror]
      rw [huntold]
      cases error with
      | null =>
        refine iff_of_true (onlyPromised_resultOf_of_no_error method hequal (Or.inr herror)) ?_
        rintro ⟨_, _, _, heq, _⟩
        cases heq
      | _ =>
        simp only [resultOf, hequal, herror]
        exact only_error.trans (Refusal.isPromised_received_iff (h.of_find? herror)
          (hv.of_find? herror))

/-- A body that is JSON spoils a call if it is a reply with an error that is told as no refusal. -/
theorem spoils_iff {id : ℕ} {body : List UInt8} {v : Value} (hread : Json.read body = .ok v) :
    Spoils id body ↔ ∃ payload, v = .map payload ∧ IsUntold id payload := by
  constructor
  · rintro (⟨h⟩ | ⟨h, huntold⟩)
    · rw [hread] at h
      cases h
    · rw [hread] at h
      cases h
      exact ⟨_, rfl, huntold⟩
  · rintro ⟨payload, rfl, huntold⟩
    exact .untold hread huntold

/-- A reply holds a result or a promised failure, unless its body spoils that. -/
theorem onlyPromised_interpret_iff (method : String) (id : ℕ) (body : List UInt8) :
    OnlyPromised (interpret method id body) ↔ ¬ Spoils id body := by
  rw [interpret]
  cases hread : Json.read body with
  | error e =>
    cases e with
    | malformed =>
      refine iff_of_true (only_error.mpr (isPromised_malformed _ _)) ?_
      rintro (⟨h⟩ | ⟨h, _⟩)
      · rw [hread] at h
        cases h
      · rw [hread] at h
        cases h
    | tooDeep container =>
      exact iff_of_false (not_onlyPromised_of_reason? rfl) fun h => h (.tooDeep hread)
  | ok v =>
    rw [spoils_iff hread]
    by_cases hmap : ∃ payload, v = .map payload
    · obtain ⟨payload, rfl⟩ := hmap
      refine (onlyPromised_resultOf_iff (Json.readable_of_read hread)
        (Json.within_of_read hread) method id).trans ?_
      simp
    · have hnone : ¬ ∃ payload, v = .map payload ∧ IsUntold id payload := by
        rintro ⟨payload, heq, _⟩
        exact hmap ⟨payload, heq⟩
      refine iff_of_true ?_ hnone
      cases v with
      | map payload => exact absurd ⟨payload, rfl⟩ hmap
      | _ => exact only_error.mpr (isPromised_malformed _ _)

/-! ### Getting a reply -/

section Reply

variable (retry : Retry τ) (method : String) (params : List Value)
  {connection : Connection (Link.Script τ)}

/-- An attempt over an open connection, with a body that can be written, fails only in the ways of
requests, and leaves the script one that does. -/
theorem transmit_failsByHttp {body : Value} (hbody : Writable body) {s : Link.Script τ}
    (hs : s.FailsByHttp) :
    (transmit Link.Script.link false body s).2.FailsByHttp
      ∧ ∀ failure, (transmit Link.Script.link false body s).1 = .error failure →
          failure.IsHttp := by
  obtain ⟨text, htext⟩ := hbody
  have hsent := hs.send body
  have hfails : ∀ failure, (Link.Script.send body s).1 = .error failure → failure.IsHttp :=
    fun failure h => hs.isHttp h
  simp only [transmit, htext, exchange, Link.Script.link]
  rcases hsend : Link.Script.send body s with ⟨failure | reply, s'⟩
  · rw [hsend] at hsent hfails
    exact ⟨hsent, fun failure h => by cases h; exact hfails failure rfl⟩
  · rw [hsend] at hsent
    dsimp only
    rw [if_neg Bool.false_ne_true]
    split
    · exact ⟨hsent, fun failure h => by cases h⟩
    · exact ⟨hsent, fun failure h => by cases h; trivial⟩

/-- What a call gets: nothing if no attempt is allowed or the body cannot be written, and otherwise
a reply, a failure of a request, or an overflow of the delays, which takes more attempts than there
are delays. -/
theorem replyTo_cases (hopen : connection.isClosed = false)
    (hscript : connection.surroundings.FailsByHttp) :
    (retry.maxRetries < 0 ∧ replyTo retry method params connection = .error .noAttempt)
      ∨ (0 ≤ retry.maxRetries
        ∧ ¬ Writable (requestBody method params (connection.lastId + 1))
        ∧ ∃ e, replyTo retry method params connection = .error (.ofUnwritable e))
      ∨ (0 ≤ retry.maxRetries
        ∧ Writable (requestBody method params (connection.lastId + 1))
        ∧ ∀ failure, replyTo retry method params connection = .error failure →
            failure.IsHttp
              ∨ failure = .delayOverflow ∧ Backoff.attemptLimit < retry.maxRetries) := by
  rw [replyTo, hopen]
  by_cases hallowed : retry.maxRetries < 0
  · exact Or.inl ⟨hallowed, by rw [Retry.run, if_pos hallowed]⟩
  right
  have hsome : 0 ≤ retry.maxRetries := by omega
  cases hw : Json.write (requestBody method params (connection.lastId + 1)) with
  | error e =>
    -- nothing is sent, and that is not worth another attempt
    have htransmit : transmit Link.Script.link false
        (requestBody method params (connection.lastId + 1)) connection.surroundings
          = (.error (.ofUnwritable e), connection.surroundings) := by
      rw [transmit, hw]
    refine Or.inl ⟨hsome, ?_, e, ?_⟩
    · rintro ⟨text, htext⟩
      rw [hw] at htext
      cases htext
    · rw [Retry.run_of_not_retryable hsome htransmit (isRetryable_ofUnwritable e)]
  | ok text =>
    have haction (s : Link.Script τ) (hs : s.FailsByHttp) :=
      transmit_failsByHttp ⟨text, hw⟩ hs
    refine Or.inr ⟨hsome, ⟨text, hw⟩, fun failure h => ?_⟩
    rcases retry.run_eq_error (I := Link.Script.FailsByHttp) (fun _ _ hs => hs)
      (fun _ hs => hs.draw) (fun s hs => (haction s hs).1) hscript h with
      ⟨hnone, _⟩ | ⟨s, hs, hfails⟩ | ⟨attempt, hleft, hpause⟩
    · omega
    · exact Or.inl ((haction s hs).2 failure hfails)
    · obtain ⟨rfl, hlimit⟩ := hpause.eq_overflow Link.Script.sleep_taken
      exact Or.inr ⟨rfl, by omega⟩

/-- What a call gives. -/
theorem call_fst (connection : Connection (Link.Script τ)) :
    (call ⟨Link.Script.link, retry⟩ method params connection).1 =
      match replyTo retry method params connection with
      | .ok reply => interpret method (connection.lastId + 1) reply.body
      | .error failure => .error (transportFailure failure) := by
  rw [call, replyTo]
  rcases retry.run Link.Script.link (transmit Link.Script.link connection.isClosed
    (requestBody method params (connection.lastId + 1))) connection.surroundings
    with ⟨failure | reply, s⟩ <;> rfl

section

variable {retry method params} (hallowed : 0 ≤ retry.maxRetries)
  (hbody : Writable (requestBody method params (connection.lastId + 1)))

include hallowed hbody

/-- A call that gets a reply escapes only through what the reply holds. -/
theorem callEscapes_iff_of_ok {reply : Link.Reply}
    (hreply : replyTo retry method params connection = .ok reply) :
    CallEscapes retry method params connection ↔ Spoils (connection.lastId + 1) reply.body := by
  constructor
  · rintro (h | h | h | ⟨h, hspoils⟩)
    · omega
    · exact absurd hbody h
    · rw [hreply] at h
      cases h
    · rw [hreply] at h
      cases h
      exact hspoils
  · exact .spoiled hreply

/-- A call that gets no reply escapes only because delays overflow. -/
theorem callEscapes_iff_of_error {failure : Failure}
    (hreply : replyTo retry method params connection = .error failure) :
    CallEscapes retry method params connection ↔ failure = .delayOverflow := by
  constructor
  · rintro (h | h | h | ⟨h, _⟩)
    · omega
    · exact absurd hbody h
    · rw [hreply] at h
      cases h
      rfl
    · rw [hreply] at h
      cases h
  · rintro rfl
    exact .overflow hreply

end

/-- A call gives a result or a promised failure, unless it escapes. -/
theorem onlyPromised_call_iff (hopen : connection.isClosed = false)
    (hscript : connection.surroundings.FailsByHttp) :
    OnlyPromised (call ⟨Link.Script.link, retry⟩ method params connection).1 ↔
      ¬ CallEscapes retry method params connection := by
  rw [call_fst]
  rcases replyTo_cases retry method params hopen hscript with
    ⟨hnone, hreply⟩ | ⟨_, hbody, e, hreply⟩ | ⟨hallowed, hbody, hfails⟩
  · rw [hreply]
    exact iff_of_false (not_onlyPromised_of_reason? rfl) fun h => h (.noAttempt hnone)
  · rw [hreply]
    exact iff_of_false (not_onlyPromised_of_reason? (reason?_transportFailure_ofUnwritable e))
      fun h => h (.unwritable hbody)
  · cases hreply : replyTo retry method params connection with
    | error failure =>
      rw [callEscapes_iff_of_error hallowed hbody hreply]
      rcases hfails failure hreply with hhttp | ⟨rfl, _⟩
      · refine iff_of_true (only_error.mpr hhttp.isPromised) ?_
        rintro rfl
        exact hhttp
      · exact iff_of_false (not_onlyPromised_of_reason? rfl) fun h => h rfl
    | ok reply =>
      rw [callEscapes_iff_of_ok hallowed hbody hreply]
      exact onlyPromised_interpret_iff method (connection.lastId + 1) reply.body

end Reply

end Client

end IntentGateway
