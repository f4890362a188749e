import IntentGateway.Client.Query
import IntentGateway.Link.Script
import IntentGateway.Proofs.Json.Reading

/-! # What a call sends and brings back

However often a call is attempted, it sends one body, and the id of that body is one more than the
last. So the requests that go out over a connection tell the calls in their order. What a call
brings back is part of a document that was read, so it is never beyond the limits of a reader.
-/

namespace IntentGateway.Client

/-! ## Requests that cannot be written -/

/-- That a request cannot be written is told as it is: it is no trouble of the transport. -/
theorem reason?_transportFailure_ofUnwritable (e : Json.Unwritable) :
    (transportFailure (.ofUnwritable e)).reason? = none := by
  cases e <;> rfl

/-- Another attempt would not help. -/
theorem isRetryable_ofUnwritable (e : Json.Unwritable) :
    (Failure.ofUnwritable e).isRetryable = false := by
  cases e <;> rfl

section

variable {σ τ : Type} [Seconds τ]

/-! ## Results -/

variable [Nesting]

theorem readable_of_resultOf {method : String} {id : ℕ} {payload : Value.Entries} {v : Value}
    (hpayload : (Value.map payload).Readable) (h : resultOf method id payload = .ok v) :
    v.Readable := by
  simp only [resultOf] at h
  split at h
  · obtain ⟨_, _, h⟩ := Failure.bind_eq_ok h
    cases h
  · split at h
    · split at h
      · rename_i result hresult
        cases h
        exact hpayload.of_find? hresult
      · cases h
    · split at h
      · rename_i result hresult
        cases h
        exact hpayload.of_find? hresult
      · cases h
    · cases h

theorem readable_of_interpret {method : String} {id : ℕ} {body : List UInt8} {v : Value}
    (h : interpret method id body = .ok v) : v.Readable := by
  rw [interpret] at h
  split at h
  · cases h
  · cases h
  · rename_i payload hread
    exact readable_of_resultOf (Json.readable_of_read hread) h
  · cases h

/-- The result of a call may be read. -/
theorem readable_of_call {endpoint : Endpoint σ τ} {method : String} {params : List Value}
    {connection : Connection σ} {v : Value}
    (h : (call endpoint method params connection).1 = .ok v) : v.Readable := by
  simp only [call] at h
  split at h
  · exact readable_of_interpret h
  · cases h

/-- A call goes on with its result, and the connection with what the call has left. -/
theorem callThen_eq {α : Type} (endpoint : Endpoint σ τ) (method : String) (params : List Value)
    (use : Value → Except Failure α) (connection : Connection σ) :
    callThen endpoint method params use connection =
      ((call endpoint method params connection).1 >>= use,
        (call endpoint method params connection).2) := by
  rw [callThen]
  rcases call endpoint method params connection with ⟨failure | result, connection'⟩ <;> rfl

/-- What is used of a call is its result. -/
theorem callThen_eq_ok {α : Type} {endpoint : Endpoint σ τ} {method : String}
    {params : List Value} {use : Value → Except Failure α} {connection connection' : Connection σ}
    {a : α} (h : callThen endpoint method params use connection = (.ok a, connection')) :
    ∃ result, (call endpoint method params connection).1 = .ok result ∧ use result = .ok a := by
  rw [callThen_eq, Prod.mk.injEq] at h
  exact Failure.bind_eq_ok h.1

/-- A block is asked for by the hexadecimal text of its number. -/
theorem getBlock_int (endpoint : Endpoint σ τ) (n : Int) (full : Value) :
    ∃ use, getBlock endpoint (.int n) full
      = callThen endpoint "eth_getBlockByNumber" [.str (Numeral.hexText n), full] use :=
  ⟨_, rfl⟩

end

/-! ## Requests -/

section

variable {τ : Type}

/-- Whether nothing but one body has been sent into a script, any number of times. -/
def Repeats (body : Value) (before after : Link.Script τ) : Prop :=
  ∃ times, after.requests = before.requests ++ List.replicate times body

namespace Repeats

variable {body : Value} {first second third : Link.Script τ}

theorem of_eq (h : second.requests = first.requests) : Repeats body first second :=
  ⟨0, by rw [h, List.replicate_zero, List.append_nil]⟩

theorem trans (h : Repeats body first second) (h' : Repeats body second third) :
    Repeats body first third := by
  obtain ⟨times, h⟩ := h
  obtain ⟨more, h'⟩ := h'
  exact ⟨times + more, by rw [h', h, List.append_assoc, List.replicate_append_replicate]⟩

end Repeats

/-- The requests that calls send: the body of each, as often as it is attempted, in their order. -/
inductive Sent : List Value → List Value → Prop where
  | none : Sent [] []
  | call (body : Value) (times : ℕ) {bodies requests : List Value} (h : Sent bodies requests) :
      Sent (body :: bodies) (List.replicate times body ++ requests)

theorem Sent.append {bodies others requests more : List Value} (h : Sent bodies requests)
    (h' : Sent others more) : Sent (bodies ++ others) (requests ++ more) := by
  induction h with
  | none => exact h'
  | call body times _ ih =>
    rw [List.append_assoc]
    exact .call body times ih

/-- Whether a client has made calls with these bodies, one after the other, and nothing else. -/
structure Asked (bodies : List Value) (before after : Connection (Link.Script τ)) : Prop where
  lastId : after.lastId = before.lastId + bodies.length
  isClosed : after.isClosed = before.isClosed
  sent : ∃ requests, Sent bodies requests
    ∧ after.surroundings.requests = before.surroundings.requests ++ requests

namespace Asked

variable {bodies others : List Value} {first second third : Connection (Link.Script τ)}

theorem refl (connection : Connection (Link.Script τ)) : Asked [] connection connection :=
  ⟨rfl, rfl, [], .none, by rw [List.append_nil]⟩

theorem append (h : Asked bodies first second) (h' : Asked others second third) :
    Asked (bodies ++ others) first third := by
  obtain ⟨requests, hsent, hrequests⟩ := h.sent
  obtain ⟨more, hsent', hrequests'⟩ := h'.sent
  refine ⟨?_, h'.isClosed.trans h.isClosed, requests ++ more, hsent.append hsent', ?_⟩
  · rw [h'.lastId, h.lastId, List.length_append]
    omega
  · rw [hrequests', hrequests, List.append_assoc]

end Asked

variable [Seconds τ]

variable [Nesting]

/-- An attempt sends its body once, or not at all. -/
theorem repeats_transmit (isClosed : Bool) (body : Value) (s : Link.Script τ) :
    Repeats body s (transmit Link.Script.link isClosed body s).2 := by
  have hsend : (Link.Script.send body s).2.requests = s.requests ++ [body] := by
    rw [Link.Script.send]
    split <;> rfl
  have hexchange : (exchange Link.Script.link body s).2 = (Link.Script.send body s).2 := by
    rw [exchange]
    simp only [Link.Script.link]
    split
    · split <;> simp_all
    · simp_all
  rw [transmit]
  split
  · exact .of_eq rfl
  · split
    · exact .of_eq rfl
    · exact ⟨1, by rw [hexchange, hsend]; rfl⟩

omit [Nesting] in
/-- Waiting sends nothing. -/
theorem requests_pause (retry : Retry τ) (attempt : ℕ) (s : Link.Script τ) :
    (retry.pause Link.Script.link attempt s).2.requests = s.requests := by
  rw [Retry.pause]
  split
  · rfl
  · simp only [Link.Script.link, Link.Script.sleep, Link.Script.draw]
    split <;> rfl

omit [Nesting] in
/-- All attempts together send nothing but the body. -/
theorem repeats_attempts {α : Type} (retry : Retry τ) {body : Value}
    {action : Action (Link.Script τ) α} (haction : ∀ s, Repeats body s (action s).2)
    (attempt left : ℕ) (s : Link.Script τ) :
    Repeats body s (retry.attempts Link.Script.link action attempt left s).2 := by
  induction left generalizing attempt s with
  | zero => exact haction s
  | succ left ih =>
    have hfirst := haction s
    rw [Retry.attempts]
    split
    · rename_i hs
      rwa [hs] at hfirst
    · rename_i failure s' hs
      rw [hs] at hfirst
      split
      · have hpause := requests_pause retry attempt s'
        split
        · rename_i hp
          rw [hp] at hpause
          exact hfirst.trans (.of_eq hpause)
        · rename_i hp
          rw [hp] at hpause
          exact (hfirst.trans (.of_eq hpause)).trans (ih (attempt + 1) _)
      · exact hfirst

/-- A call takes the next id, and its body is all that it sends. -/
theorem asked_call (retry : Retry τ) (method : String) (params : List Value)
    (connection : Connection (Link.Script τ)) :
    Asked [requestBody method params (connection.lastId + 1)] connection
      (call ⟨Link.Script.link, retry⟩ method params connection).2 := by
  have hrun : ∀ body, Repeats body connection.surroundings
      (retry.run Link.Script.link (transmit Link.Script.link connection.isClosed body)
        connection.surroundings).2 := by
    intro body
    rw [Retry.run]
    split
    · exact .of_eq rfl
    · exact repeats_attempts retry (repeats_transmit connection.isClosed body) 0 _ _
  obtain ⟨times, htimes⟩ := hrun (requestBody method params (connection.lastId + 1))
  have hsent := Sent.call (requestBody method params (connection.lastId + 1)) times .none
  rw [List.append_nil] at hsent
  rw [call]
  split
  · rename_i hs
    rw [hs] at htimes
    exact ⟨rfl, rfl, _, hsent, htimes⟩
  · rename_i hs
    rw [hs] at htimes
    exact ⟨rfl, rfl, _, hsent, htimes⟩

theorem asked_callThen {α : Type} (retry : Retry τ) (method : String) (params : List Value)
    (use : Value → Except Failure α) (connection : Connection (Link.Script τ)) :
    Asked [requestBody method params (connection.lastId + 1)] connection
      (callThen ⟨Link.Script.link, retry⟩ method params use connection).2 := by
  rw [callThen_eq]
  exact asked_call retry method params connection

end

end IntentGateway.Client
