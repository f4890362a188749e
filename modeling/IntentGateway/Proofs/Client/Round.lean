import IntentGateway.Proofs.Client.Reply
import IntentGateway.Proofs.Client.Wire

/-! # Rounds of a client

A call is a round: it has the next id, and sends one body as often as it is attempted; what these
requests end in is what the script of the surroundings says next. The requests settle how a round
ends: the last one that fails is told as trouble of the transport, and the last reply is the answer
if it carries the id of the round, no error and a result.

One kind of round ends otherwise: the delays double, and behind the last one that has a number comes
neither another attempt nor the failure of the one before, but an overflow
(`Client.Round.Overflows`).
-/

namespace IntentGateway

open Json (Writable)

/-! ## Requests that fail -/

/-- How a request has failed: with the status of a reply, or without a reply. Other failures are
none of a request. -/
def Failure.httpStatus? : Failure → Option (Option Int)
  | .link _ => some none
  | .status code _ => some (some code)
  | _ => none

theorem Failure.IsHttp.exists_status {failure : Failure} (h : failure.IsHttp) :
    ∃ status, failure.httpStatus? = some status := by
  cases failure with
  | link fault => exact ⟨_, rfl⟩
  | status code message => exact ⟨_, rfl⟩
  | _ => exact h.elim

/-- The failure of a request is told as trouble of the transport, with its status. -/
theorem Client.transportFailure_of_status {failure : Failure} {status : Option Int}
    (h : failure.httpStatus? = some status) :
    ∃ message, transportFailure failure = .refused (.transport message status) := by
  cases failure with
  | link fault =>
    cases h
    exact ⟨_, rfl⟩
  | status code message =>
    cases h
    exact ⟨_, rfl⟩
  | _ => cases h

namespace Link.Script

variable {τ : Type}

/-- What a request hears that follows a number of others. -/
def heard (script : Script τ) (n : ℕ) (request : Value) : Except Failure Reply :=
  match script.replies[n]? with
  | some reply => reply.answer request
  | none => .error noReply

/-- Whether a script is as a number of attempts to send a request have left it. -/
structure IsAfter (start : Script τ) (request : Value) (n : ℕ) (script : Script τ) : Prop where
  requests : script.requests = start.requests ++ List.replicate n request
  replies : script.replies = start.replies.drop n

theorem IsAfter.refl (start : Script τ) (request : Value) : start.IsAfter request 0 start :=
  ⟨by rw [List.replicate_zero, List.append_nil], rfl⟩

/-- The next attempt hears the next answer. -/
theorem IsAfter.send [Seconds τ] {start script : Script τ} {request : Value} {n : ℕ}
    (h : start.IsAfter request n script) :
    (Script.send request script).1 = start.heard n request
      ∧ start.IsAfter request (n + 1) (Script.send request script).2 := by
  have hhead : start.replies[n]? = script.replies.head? := by
    rw [h.replies, List.head?_drop]
  have htail : start.replies.drop (n + 1) = script.replies.tail := by
    rw [h.replies, List.tail_drop]
  have hasked : script.requests ++ [request]
      = start.requests ++ List.replicate (n + 1) request := by
    rw [h.requests, List.append_assoc, List.replicate_succ']
  unfold Script.send heard
  rw [hhead]
  cases hreplies : script.replies with
  | nil =>
    refine ⟨rfl, hasked, ?_⟩
    rw [htail, hreplies]
    rfl
  | cons reply replies =>
    refine ⟨rfl, hasked, ?_⟩
    rw [htail, hreplies]
    rfl

theorem IsAfter.draw [Seconds τ] {start script : Script τ} {request : Value} {n : ℕ}
    (h : start.IsAfter request n script) : start.IsAfter request n script.draw.2 := by
  unfold Script.draw
  split
  · exact h
  · exact ⟨h.requests, h.replies⟩

/-- What a script answers fails in the ways of requests. -/
theorem FailsByHttp.heard {script : Script τ} (h : script.FailsByHttp) {n : ℕ} {request : Value}
    {failure : Failure} (hfailed : script.heard n request = .error failure) : failure.IsHttp := by
  unfold Script.heard at hfailed
  split at hfailed
  · rename_i reply hreply
    exact h reply (List.mem_of_getElem? hreply) request failure hfailed
  · cases hfailed
    trivial

theorem FailsByHttp.of_drop {script later : Script τ} (h : script.FailsByHttp) {n : ℕ}
    (hreplies : later.replies = script.replies.drop n) : later.FailsByHttp := by
  intro reply hmem
  rw [hreplies] at hmem
  exact h reply (List.mem_of_mem_drop hmem)

end Link.Script

namespace Client

/-! ## Rounds -/

/-- A call in the course of a session: its id, what the requests that it has sent have ended in, one
after the other, and what it has given. -/
structure Round where
  method : String
  params : List Value
  id : ℕ
  ends : List (Except Failure Link.Reply)
  result : Except Failure Value

namespace Round

/-- Whether a round calls a method. -/
structure Calls (round : Round) (method : String) (params : List Value) : Prop where
  method : round.method = method
  params : round.params = params

/-- The body of all requests of a round. -/
def body (round : Round) : Value :=
  requestBody round.method round.params round.id

theorem Calls.body {round : Round} {method : String} {params : List Value}
    (h : round.Calls method params) : round.body = requestBody method params round.id := by
  rw [Round.body, h.method, h.params]

/-- The requests of a round. -/
def requests (round : Round) : List Value :=
  List.replicate round.ends.length round.body

/-- Whether a round leads from one state of a connection to another: it has the next id, nothing but
its requests is sent, and they end in what the script answers next. -/
structure Leads {τ : Type} (round : Round) (before after : Connection (Link.Script τ)) : Prop where
  id : round.id = before.lastId + 1
  lastId : after.lastId = round.id
  requests : after.surroundings.requests = before.surroundings.requests ++ round.requests
  replies : after.surroundings.replies = before.surroundings.replies.drop round.ends.length
  ends : ∀ n ended, round.ends[n]? = some ended →
    ended = taken (before.surroundings.heard n round.body)

/-- Whether a round raises trouble of the transport, with a status or with none. -/
def RaisesTransport (round : Round) (status : Option Int) : Prop :=
  ∃ refusal, round.result = .error (.refused refusal)
    ∧ refusal.reason.isUnder .transport = true ∧ refusal.status = status

/-- Whether the last request of a round has failed, with the status of a reply or without one. -/
def FailsLast (round : Round) (status : Option Int) : Prop :=
  ∃ failure, round.ends.getLast? = some (.error failure) ∧ failure.httpStatus? = some status

/-- Whether the last request of a round is worth another attempt, and more of these are allowed
than there are delays. -/
def Overflows {τ : Type} (retry : Retry τ) (round : Round) : Prop :=
  Backoff.attemptLimit < retry.maxRetries
    ∧ ∃ ended, round.ends.getLast? = some ended ∧ Retry.IsWorthMore ended

/-- Whether the last reply to a round answers it with a result: it is an object with the id of the
round, without an error, and with that result. -/
def Answered [Nesting] (round : Round) (result : Value) : Prop :=
  ∃ (reply : Link.Reply) (payload : Value.Entries) (id : Value),
    round.ends.getLast? = some (.ok reply)
      ∧ Json.read reply.body = .ok (.map payload)
      ∧ payload.find? "id" = some id ∧ id.equalsInt round.id = true
      ∧ (payload.find? "error" = none ∨ payload.find? "error" = some .null)
      ∧ payload.find? "result" = some result

/-- Whether a round ends as its requests say. Only a request that fails in a way worth another
attempt is followed by one, so none follows a reply with a status of success; and there are such
attempts until they or the delays are spent. -/
structure Proper [Nesting] {τ : Type} (retry : Retry τ) (round : Round) : Prop where
  final : ∀ ended ∈ round.ends.dropLast, Retry.IsWorthMore ended
  spent : ∀ ended, round.ends.getLast? = some ended → Retry.IsWorthMore ended →
    (round.ends.length : ℤ) = min retry.maxRetries Backoff.attemptLimit + 1
  transport : ∀ status,
    round.RaisesTransport status ↔ round.FailsLast status ∧ ¬ round.Overflows retry
  overflow : round.Overflows retry → round.result = .error .delayOverflow
  answered : ∀ result, round.result = .ok result → round.Answered result

end Round

/-! ### What a reply comes to -/

/-- A failure that is not trouble of the transport. -/
abbrev NoTransport {α : Type} (result : Except Failure α) : Prop :=
  Failure.Only (fun failure => failure.isRefusalUnder .transport = false) result

theorem noTransport_of_reason? {α : Type} {failure : Failure} (h : failure.reason? = none) :
    NoTransport (.error failure : Except Failure α) :=
  Failure.only_error.mpr (by rw [Failure.isRefusalUnder, h]; rfl)

/-- No reason is under the protocol and under the transport. -/
theorem noTransport_of_protocol {α : Type} {failure : Failure}
    (h : failure.isRefusalUnder .protocol = true) :
    NoTransport (.error failure : Except Failure α) := by
  have hapart : ∀ reason : Reason, reason.isUnder .protocol = true →
      reason.isUnder .transport = false := by
    intro reason
    cases reason <;> decide
  refine Failure.only_error.mpr ?_
  unfold Failure.isRefusalUnder at h ⊢
  cases hreason : failure.reason? with
  | none => rfl
  | some reason =>
    rw [hreason] at h
    exact hapart reason h

/-- The entries of a reply are not told as trouble of the transport. -/
theorem noTransport_resultOf [Nesting] {payload : Value.Entries} (h : (Value.map payload).Readable)
    (hv : (Value.map payload).Within Nesting.read) (method : String) (id : ℕ) :
    NoTransport (resultOf method id payload) := by
  simp only [resultOf]
  split
  · -- whatever was read can be quoted in the message
    obtain ⟨shown, hshown⟩ := (h.getD_find? "id").shown (hv.getD_find? "id")
    rw [hshown]
    exact noTransport_of_protocol rfl
  · split
    · split
      · exact Failure.only_ok _
      · exact noTransport_of_protocol rfl
    · split
      · exact Failure.only_ok _
      · exact noTransport_of_protocol rfl
    · rename_i error _ herror
      rcases Refusal.received_cases (h.of_find? herror) (hv.of_find? herror) with
        ⟨_, hreason⟩ | ⟨_, hunder⟩
      · exact noTransport_of_reason? hreason
      · exact noTransport_of_protocol hunder

theorem noTransport_interpret [Nesting] (method : String) (id : ℕ) (body : List UInt8) :
    NoTransport (interpret method id body) := by
  unfold interpret
  split
  · exact noTransport_of_protocol rfl
  · exact noTransport_of_reason? rfl
  · rename_i payload hread
    exact noTransport_resultOf (Json.readable_of_read hread) (Json.within_of_read hread) method id
  · exact noTransport_of_protocol rfl

/-- A result is that of a reply with the right id and without an error. -/
theorem resultOf_eq_ok [Nesting] {method : String} {id : ℕ} {payload : Value.Entries}
    {result : Value} (h : resultOf method id payload = .ok result) :
    ((payload.find? "id").getD .null).equalsInt id = true
      ∧ (payload.find? "error" = none ∨ payload.find? "error" = some .null)
      ∧ payload.find? "result" = some result := by
  simp only [resultOf] at h
  split at h
  · obtain ⟨_, _, h⟩ := Failure.bind_eq_ok h
    cases h
  · rename_i hid
    refine ⟨by simpa using hid, ?_⟩
    split at h
    · rename_i herror
      split at h
      · rename_i hresult
        cases h
        exact ⟨Or.inr herror, hresult⟩
      · cases h
    · rename_i herror
      split at h
      · rename_i hresult
        cases h
        exact ⟨Or.inl herror, hresult⟩
      · cases h
    · cases h

/-- Only an object can hold a result. -/
theorem interpret_eq_ok [Nesting] {method : String} {id : ℕ} {body : List UInt8} {result : Value}
    (h : interpret method id body = .ok result) :
    ∃ payload, Json.read body = .ok (.map payload) ∧ resultOf method id payload = .ok result := by
  unfold interpret at h
  split at h
  · cases h
  · cases h
  · exact ⟨_, ‹_›, h⟩
  · cases h

/-! ### What a round ends with -/

namespace Round

section

variable {τ : Type} {retry : Retry τ} {round : Round}

theorem not_raisesTransport (h : NoTransport round.result) (status : Option Int) :
    ¬ round.RaisesTransport status := by
  rintro ⟨refusal, hresult, hunder, _⟩
  rw [hresult, NoTransport, Failure.only_error] at h
  exact Bool.false_ne_true (h.symm.trans hunder)

/-- A round that has sent nothing raises no trouble of the transport. -/
theorem proper_of_silent [Nesting] (hends : round.ends = []) {failure : Failure}
    (hreason : failure.reason? = none) (hresult : round.result = .error failure) :
    round.Proper retry := by
  have hlast : round.ends.getLast? = none := by rw [hends, List.getLast?_nil]
  refine ⟨?_, ?_, fun status => ?_, ?_, ?_⟩
  · rw [hends]
    exact nofun
  · rw [hlast]
    exact nofun
  · refine iff_of_false (not_raisesTransport ?_ status) ?_
    · rw [hresult]
      exact noTransport_of_reason? hreason
    · rintro ⟨⟨_, hfailed, _⟩, _⟩
      rw [hlast] at hfailed
      cases hfailed
  · rintro ⟨_, _, hended, _⟩
    rw [hlast] at hended
    cases hended
  · intro result hok
    rw [hresult] at hok
    cases hok

variable (hfinal : ∀ ended ∈ round.ends.dropLast, Retry.IsWorthMore ended)
  (hspent : ∀ ended, round.ends.getLast? = some ended → Retry.IsWorthMore ended →
    (round.ends.length : ℤ) = min retry.maxRetries Backoff.attemptLimit + 1)

include hfinal hspent

/-- A round whose delays have overflowed ends with that. -/
theorem proper_of_overflow [Nesting] (hoverflow : round.Overflows retry)
    (hresult : round.result = .error .delayOverflow) :
    round.Proper retry := by
  refine ⟨hfinal, hspent, fun status => ?_, fun _ => hresult, fun result hok => ?_⟩
  · refine iff_of_false (not_raisesTransport ?_ status) fun h => h.2 hoverflow
    rw [hresult]
    exact noTransport_of_reason? rfl
  · rw [hresult] at hok
    cases hok

/-- A round that ends with what its last request has ended in is proper. -/
theorem proper_of_concluded [Nesting] {last : Except Failure Link.Reply}
    (hlast : round.ends.getLast? = some last)
    (hhttp : ∀ failure, last = .error failure → failure.IsHttp)
    (hnot : ¬ round.Overflows retry)
    (hresult : round.result = concluded round.method round.id last) : round.Proper retry := by
  refine ⟨hfinal, hspent, fun status => ?_, fun h => absurd h hnot, fun result hok => ?_⟩
  · rw [and_iff_left hnot, FailsLast, hlast]
    cases last with
    | ok reply =>
      refine iff_of_false (not_raisesTransport ?_ status) ?_
      · rw [hresult]
        exact noTransport_interpret _ _ _
      · rintro ⟨_, ⟨⟩, _⟩
    | error failure =>
      obtain ⟨told, htold⟩ := (hhttp failure rfl).exists_status
      obtain ⟨message, hmessage⟩ := transportFailure_of_status htold
      rw [RaisesTransport, hresult, concluded, hmessage]
      constructor
      · rintro ⟨_, ⟨⟩, _, rfl⟩
        exact ⟨failure, rfl, htold⟩
      · rintro ⟨_, ⟨⟩, hstatus⟩
        rw [htold, Option.some.injEq] at hstatus
        exact ⟨_, rfl, rfl, hstatus⟩
  · cases last with
    | error failure =>
      rw [hresult] at hok
      cases hok
    | ok reply =>
      obtain ⟨payload, hread, hpayload⟩ := interpret_eq_ok (hresult.symm.trans hok)
      obtain ⟨hid, herror, hheld⟩ := resultOf_eq_ok hpayload
      cases hmember : Value.Entries.find? payload "id" with
      | none =>
        rw [hmember] at hid
        cases hid
      | some id =>
        rw [hmember] at hid
        exact ⟨reply, payload, id, hlast, hread, hmember, hid, herror, hheld⟩

end

/-! ### Rounds of attempts -/

/-- The round of a call that makes attempts up to one of them. -/
def attempted (method : String) (params : List Value) (id : ℕ)
    (ended : ℕ → Except Failure Link.Reply) (last : ℕ) (result : Except Failure Value) : Round where
  method := method
  params := params
  id := id
  ends := (List.range (last + 1)).map ended
  result := result

section Attempted

variable {τ : Type} {retry : Retry τ} {method : String} {params : List Value} {id : ℕ}
  {ended : ℕ → Except Failure Link.Reply} {last : ℕ} {result : Except Failure Value}

theorem length_ends_attempted :
    (attempted method params id ended last result).ends.length = last + 1 := by
  rw [attempted, List.length_map, List.length_range]

theorem ends_attempted :
    (attempted method params id ended last result).ends
      = (List.range last).map ended ++ [ended last] := by
  rw [attempted, List.range_succ, List.map_append, List.map_singleton]

theorem getLast?_ends_attempted :
    (attempted method params id ended last result).ends.getLast? = some (ended last) := by
  rw [ends_attempted, List.getLast?_concat]

theorem getElem?_ends_attempted {n : ℕ} {ending : Except Failure Link.Reply}
    (h : (attempted method params id ended last result).ends[n]? = some ending) :
    ending = ended n := by
  rw [attempted, List.getElem?_map, Option.map_eq_some_iff] at h
  obtain ⟨i, hi, rfl⟩ := h
  obtain ⟨_, rfl⟩ := List.getElem?_eq_some_iff.mp hi
  rw [List.getElem_range]

/-- The round of a run of attempts is proper. -/
theorem proper_attempted [Nesting] [Seconds τ] {outcome : Except Failure Link.Reply}
    (hallowed : (last : ℤ) ≤ retry.maxRetries)
    (hretried : ∀ n < last, (n : ℤ) < Backoff.attemptLimit ∧ Retry.IsWorthMore (ended n))
    (hhttp : ∀ failure, ended last = .error failure → failure.IsHttp)
    (houtcome : outcome = ended last ∧ (last < retry.maxRetries → ¬ Retry.IsWorthMore (ended last))
      ∨ ∃ failure, outcome = .error failure ∧ last < retry.maxRetries
        ∧ Retry.PauseFails (Link.Script.link : Link (Link.Script τ) τ) last failure
        ∧ Retry.IsWorthMore (ended last)) :
    (attempted method params id ended last (concluded method id outcome)).Proper retry := by
  have hfinal : ∀ ending ∈
      (attempted method params id ended last (concluded method id outcome)).ends.dropLast,
      Retry.IsWorthMore ending := by
    rw [ends_attempted, List.dropLast_concat]
    intro ending hmem
    obtain ⟨n, hn, rfl⟩ := List.mem_map.mp hmem
    exact (hretried n (List.mem_range.mp hn)).2
  -- there is a delay before each attempt but the first
  have hdelays : (last : ℤ) ≤ Backoff.attemptLimit := by
    cases last with
    | zero => decide
    | succ n => exact_mod_cast (hretried n (Nat.lt_succ_self n)).1
  -- a script refuses no sleep, so that waiting fails only where the delays overflow
  have hpauses {failure : Failure}
      (h : Retry.PauseFails (Link.Script.link : Link (Link.Script τ) τ) last failure) :=
    h.eq_overflow Link.Script.sleep_taken
  have hspent : ∀ ending,
      (attempted method params id ended last (concluded method id outcome)).ends.getLast?
        = some ending → Retry.IsWorthMore ending →
      ((attempted method params id ended last (concluded method id outcome)).ends.length : ℤ)
        = min retry.maxRetries Backoff.attemptLimit + 1 := by
    rw [getLast?_ends_attempted, length_ends_attempted]
    rintro _ ⟨⟩ hmore
    have hstops : retry.maxRetries ≤ last ∨ Backoff.attemptLimit ≤ last := by
      rcases houtcome with ⟨_, hstops⟩ | ⟨failure, _, _, hpause, _⟩
      · exact Or.inl (not_lt.mp fun hlt => hstops hlt hmore)
      · exact Or.inr (hpauses hpause).2
    omega
  rcases houtcome with ⟨rfl, hstops⟩ | ⟨failure, rfl, hleft, hpause, hmore⟩
  · refine proper_of_concluded hfinal hspent getLast?_ends_attempted hhttp ?_ rfl
    -- an overflow would have cut the attempts off
    rintro ⟨hmany, ending, hend, hmore⟩
    rw [getLast?_ends_attempted, Option.some.injEq] at hend
    subst hend
    exact hstops (by omega) hmore
  · obtain ⟨rfl, hlimit⟩ := hpauses hpause
    exact proper_of_overflow hfinal hspent
      ⟨by omega, _, getLast?_ends_attempted, hmore⟩ rfl

end Attempted

end Round

/-- What an attempt ends in that was heard in the ways of requests. -/
theorem isHttp_of_taken {heard : Except Failure Link.Reply}
    (h : ∀ failure, heard = .error failure → failure.IsHttp) :
    ∀ failure, taken heard = .error failure → failure.IsHttp := by
  intro failure hfailed
  cases heard with
  | error other => exact h failure hfailed
  | ok reply =>
    rw [taken] at hfailed
    split at hfailed
    · cases hfailed
    · cases hfailed
      trivial

section Call

variable {τ : Type} [Seconds τ]

variable {retry : Retry τ} {method : String} {params : List Value}
  {connection : Connection (Link.Script τ)}

/-- The round of a call that sends something. -/
theorem exists_round_of_speaks [Nesting] (hscript : connection.surroundings.FailsByHttp)
    (hspeaks : Speaks retry connection.isClosed
      (requestBody method params (connection.lastId + 1))) :
    let ended := call ⟨Link.Script.link, retry⟩ method params connection
    ∃ round : Round, round.Calls method params ∧ round.result = ended.1
      ∧ round.Leads connection ended.2 ∧ round.Proper retry ∧ round.ends ≠ [] := by
  intro ended
  obtain ⟨hsome, hopen, hform⟩ := hspeaks
  obtain ⟨last, hallowed, hafter, hretried, houtcome⟩ :=
    run_transmit Link.Script.link retry hsome hform
      (I := connection.surroundings.IsAfter
        (requestBody method params (connection.lastId + 1))) (fun _ _ h => h.send)
      (fun _ _ _ h => ⟨h.requests, h.replies⟩) (fun _ _ h => h.draw)
      connection.surroundings (.refl connection.surroundings _)
  have hended : ended = _ := call_eq ⟨Link.Script.link, retry⟩ method params connection
  rw [hopen] at hended
  rw [hended]
  refine ⟨Round.attempted method params (connection.lastId + 1) _ last _, ⟨rfl, rfl⟩, rfl,
    ⟨rfl, rfl, ?_, ?_, fun n ending hn => Round.getElem?_ends_attempted hn⟩,
    Round.proper_attempted hallowed hretried (isHttp_of_taken fun _ => hscript.heard) houtcome,
    List.ne_nil_of_length_eq_add_one Round.length_ends_attempted⟩
  · rw [Round.requests, Round.length_ends_attempted]
    exact hafter.requests
  · rw [Round.length_ends_attempted]
    exact hafter.replies

/-- A call is a round that leads from the connection before it to the one after it. -/
theorem exists_round_call [Nesting] (retry : Retry τ) (method : String) (params : List Value)
    (hscript : connection.surroundings.FailsByHttp) :
    let ended := call ⟨Link.Script.link, retry⟩ method params connection
    ∃ round : Round, round.Calls method params ∧ round.result = ended.1
      ∧ round.Leads connection ended.2 ∧ round.Proper retry := by
  by_cases hspeaks : Speaks retry connection.isClosed
      (requestBody method params (connection.lastId + 1))
  · obtain ⟨round, hcalls, hresult, hleads, hproper, _⟩ := exists_round_of_speaks hscript hspeaks
    exact ⟨round, hcalls, hresult, hleads, hproper⟩
  · obtain ⟨failure, hreason, hcall⟩ :=
      call_of_not_speaks ⟨Link.Script.link, retry⟩ connection hspeaks
    intro ended
    have hended : ended = _ := hcall
    rw [hended]
    exact ⟨{ method, params, id := connection.lastId + 1, ends := [], result := .error failure },
      ⟨rfl, rfl⟩, rfl, ⟨rfl, rfl, (List.append_nil _).symm, rfl, nofun⟩,
      Round.proper_of_silent rfl hreason rfl⟩

end Call

end Client

end IntentGateway
