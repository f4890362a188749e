import IntentGateway.Client.Query
import IntentGateway.Proofs.Client.Call
import IntentGateway.Proofs.Gateway.Repetition
import IntentGateway.Proofs.Json.RoundTrip
import IntentGateway.Proofs.Link.Lossy

/-! # Calls over a lossy link

A call of a client is sent as one body, as often as it is attempted. A gateway on the other side
reads that body as the request that the client means. Over a lossy link the gateway may serve it any
number of times; the call ends with what comes over the link in its last attempt.
-/

namespace IntentGateway

open Json (Writable)
open Link (Server Fate Wire)

/-! ## The gateway as a server -/

variable [Nesting]

/-- The bytes of a content. -/
def Http.Content.bytes : Content → List UInt8
  | .json v => Wire.bytesOf v
  | .text s => Text.utf8Bytes s.toList

/-- What a gateway replies to a body on a path. -/
def Gateway.reply (path : String) (body : List UInt8) (gateway : Gateway) :
    Link.Reply × Gateway :=
  let (response, gateway') := gateway.serve { method := "POST", path, body }
  ({ status := response.status, body := response.content.bytes }, gateway')

/-- The status of a reply on the paths of the protocol is no reason for another attempt. -/
theorem Gateway.status_reply {path : String} (hpath : Http.route? path = some .rpc)
    (body : List UInt8) (gateway : Gateway) :
    Link.retryableStatuses.contains (gateway.reply path body).1.status = false := by
  have hpayload (payload : Value) :
      (Http.Response.ofPayload payload).status = 200
        ∨ (Http.Response.ofPayload payload).status = 500 := by
    unfold Http.Response.ofPayload
    split
    · exact Or.inl rfl
    · exact Or.inr rfl
  have hstatus : (gateway.serve { method := "POST", path, body }).1.status = 200
      ∨ (gateway.serve { method := "POST", path, body }).1.status = 500 := by
    rw [serve_post gateway hpath]
    split
    · exact hpayload _
    · exact hpayload _
    · exact Or.inr rfl
  show Link.retryableStatuses.contains
    ((gateway.serve { method := "POST", path, body }).1.status : ℤ) = false
  rcases hstatus with h | h
  · rw [h]
    decide
  · rw [h]
    decide

/-- A request to update an intent is replied to in the same way again, with no further change. -/
theorem Gateway.reply_again {path : String} (hpath : Http.route? path = some .rpc)
    {body : List UInt8} {request : Rpc.Request} (hasks : Rpc.Asks body request) {gateway : Gateway}
    (hs : gateway.store.Sound)
    (hupdates : ∀ operation, request.operation = .ok operation → operation.updates = true) :
    (gateway.reply path body).2.reply path body = gateway.reply path body := by
  have hagain := serve_again hpath hasks hs hupdates
  unfold reply
  dsimp only
  rw [hagain]

namespace Client

/-! ## What the server reads -/

/-- Whether a parameter is an integer or a string. -/
def IsScalar (param : Value) : Prop :=
  (∃ n, param = .int n) ∨ ∃ raw, param = .ofRaw raw

omit [Nesting] in
theorem IsScalar.faithful {param : Value} {room : ℕ} (h : IsScalar param)
    (hform : Json.HasForm room param) (depth : ℕ) : param.Faithful depth := by
  rcases h with ⟨n, rfl⟩ | ⟨raw, rfl⟩
  · exact .int (Json.hasForm_int.mp hform)
  · obtain ⟨s, rfl⟩ := Json.hasForm_ofRaw.mp hform
    exact .str s

variable {method : String} {params : List Value} {id : ℕ}

/-- A body with scalar parameters is read back as it was written. -/
theorem read_bytesOf (hparams : ∀ param ∈ params, IsScalar param)
    (hform : Writable (requestBody method params id)) :
    Json.read (Wire.bytesOf (requestBody method params id))
      = .ok (requestBody method params id) := by
  obtain ⟨spare, hwritten⟩ := Nesting.exists_written
  have hread := Nesting.eight_le_read
  rw [Json.writable_iff, hwritten] at hform
  have hentries := Json.hasForm_map.mp hform
  have hitems := Json.hasForm_list.mp (hentries ("params", .list params) (by simp)).2
  have hid := (hentries ("id", .int id) (by simp)).2
  have hfaithful : (requestBody method params id).Faithful 2 := by
    refine .map ?_ ?_ (by simp)
    · simp only [List.forall_mem_cons]
      exact ⟨.str _, .str _, .list fun param hmem => (hparams param hmem).faithful
        (hitems param hmem) 0, .int (Json.hasForm_int.mp hid), nofun⟩
    · simp
  obtain ⟨text, hwrite, hback⟩ := Json.exists_write_of_faithful hfaithful (by omega) (by omega)
  rw [Wire.bytesOf, hwrite]
  exact hback

/-- The server takes the body for the request that the client means. -/
theorem asks_bytesOf (hparams : ∀ param ∈ params, IsScalar param)
    (hform : Writable (requestBody method params id)) :
    Rpc.Asks (Wire.bytesOf (requestBody method params id)) ⟨method, params, some (.number id)⟩ :=
  ⟨_, read_bytesOf hparams hform, rfl, rfl, rfl, rfl, by rintro _ ⟨⟩ raw ⟨⟩⟩

/-! ## Calls -/

section

variable {σ ρ τ : Type} [Seconds τ]

/-- What a call comes to, given what its attempts end with. -/
def concluded (method : String) (id : ℕ) : Except Failure Link.Reply → Except Failure Value
  | .ok reply => interpret method id reply.body
  | .error failure => .error (transportFailure failure)

theorem call_eq (endpoint : Endpoint σ τ) (method : String) (params : List Value)
    (connection : Connection σ) :
    let id := connection.lastId + 1
    let ended := endpoint.retry.run endpoint.link
      (transmit endpoint.link connection.isClosed (requestBody method params id))
      connection.surroundings
    call endpoint method params connection =
      (concluded method id ended.1,
        { connection with lastId := id, surroundings := ended.2 }) := by
  unfold call
  dsimp only
  generalize endpoint.retry.run _ _ _ = ended
  rcases ended with ⟨failure | reply, s⟩ <;> rfl

/-- Whether a call sends anything: it may make an attempt, over an open connection, with a body that
can be written. -/
def Speaks (retry : Retry τ) (isClosed : Bool) (request : Value) : Prop :=
  0 ≤ retry.maxRetries ∧ isClosed = false ∧ Writable request

/-- A call that sends nothing fails in a way that is no refusal, and uses an id up. -/
theorem call_of_not_speaks (endpoint : Endpoint σ τ) {method : String} {params : List Value}
    (connection : Connection σ)
    (h : ¬ Speaks endpoint.retry connection.isClosed
      (requestBody method params (connection.lastId + 1))) :
    ∃ failure : Failure, failure.reason? = none
      ∧ call endpoint method params connection
        = (.error failure, { connection with lastId := connection.lastId + 1 }) := by
  have hended (failure : Failure)
      (hrun : endpoint.retry.run endpoint.link (transmit endpoint.link connection.isClosed
        (requestBody method params (connection.lastId + 1))) connection.surroundings
          = (.error failure, connection.surroundings)) :
      call endpoint method params connection
        = (.error (transportFailure failure),
          { connection with lastId := connection.lastId + 1 }) := by
    rw [call_eq, hrun]
    rfl
  by_cases hsome : 0 ≤ endpoint.retry.maxRetries
  · -- the one attempt fails before anything is sent, and is not repeated
    cases hwrite : Json.write (requestBody method params (connection.lastId + 1)) with
    | error e =>
      have htransmit : transmit endpoint.link connection.isClosed
          (requestBody method params (connection.lastId + 1)) connection.surroundings
            = (.error (.ofUnwritable e), connection.surroundings) := by
        rw [transmit, hwrite]
      exact ⟨_, reason?_transportFailure_ofUnwritable e, hended _
        (Retry.run_of_not_retryable hsome htransmit (isRetryable_ofUnwritable e))⟩
    | ok text =>
      have hclosed : connection.isClosed = true := by
        by_contra hopen
        exact h ⟨hsome, Bool.eq_false_iff.mpr hopen, text, hwrite⟩
      have htransmit : transmit endpoint.link connection.isClosed
          (requestBody method params (connection.lastId + 1)) connection.surroundings
            = (.error .closed, connection.surroundings) := by
        rw [transmit, hwrite]
        exact if_pos hclosed
      exact ⟨_, rfl, hended _ (Retry.run_of_not_retryable hsome htransmit rfl)⟩
  · exact ⟨_, rfl, hended .noAttempt (if_pos (not_le.mp hsome))⟩

/-- A call that sends nothing leaves the surroundings as they are. -/
theorem surroundings_of_not_speaks (endpoint : Endpoint σ τ) {method : String} {params : List Value}
    (connection : Connection σ)
    (h : ¬ Speaks endpoint.retry connection.isClosed
      (requestBody method params (connection.lastId + 1))) :
    (call endpoint method params connection).2.surroundings = connection.surroundings := by
  obtain ⟨failure, _, hcall⟩ := call_of_not_speaks endpoint connection h
  rw [hcall]

end

/-! ## Calls whose effect is that of one request -/

section

variable {σ ρ τ α : Type}

/-- Whether a query that was disturbed has had the effect of a single undisturbed one, or none if
the server has not handled it; and ended like that one, if a reply was delivered. -/
structure EffectOnce (s : σ) (disturbed single : Except Failure α × Connection (Wire σ ρ)) :
    Prop where
  server : disturbed.2.surroundings.server =
    if disturbed.2.surroundings.past.any Fate.arrives then single.2.surroundings.server else s
  result : .delivered ∈ disturbed.2.surroundings.past → disturbed.1 = single.1
  single : disturbed.2.surroundings.past ≠ [] → single.2.surroundings.past = [.delivered]

variable [Seconds τ] (host : Link ρ τ) {serve : Server σ} {retry : Retry τ} {method : String}
  {params : List Value} {lastId : ℕ} {isClosed : Bool} {s s' : σ} (start : ρ)

/-- What a call comes to that sends something to a server that replies to it in the same way again,
with no further change. -/
theorem call_wire_of_again (fates : ℕ → Fate) {reply : Link.Reply}
    (hspeaks : Speaks retry isClosed (requestBody method params (lastId + 1)))
    (hstatus : Link.retryableStatuses.contains reply.status = false)
    (hfirst : ∀ n, serve n (Wire.bytesOf (requestBody method params (lastId + 1))) s = (reply, s'))
    (hagain : ∀ n,
      serve n (Wire.bytesOf (requestBody method params (lastId + 1))) s' = (reply, s')) :
    let ended := call ⟨Wire.link host serve fates, retry⟩ method params
      ⟨lastId, isClosed, Wire.idle s start⟩
    ∃ last : ℕ, ended.2.surroundings.past = (List.range (last + 1)).map fates
      ∧ ended.2.surroundings.server
          = (if ((List.range (last + 1)).map fates).any Fate.arrives then s' else s)
      ∧ (∀ n < last, fates n ≠ .delivered)
      ∧ (fates last = .delivered →
        ended.1 = concluded method (lastId + 1) (taken (.ok reply))) := by
  intro ended
  obtain ⟨hsome, hopen, hform⟩ := hspeaks
  have hended : ended = _ := call_eq ⟨Wire.link host serve fates, retry⟩ method params
    ⟨lastId, isClosed, Wire.idle s start⟩
  rw [hended, hopen]
  obtain ⟨last, _, hafter, hretried, hresult⟩ :=
    run_wire host serve fates hsome hform s start
  have hserver := serve.after_of_again fates _ s
    (fun n => congrArg Prod.snd (hfirst n)) fun n => congrArg Prod.snd (hagain n)
  -- whichever state the server is in, the reply is the same
  have hreceived : ∀ n, fates n = .delivered →
      serve.received fates (Wire.bytesOf (requestBody method params (lastId + 1))) s n
        = .ok reply := by
    intro n hdelivered
    unfold Server.received
    rw [hdelivered, hserver]
    split
    · rw [hagain]
      rfl
    · rw [hfirst]
      rfl
  have hfinal : ∀ n, fates n = .delivered → ¬ Retry.IsWorthMore (taken
      (serve.received fates (Wire.bytesOf (requestBody method params (lastId + 1))) s n)) := by
    intro n hdelivered
    rw [hreceived n hdelivered]
    exact not_isWorthMore_taken_ok hstatus
  refine ⟨last, hafter.past, hafter.server.trans (hserver _),
    fun n hn hdelivered => hfinal n hdelivered (hretried n hn),
    fun hdelivered => congrArg (concluded method (lastId + 1)) ?_⟩
  rcases hresult with ⟨hresult, _⟩ | ⟨_, _, _, hmore⟩
  · rw [← hreceived last hdelivered]
    exact hresult
  · exact absurd hmore (hfinal last hdelivered)

/-- A call leaves the wire as some number of attempts to send its body do. While these end in
failures worth another one, there are more, up to the number that is allowed, if the host refuses no
sleep. -/
theorem isAfter_call (serve : Server σ) (fates : ℕ → Fate) (retry : Retry τ) (method : String)
    (params : List Value) (lastId : ℕ) (isClosed : Bool) (s : σ) :
    ∃ n : ℕ, n ≤ (retry.maxRetries + 1).toNat
      ∧ (call ⟨Wire.link host serve fates, retry⟩ method params
          ⟨lastId, isClosed, Wire.idle s start⟩).2.surroundings.IsAfter serve fates
          (Wire.bytesOf (requestBody method params (lastId + 1))) s n
      ∧ (0 < n → Writable (requestBody method params (lastId + 1)))
      ∧ (Speaks retry isClosed (requestBody method params (lastId + 1)) →
          (∀ delay s, (host.sleep delay s).1 = .ok ()) → ∀ k : ℕ, k ≤ retry.maxRetries →
          k ≤ Backoff.attemptLimit → (∀ i < k, Retry.IsWorthMore (taken (serve.received fates
            (Wire.bytesOf (requestBody method params (lastId + 1))) s i))) → k < n) := by
  by_cases hspeaks : Speaks retry isClosed (requestBody method params (lastId + 1))
  · obtain ⟨hsome, hopen, hform⟩ := hspeaks
    obtain ⟨last, hlast, hafter, _, hresult⟩ :=
      run_wire host serve fates hsome hform s start
    refine ⟨last + 1, by omega, ?_, fun _ => hform, fun _ hsleeps k hk hlimit hlost => ?_⟩
    · rw [call_eq, hopen]
      exact hafter
    · by_contra hlt
      rcases hresult with ⟨_, hfinal⟩ | ⟨_, _, hpause, _⟩
      · exact hfinal (by omega) (hlost last (by omega))
      · have hover := (hpause.eq_overflow fun delay wire => hsleeps delay wire.host).2
        omega
  · refine ⟨0, Nat.zero_le _, ?_, fun h => absurd h (lt_irrefl 0), fun h => absurd h hspeaks⟩
    rw [surroundings_of_not_speaks ⟨Wire.link host serve fates, retry⟩ _ hspeaks]
    exact ⟨rfl, rfl⟩

/-- A call to a server that replies to it in the same way again, with no further change, has its
effect once. -/
theorem effectOnce_call (fates : ℕ → Fate) {reply : Link.Reply}
    (hstatus : Link.retryableStatuses.contains reply.status = false)
    (hagain : Writable (requestBody method params (lastId + 1)) → ∀ n,
      serve n (Wire.bytesOf (requestBody method params (lastId + 1))) s = (reply, s')
        ∧ serve n (Wire.bytesOf (requestBody method params (lastId + 1))) s' = (reply, s')) :
    let connection : Connection (Wire σ ρ) := ⟨lastId, isClosed, Wire.idle s start⟩
    EffectOnce s (call ⟨Wire.link host serve fates, retry⟩ method params connection)
      (call ⟨Wire.link host serve fun _ => .delivered, retry⟩ method params connection) := by
  intro connection
  by_cases hspeaks : Speaks retry isClosed (requestBody method params (lastId + 1))
  · have hform := hspeaks.2.2
    have hwire (fates : ℕ → Fate) := call_wire_of_again host start fates hspeaks hstatus
      (fun n => (hagain hform n).1) fun n => (hagain hform n).2
    obtain ⟨last, hpast, hserver, hnot, hresult⟩ := hwire fates
    obtain ⟨only, hpast', hserver', hnot', hresult'⟩ := hwire fun _ => .delivered
    have honly : only = 0 := by
      by_contra hpos
      exact hnot' 0 (by omega) rfl
    subst honly
    have hsingle : (call ⟨Wire.link host serve fun _ => .delivered, retry⟩ method params
        connection).2.surroundings.server = s' := hserver'
    refine ⟨?_, fun hdelivered => ?_, fun _ => hpast'⟩
    · rw [hsingle, hpast]
      exact hserver
    · rw [hpast] at hdelivered
      obtain ⟨n, hn, hfate⟩ := List.mem_map.mp hdelivered
      have hlast : n = last := by
        have hle := List.mem_range.mp hn
        by_contra hne
        exact hnot n (by omega) hfate
      subst hlast
      exact (hresult hfate).trans (hresult' rfl).symm
  · have hsilent (fates : ℕ → Fate) := surroundings_of_not_speaks
      ⟨Wire.link host serve fates, retry⟩ connection hspeaks
    refine ⟨?_, ?_, ?_⟩
    · rw [hsilent]
      rfl
    · rw [hsilent]
      exact nofun
    · rw [hsilent]
      exact fun h => absurd rfl h

/-- What is made of a result does not matter to the effect. -/
theorem EffectOnce.callThen {disturbed single : Endpoint (Wire σ ρ) τ}
    {connection : Connection (Wire σ ρ)}
    (h : EffectOnce s (call disturbed method params connection)
      (call single method params connection)) (use : Value → Except Failure α) :
    EffectOnce s (callThen disturbed method params use connection)
      (callThen single method params use connection) := by
  rw [callThen_eq, callThen_eq]
  exact ⟨h.server, fun hdelivered => congrArg (· >>= use) (h.result hdelivered), h.single⟩

end

end Client

end IntentGateway
