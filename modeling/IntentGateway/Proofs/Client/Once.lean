import IntentGateway.Proofs.Client.Wire

/-! # How often a query takes effect

Over a lossy link a client repeats what a gateway may have done already. Paying and refunding take
effect once all the same, since the gateway does nothing when it is asked again. Creating takes
effect once for each attempt that reaches the gateway.
-/

namespace IntentGateway

open Json (Writable)
open Link (Fate Server Wire)

/-! ## Paying and refunding -/

namespace Rpc

/-- What kind of operation a method stands for. -/
def Method.Performs (method : Method) (operation : Operation) : Prop :=
  match method with
  | .createIntent => ∃ merchant gross token feeBps lifetime now,
      operation = .create merchant gross token feeBps lifetime now
  | .payInvoice | .refundInvoice => operation.updates = true
  | .getIntent | .listMerchantPayments | .getBalances => operation.reads = true

variable [Nesting]

theorem Method.performs_of_operation {method : Method} {given : List Value} {operation : Operation}
    (h : method.operation given = .ok operation) : method.Performs operation := by
  rw [Method.operation.eq_def] at h
  split at h
  · obtain ⟨_, _, h⟩ := Failure.bind_eq_ok h
    obtain ⟨_, _, h⟩ := Failure.bind_eq_ok h
    obtain ⟨_, _, h⟩ := Failure.bind_eq_ok h
    obtain ⟨_, _, h⟩ := Failure.bind_eq_ok h
    cases h
    exact ⟨_, _, _, _, _, _, rfl⟩
  · obtain ⟨_, _, h⟩ := Failure.bind_eq_ok h
    cases h
    rfl
  · obtain ⟨_, _, h⟩ := Failure.bind_eq_ok h
    cases h
    rfl
  · obtain ⟨_, _, h⟩ := Failure.bind_eq_ok h
    obtain ⟨_, _, h⟩ := Failure.bind_eq_ok h
    cases h
    rfl
  · obtain ⟨_, _, h⟩ := Failure.bind_eq_ok h
    cases h
    rfl
  · obtain ⟨_, _, h⟩ := Failure.bind_eq_ok h
    cases h
    rfl
  · cases h

/-- The operation of a request for a method is one that the method stands for. -/
theorem Request.performs_of_operation {method : Method} {params : List Value}
    {id : Option RequestId} {operation : Operation}
    (h : (Request.mk method.name params id).operation = .ok operation) :
    method.Performs operation := by
  rw [Request.operation, Method.ofName?_eq_some_iff.mpr rfl] at h
  exact Method.performs_of_operation h

end Rpc

namespace Client

variable {ρ τ α : Type} [Seconds τ]

section

variable [Nesting]

/-- A query that updates an intent has its effect once, however disturbed the link is. -/
theorem effectOnce_ask {path : String} (hpath : Http.route? path = some .rpc) {gateway : Gateway}
    (hs : gateway.store.Sound) {method : Rpc.Method}
    (hmethod : method = .payInvoice ∨ method = .refundInvoice) {params : List Value}
    (hparams : ∀ param ∈ params, IsScalar param) (decode : Schema.Decoder α) (host : Link ρ τ)
    (retry : Retry τ) (fates : ℕ → Fate) (lastId : ℕ) (isClosed : Bool) (start : ρ) :
    let connection : Connection (Wire Gateway ρ) := ⟨lastId, isClosed, Wire.idle gateway start⟩
    let endpoint (fates : ℕ → Fate) : Endpoint (Wire Gateway ρ) τ :=
      ⟨Wire.link host (fun _ => Gateway.reply path) fates, retry⟩
    EffectOnce gateway (ask (endpoint fates) method.name params decode connection)
      (ask (endpoint fun _ => .delivered) method.name params decode connection) := by
  intro connection endpoint
  have hagain (hform : Json.Writable (requestBody method.name params (lastId + 1))) :
      (gateway.reply path (Wire.bytesOf (requestBody method.name params (lastId + 1)))).2.reply path
          (Wire.bytesOf (requestBody method.name params (lastId + 1)))
        = gateway.reply path (Wire.bytesOf (requestBody method.name params (lastId + 1))) := by
    refine Gateway.reply_again hpath (asks_bytesOf hparams hform) hs fun operation hoperation => ?_
    have hperforms := Rpc.Request.performs_of_operation hoperation
    rcases hmethod with rfl | rfl
    · exact hperforms
    · exact hperforms
  have hstatus := Gateway.status_reply hpath
    (Wire.bytesOf (requestBody method.name params (lastId + 1))) gateway
  exact EffectOnce.callThen
    (effectOnce_call host start fates hstatus fun hform n => ⟨rfl, hagain hform⟩)
    (checked method.name decode)

section Reachable

variable (policy : Policy) (clock : Rat) (events : List Event)

/-- Whatever has happened to a gateway, a query to pay or to refund an intent over a lossy link has
the effect of a single undisturbed one, or none if the gateway has not handled it; and it ends like
that one if a reply of the gateway was delivered. -/
theorem pays_and_refunds_once {path : String} (hpath : path = "/" ∨ path = "/rpc")
    (host : Link ρ τ) (retry : Retry τ) (fates : ℕ → Fate) (lastId : ℕ) (isClosed : Bool)
    (start : ρ) (id : Int) (payer : RawText) :
    let gateway := (Gateway.fresh policy clock).after events
    let connection : Connection (Wire Gateway ρ) := ⟨lastId, isClosed, Wire.idle gateway start⟩
    let endpoint (fates : ℕ → Fate) : Endpoint (Wire Gateway ρ) τ :=
      ⟨Wire.link host (fun _ => Gateway.reply path) fates, retry⟩
    EffectOnce gateway (payIntent (endpoint fates) (.int id) (.ofRaw payer) connection)
        (payIntent (endpoint fun _ => .delivered) (.int id) (.ofRaw payer) connection)
      ∧ EffectOnce gateway (refundIntent (endpoint fates) (.int id) connection)
        (refundIntent (endpoint fun _ => .delivered) (.int id) connection) := by
  intro gateway connection endpoint
  have hroute : Http.route? path = some .rpc := if_pos hpath
  have hs : gateway.store.Sound := Gateway.sound_after policy clock events
  have hid : IsScalar (.int id) := Or.inl ⟨id, rfl⟩
  have hpayer : IsScalar (.ofRaw payer) := Or.inr ⟨payer, rfl⟩
  constructor
  · refine effectOnce_ask hroute hs (Or.inl rfl) ?_ _ host retry fates lastId isClosed start
    simpa using ⟨hid, hpayer⟩
  · refine effectOnce_ask hroute hs (Or.inr rfl) ?_ _ host retry fates lastId isClosed start
    simpa using hid

end Reachable

/-- The reply to the first attempt is lost, and nothing after it. -/
def firstUnanswered : ℕ → Fate
  | 0 => .unanswered (.fault ⟨.readTimeout, "timed out"⟩)
  | _ => .delivered

end

/-- An intent is paid once and refunded once though the first reply is lost. -/
theorem pays_and_refunds_once_unanswered :
    let gateway := (Gateway.fresh .standard 0).after [.perform
      (.create (.str "0x1111111111111111111111111111111111111111") (.int 5) (.str "GORR") .null
        .null none)]
    let connection : Connection (Wire Gateway (Link.Script ℚ)) :=
      ⟨0, false, Wire.idle gateway (.start [] [])⟩
    let endpoint (fates : ℕ → Fate) : Endpoint (Wire Gateway (Link.Script ℚ)) ℚ :=
      ⟨Wire.link Link.Script.link (fun _ => Gateway.reply "/rpc") fates, .standard 1⟩
    let payer := Value.ofRaw (.text "0x2222222222222222222222222222222222222222")
    EffectOnce gateway (payIntent (endpoint firstUnanswered) (.int 1) payer connection)
        (payIntent (endpoint fun _ => .delivered) (.int 1) payer connection)
      ∧ EffectOnce gateway (refundIntent (endpoint firstUnanswered) (.int 1) connection)
        (refundIntent (endpoint fun _ => .delivered) (.int 1) connection) :=
  pays_and_refunds_once .standard 0 _ (Or.inr rfl) Link.Script.link (.standard 1) firstUnanswered 0
    false (.start [] []) 1 _

/-! ## Creating -/

variable [Nesting]

/-- Whether a body asks to create an intent. -/
def Creates (body : List UInt8) : Prop :=
  ∃ request, Rpc.Asks body request ∧ ∀ operation, request.operation = .ok operation →
    Rpc.Method.createIntent.Performs operation

/-- A query to create an intent ends at once, or calls the gateway with the text of the amount. -/
theorem createIntent_cases (endpoint : Endpoint ρ τ) (merchant gross token : Value)
    (connection : Connection ρ) :
    (∃ failure,
        createIntent endpoint merchant gross token connection = (.error failure, connection))
      ∨ ∃ text use, createIntent endpoint merchant gross token connection
        = callThen endpoint Rpc.Method.createIntent.name [merchant, .str text, token] use
            connection := by
  unfold createIntent
  dsimp only
  split
  · exact Or.inl ⟨_, rfl⟩
  · exact Or.inr ⟨_, _, rfl⟩

/-- A query to create an intent leaves the wire as some number of attempts to send a body do that
asks for it. -/
theorem createIntent_wire {σ : Type} {serve : Server σ} {s : σ} (host : Link ρ τ)
    (retry : Retry τ) (fates : ℕ → Fate) (lastId : ℕ) (isClosed : Bool) (start : ρ)
    (merchant gross token : Value) (hmerchant : IsScalar merchant) (htoken : IsScalar token) :
    ∃ body n, n ≤ (retry.maxRetries + 1).toNat
      ∧ (createIntent ⟨Wire.link host serve fates, retry⟩ merchant gross token
          ⟨lastId, isClosed, Wire.idle s start⟩).2.surroundings.IsAfter serve fates body s n
      ∧ (0 < n → Creates body) := by
  rcases createIntent_cases ⟨Wire.link host serve fates, retry⟩ merchant gross token
    ⟨lastId, isClosed, Wire.idle s start⟩ with ⟨failure, hrefused⟩ | ⟨text, use, hcalls⟩
  · rw [hrefused]
    exact ⟨[], 0, Nat.zero_le _, ⟨rfl, rfl⟩, fun h => absurd h (lt_irrefl 0)⟩
  · rw [hcalls, callThen_eq]
    obtain ⟨n, hn, hafter, hform, _⟩ := isAfter_call host start serve fates retry
      Rpc.Method.createIntent.name [merchant, .str text, token] lastId isClosed s
    have hparams : ∀ param ∈ [merchant, .str text, token], IsScalar param := by
      simp only [List.forall_mem_cons]
      exact ⟨hmerchant, Or.inr ⟨.text text, rfl⟩, htoken, nofun⟩
    exact ⟨_, n, hn, hafter, fun hpos => ⟨_, asks_bytesOf hparams (hform hpos),
      fun _ => Rpc.Request.performs_of_operation⟩⟩

end Client

namespace Gateway

variable [Nesting]

/-- A gateway that is asked on a path, with what its clock shows in each attempt. -/
def serverAt (path : String) (clocks : ℕ → Rat) : Link.Server Gateway :=
  fun n body gateway => reply path body { gateway with clock := clocks n }

variable {path : String} (hpath : Http.route? path = some .rpc) {body : List UInt8}
  {request : Rpc.Request} (hasks : Rpc.Asks body request)
  (hcreates : ∀ operation, request.operation = .ok operation →
    Rpc.Method.createIntent.Performs operation) (fates : ℕ → Fate)
include hpath hasks hcreates

/-- A request to create an intent adds one at most. -/
theorem intents_of_create (gateway : Gateway) :
    ∃ created : List Intent,
      (gateway.reply path body).2.store.intents = gateway.store.intents ++ created
        ∧ created.length ≤ 1 := by
  have hself : gateway.withIntents gateway.store.intents = gateway := rfl
  show ∃ created : List Intent,
    (gateway.serve { method := "POST", path, body }).2.store.intents = _ ∧ _
  rcases serve_create_cases hpath hasks gateway hcreates with hsame | ⟨accepted, hadds⟩
  · have hserved := hsame gateway.store.intents
    rw [hself] at hserved
    rw [hserved]
    exact ⟨[], (List.append_nil _).symm, Nat.zero_le 1⟩
  · have hserved := hadds gateway.store.intents
    rw [hself] at hserved
    rw [hserved]
    by_cases hid : (gateway.store.intents.length : Int) < Store.maxId
    · rw [if_pos hid]
      exact ⟨_, rfl, le_refl 1⟩
    · rw [if_neg hid]
      exact ⟨[], (List.append_nil _).symm, Nat.zero_le 1⟩

/-- Each attempt that reaches the gateway adds one intent at most, whatever the clock shows then. -/
theorem intents_after_create (clocks : ℕ → Rat) (gateway : Gateway) (n : ℕ) :
    ∃ created : List Intent,
      ((serverAt path clocks).after fates body gateway n).store.intents
          = gateway.store.intents ++ created
      ∧ created.length ≤ Link.Server.handled fates n := by
  induction n with
  | zero => exact ⟨[], (List.append_nil _).symm, le_refl 0⟩
  | succ n ih =>
    obtain ⟨created, hcreated, hlength⟩ := ih
    rw [Link.Server.after, Link.Server.handled_succ]
    by_cases harrives : (fates n).arrives = true
    · rw [if_pos harrives, if_pos harrives]
      generalize Link.Server.after _ fates body gateway n = before at hcreated ⊢
      obtain ⟨more, hmore, hone⟩ :=
        intents_of_create hpath hasks hcreates { before with clock := clocks n }
      refine ⟨created ++ more, ?_, ?_⟩
      · rw [← List.append_assoc, ← hcreated]
        exact hmore
      · rw [List.length_append]
        omega
    · rw [if_neg harrives, if_neg harrives]
      exact ⟨created, hcreated, hlength⟩

/-- While the clock stands still, none of the attempts that reach the gateway adds an intent, or
each of them does as long as there are ids. -/
theorem after_create_cases {clocks : ℕ → Rat} {gateway : Gateway}
    (hstill : ∀ n, clocks n = gateway.clock) :
    (∀ n, (serverAt path clocks).after fates body gateway n = gateway)
      ∨ ∃ accepted, ∀ n,
        (gateway.store.intents.length + Link.Server.handled fates n : ℤ) ≤ Store.maxId →
        (serverAt path clocks).after fates body gateway n = gateway.withIntents
          (withCopies gateway.store.intents accepted (Link.Server.handled fates n)) := by
  -- with the clock standing still, the gateway is the same but for its intents
  have hserver (n : ℕ) (intents : List Intent) :
      (serverAt path clocks n body (gateway.withIntents intents)).2
        = ((gateway.withIntents intents).serve { method := "POST", path, body }).2 := by
    show (reply path body { gateway.withIntents intents with clock := clocks n }).2 = _
    rw [hstill]
    rfl
  rcases serve_create_cases hpath hasks gateway hcreates with hsame | ⟨accepted, hadds⟩
  · refine Or.inl fun n => ?_
    induction n with
    | zero => rfl
    | succ n ih =>
      rw [Link.Server.after, ih]
      split
      · exact (hserver n gateway.store.intents).trans (hsame gateway.store.intents)
      · rfl
  · refine Or.inr ⟨accepted, fun n => ?_⟩
    induction n with
    | zero =>
      intro _
      show gateway = gateway.withIntents (gateway.store.intents ++ [])
      rw [List.append_nil]
      rfl
    | succ n ih =>
      intro hroom
      rw [Link.Server.handled_succ] at hroom ⊢
      rw [Link.Server.after]
      by_cases harrives : (fates n).arrives = true
      · -- there is an id for the next copy, since there is one for all of them
        rw [if_pos harrives] at hroom
        push_cast at hroom
        have hid : ((withCopies gateway.store.intents accepted
            (Link.Server.handled fates n)).length : ℤ) < Store.maxId := by
          rw [length_withCopies]
          push_cast
          omega
        rw [if_pos harrives, if_pos harrives, ih (by omega), withCopies_succ, hserver, hadds,
          if_pos hid]
      · rw [if_neg harrives] at hroom
        rw [if_neg harrives, if_neg harrives]
        exact ih hroom

end Gateway

namespace Client

variable {ρ τ : Type} [Seconds τ] (policy : Policy) (clock : Rat) (events : List Event)

section

variable [Nesting]

/-- Whatever has happened to a gateway, a query to create an intent over a lossy link adds intents
behind those that are there, and no more than the gateway has handled attempts. While the clock
stands still and there are ids, it adds none, or the same one for each of these attempts. -/
theorem creates_per_handled_attempt {path : String} (hpath : path = "/" ∨ path = "/rpc")
    (host : Link ρ τ) (retry : Retry τ) (fates : ℕ → Fate) (clocks : ℕ → Rat) (lastId : ℕ)
    (isClosed : Bool) (start : ρ) (merchant token : RawText) (gross : Value) :
    let gateway := (Gateway.fresh policy clock).after events
    let endpoint : Endpoint (Wire Gateway ρ) τ :=
      ⟨Wire.link host (Gateway.serverAt path clocks) fates, retry⟩
    let wire := (createIntent endpoint (.ofRaw merchant) gross (.ofRaw token)
      ⟨lastId, isClosed, Wire.idle gateway start⟩).2.surroundings
    let handled := wire.past.countP Fate.arrives
    handled ≤ (retry.maxRetries + 1).toNat
      ∧ (∃ created : List Intent,
          wire.server.store.intents = gateway.store.intents ++ created ∧ created.length ≤ handled)
      ∧ ((∀ n, clocks n = gateway.clock) →
          (gateway.store.intents.length + handled : ℤ) ≤ Store.maxId →
          wire.server = gateway ∨ ∃ accepted, wire.server = gateway.withIntents
            (Gateway.withCopies gateway.store.intents accepted handled)) := by
  intro gateway endpoint wire handled
  have hroute : Http.route? path = some .rpc := if_pos hpath
  obtain ⟨body, n, hn, hafter, hcreates⟩ : ∃ body n, n ≤ (retry.maxRetries + 1).toNat
      ∧ wire.IsAfter (Gateway.serverAt path clocks) fates body gateway n
      ∧ (0 < n → Creates body) := createIntent_wire host retry fates lastId isClosed start
        (.ofRaw merchant) gross (.ofRaw token) (Or.inr ⟨_, rfl⟩) (Or.inr ⟨_, rfl⟩)
  have hhandled : handled = Server.handled fates n := by
    show wire.past.countP Fate.arrives = _
    rw [hafter.past]
    rfl
  have hcount : Server.handled fates n ≤ n := by
    refine (List.countP_le_length ..).trans ?_
    rw [List.length_map, List.length_range]
  rw [hhandled, hafter.server]
  refine ⟨hcount.trans hn, ?_⟩
  cases n with
  | zero =>
    exact ⟨⟨[], (List.append_nil _).symm, le_refl 0⟩, fun _ _ => Or.inl rfl⟩
  | succ n =>
    obtain ⟨request, hasks, hoperation⟩ := hcreates n.succ_pos
    refine ⟨Gateway.intents_after_create hroute hasks hoperation fates clocks gateway (n + 1),
      fun hstill hroom => ?_⟩
    rcases Gateway.after_create_cases hroute hasks hoperation fates hstill with hsame | hadds
    · exact Or.inl (hsame (n + 1))
    · obtain ⟨accepted, hadds⟩ := hadds
      exact Or.inr ⟨accepted, hadds (n + 1) hroom⟩

end

/-- When the first reply is lost and the second is not, the intents that are there then are copies
of one, two at most. -/
theorem creates_per_handled_attempt_unanswered :
    let gateway := (Gateway.fresh .standard 0).after []
    let endpoint : Endpoint (Wire Gateway (Link.Script ℚ)) ℚ :=
      ⟨Wire.link Link.Script.link (Gateway.serverAt "/rpc" fun _ => 0) firstUnanswered, .standard 1⟩
    let wire := (createIntent endpoint
      (.ofRaw (.text "0x1111111111111111111111111111111111111111")) (.int 1)
      (.ofRaw (.text "GORR")) ⟨0, false, Wire.idle gateway (.start [] [])⟩).2.surroundings
    let handled := wire.past.countP Fate.arrives
    handled ≤ 2 ∧ (wire.server = gateway ∨ ∃ accepted, wire.server =
      gateway.withIntents (Gateway.withCopies gateway.store.intents accepted handled)) := by
  -- without the abbreviations, since comparing them would carry out the query
  dsimp only
  obtain ⟨hhandled, _, hcopies⟩ := creates_per_handled_attempt .standard 0 [] (Or.inr rfl)
    Link.Script.link (.standard 1) firstUnanswered (fun _ => 0) 0 false
    (.start [] [] : Link.Script ℚ)
    (.text "0x1111111111111111111111111111111111111111") (.text "GORR") (.int 1)
  refine ⟨hhandled, hcopies (fun _ => rfl) ?_⟩
  generalize List.countP _ _ = handled at hhandled ⊢
  have htwo : handled ≤ 2 := hhandled
  have hmax : (2 : ℤ) ≤ Store.maxId := by decide
  show ((0 : ℕ) + handled : ℤ) ≤ Store.maxId
  push_cast
  omega

/-- A call whose first reply is lost is attempted once more, if no sleep is refused. -/
theorem isAfter_call_firstUnanswered [Nesting] {σ : Type} {serve : Server σ} {s : σ}
    {host : Link ρ τ} (hsleeps : ∀ delay s, (host.sleep delay s).1 = .ok ()) (start : ρ)
    {method : String} {params : List Value} (hform : Writable (requestBody method params 1)) :
    (call ⟨Wire.link host serve firstUnanswered, .standard 1⟩ method params
      ⟨0, false, Wire.idle s start⟩).2.surroundings.IsAfter serve firstUnanswered
        (Wire.bytesOf (requestBody method params 1)) s 2 := by
  obtain ⟨n, hn, hafter, _, hmore⟩ :=
    isAfter_call host start serve firstUnanswered (.standard 1) method params 0 false s
  have hlost : ∀ i < 1, Retry.IsWorthMore (taken (serve.received firstUnanswered
      (Wire.bytesOf (requestBody method params 1)) s i)) := by
    intro i hi
    obtain rfl : i = 0 := by omega
    exact ⟨_, rfl, rfl⟩
  have hsecond : 1 < n := hmore ⟨zero_le_one, rfl, hform⟩ hsleeps 1 (le_refl _) (by decide) hlost
  have htwo : n ≤ 2 := hn
  obtain rfl : n = 2 := by omega
  exact hafter

/-- The server is asked twice to create one intent when its first reply is lost. -/
theorem server_createIntent_firstUnanswered [Nesting] {σ : Type} (serve : Server σ) (s : σ)
    {host : Link ρ τ} (hsleeps : ∀ delay s, (host.sleep delay s).1 = .ok ()) (start : ρ)
    {merchant token : Value} (hform : Writable
      (requestBody Rpc.Method.createIntent.name [merchant, .str "1", token] 1)) :
    let body :=
      Wire.bytesOf (requestBody Rpc.Method.createIntent.name [merchant, .str "1", token] 1)
    (createIntent ⟨Wire.link host serve firstUnanswered, .standard 1⟩ merchant (.int 1) token
      ⟨0, false, Wire.idle s start⟩).2.surroundings.server
        = (serve 1 body (serve 0 body s).2).2 := by
  intro body
  have hcalls : createIntent ⟨Wire.link host serve firstUnanswered, .standard 1⟩ merchant (.int 1)
      token = callThen ⟨Wire.link host serve firstUnanswered, .standard 1⟩
        Rpc.Method.createIntent.name [merchant, .str "1", token]
        (checked Rpc.Method.createIntent.name Remote.CreatedIntent.decode) := by
    have hshown : (Value.int 1).shown = .ok "1" := (Value.shown_int 1).trans rfl
    unfold createIntent
    simp [hshown]
  rw [hcalls, callThen_eq]
  exact (isAfter_call_firstUnanswered hsleeps start hform).server

/-- One query adds two intents when the reply to its first attempt is lost. -/
theorem not_created_once_unanswered :
    let gateway := Gateway.fresh .standard 0
    let endpoint : Endpoint (Wire Gateway (Link.Script ℚ)) ℚ :=
      ⟨Wire.link Link.Script.link (Gateway.serverAt "/rpc" fun _ => 0) firstUnanswered, .standard 1⟩
    let wire := (createIntent endpoint (.str "0x1111111111111111111111111111111111111111") (.int 1)
      (.str "GORR") ⟨0, false, Wire.idle gateway (.start [] [])⟩).2.surroundings
    ¬ wire.server.store.intents.length ≤ gateway.store.intents.length + 1 := by
  have hform : Writable (requestBody Rpc.Method.createIntent.name
      [.str "0x1111111111111111111111111111111111111111", .str "1", .str "GORR"] 1) := by
    refine Json.writable_iff.mpr ?_
    decide +kernel
  have hparams : ∀ param ∈ [Value.str "0x1111111111111111111111111111111111111111", .str "1",
      .str "GORR"], IsScalar param := by
    simpa using ⟨Or.inr ⟨.text _, rfl⟩, Or.inr ⟨.text _, rfl⟩, Or.inr ⟨.text _, rfl⟩⟩
  have hoperation : (Rpc.Request.mk Rpc.Method.createIntent.name
      [.str "0x1111111111111111111111111111111111111111", .str "1", .str "GORR"]
      (some (.number (1 : ℕ)))).operation
        = .ok (.create (.str "0x1111111111111111111111111111111111111111") (.int 1) (.str "GORR")
          .null .null none) := rfl
  have hroute : Http.route? "/rpc" = some .rpc := rfl
  have hserve := Gateway.serve_of_operation hroute (asks_bytesOf hparams hform) hoperation
  have htwice := server_createIntent_firstUnanswered (Gateway.serverAt "/rpc" fun _ => 0)
    (Gateway.fresh .standard 0) Link.Script.sleep_taken (.start [] [] : Link.Script ℚ) hform
  dsimp only at htwice ⊢
  rw [htwice]
  generalize Wire.bytesOf _ = body at hserve ⊢
  show ¬ ((Gateway.serve _ { method := "POST", path := "/rpc", body }).2).store.intents.length ≤ 1
  rw [hserve]
  show ¬ (Gateway.perform _ { (Gateway.serve _ { method := "POST", path := "/rpc", body }).2
    with clock := 0 }).2.store.intents.length ≤ 1
  rw [hserve]
  decide +kernel

end Client

end IntentGateway
