import IntentGateway.Proofs.Client.Reply

/-! # What a client promises

Each query but two is one call, and ends with an answer of its kind or in a promised failure. The
exceptions are those of the call, and arguments that cannot be shown or are not what they should be.
-/

namespace IntentGateway.Client

open Failure (OnlyPromised not_onlyPromised_of_reason? map_eq_ok map_eq_error only_ok only_error
  only_map exists_of_not_only)

variable {τ : Type} [Seconds τ]

/-! ## Queries that are one call -/

/-- A call, and what is made of its result. -/
structure SingleCall where
  method : String
  params : List Value
  use : Value → Except Failure Answer

/-- A call whose result has a shape. -/
def SingleCall.asking {α : Type} (method : String) (params : List Value)
    (decode : Schema.Decoder α) (answer : α → Answer) : SingleCall where
  method := method
  params := params
  use result := (checked method decode result).map answer

/-- The amount of a new intent as text. -/
def amountText [Nesting] (gross : Value) : Except Failure String := do
  match gross with
  | .int n =>
    if 0 < n then gross.shown
    else .error (.plain .invalidAmount [("gross_amount", .str (← gross.shown))])
  | v => .error (.plain .invalidAmount [("gross_amount", .str (← v.shown))])

/-- The block that a result holds. -/
def blockOf [Nesting] (number result : Value) : Except Failure Remote.Block := do
  match result with
  | .null =>
    .error (.worded .malformedResponse
      ("Block " ++ (← number.shown) ++ " is not available") [])
  | v => checked "eth_getBlockByNumber" Remote.Block.decode v

/-- The receipt that a result holds. -/
def receiptOf (txHash : Value) : Value → Except Failure Remote.Receipt
  | .null => .error (.plain .notIndexed [("tx_hash", txHash)])
  | v => checked "eth_getTransactionReceipt" Remote.Receipt.decode v

/-- The one call that a query is, unless its arguments are refused. Waiting for a receipt is many
calls, and closing is none. -/
def Query.single? [Nesting] : Query τ → Option (Except Failure SingleCall)
  | .call method params => some (.ok ⟨method, params, fun result => .ok (.raw result)⟩)
  | .createIntent merchant gross token =>
    some ((amountText gross).map fun text =>
      .asking Rpc.Method.createIntent.name [merchant, .str text, token]
        Remote.CreatedIntent.decode .created)
  | .getIntent id =>
    some (.ok (.asking Rpc.Method.getIntent.name [id] Remote.Intent.decode .intent))
  | .listIntents merchant =>
    some (.ok (.asking Rpc.Method.listMerchantPayments.name [merchant]
      (Schema.listOf Remote.Intent.decode) .intents))
  | .payIntent id payer =>
    some (.ok (.asking Rpc.Method.payInvoice.name [id, payer] Remote.Intent.decode .intent))
  | .refundIntent id =>
    some (.ok (.asking Rpc.Method.refundInvoice.name [id] Remote.Intent.decode .intent))
  | .getBalances address =>
    some (.ok (.asking Rpc.Method.getBalances.name [address] Remote.Balances.decode .balances))
  | .headNumber => some (.ok (.asking "eth_blockNumber" [] (Amount.quantity []) .number))
  | .getBlock number full =>
    some ((blockNumberTexts number).map fun hex =>
      ⟨"eth_getBlockByNumber", [.str hex, full], fun result => (blockOf number result).map .block⟩)
  | .getReceipt txHash =>
    some (.ok ⟨"eth_getTransactionReceipt", [txHash],
      fun result => (receiptOf txHash result).map .receipt⟩)
  | .awaitReceipt .. => none
  | .close => none

section Queries

variable {σ : Type} (endpoint : Endpoint σ τ)

theorem map_callThen [Nesting] {α β : Type} (f : α → β) (method : String) (params : List Value)
    (use : Value → Except Failure α) (connection : Connection σ) :
    Action.map f (callThen endpoint method params use) connection =
      callThen endpoint method params (fun result => (use result).map f) connection := by
  rw [Action.map, callThen_eq, callThen_eq]
  rcases call endpoint method params connection with ⟨failure | result, connection'⟩
  · rfl
  · simp only [bind, Except.bind]
    cases use result <;> rfl

theorem createIntent_eq [Nesting] (merchant gross token : Value) (connection : Connection σ) :
    createIntent endpoint merchant gross token connection =
      match amountText gross with
      | .error failure => (.error failure, connection)
      | .ok text =>
        callThen endpoint Rpc.Method.createIntent.name [merchant, .str text, token]
          (checked Rpc.Method.createIntent.name Remote.CreatedIntent.decode) connection :=
  rfl

theorem getBlock_eq [Nesting] (number full : Value) (connection : Connection σ) :
    getBlock endpoint number full connection =
      match blockNumberTexts number with
      | .error failure => (.error failure, connection)
      | .ok hex =>
        callThen endpoint "eth_getBlockByNumber" [.str hex, full] (blockOf number) connection :=
  rfl

/-- Makes the call that has been prepared. Nothing is sent if its arguments have been refused. -/
def carryOut [Nesting] : Except Failure SingleCall → Action (Connection σ) Answer
  | .ok call => callThen endpoint call.method call.params call.use
  | .error failure => fun connection => (.error failure, connection)

/-- A query that is one call makes that call. -/
theorem perform_of_single [Nesting] {query : Query τ} {prepared : Except Failure SingleCall}
    (h : query.single? = some prepared) (connection : Connection σ) :
    perform endpoint query connection = carryOut endpoint prepared connection := by
  cases query with
  | call method params =>
    cases h
    rw [perform, Action.map, carryOut, callThen_eq]
    rcases Client.call endpoint method params connection with ⟨failure | result, connection'⟩
    · rfl
    · rfl
  | createIntent merchant gross token =>
    cases h
    rw [perform, Action.map, createIntent_eq]
    cases amountText gross with
    | error failure => rfl
    | ok text => exact map_callThen endpoint _ _ _ _ connection
  | getBlock number full =>
    cases h
    rw [perform, Action.map, getBlock_eq]
    cases blockNumberTexts number with
    | error failure => rfl
    | ok hex => exact map_callThen endpoint _ _ _ _ connection
  | awaitReceipt txHash timeout interval => cases h
  | close => cases h
  | _ =>
    cases h
    exact map_callThen endpoint _ _ _ _ connection

end Queries

/-! ### Arguments and results -/

/-- What is told with a value in it is told as promised, if the value can be shown. -/
theorem onlyPromised_shown_bind [Nesting] {α : Type} {v : Value} {tell : String → Except Failure α}
    (h : ∀ s, OnlyPromised (tell s)) :
    OnlyPromised (v.shown >>= tell) ↔ ∃ s, v.shown = .ok s := by
  cases hshown : v.shown with
  | ok s => exact iff_of_true (h s) ⟨s, rfl⟩
  | error failure =>
    refine iff_of_false (not_onlyPromised_of_reason? (Value.reason?_of_shown_eq_error hshown)) ?_
    rintro ⟨_, heq⟩
    cases heq

theorem onlyPromised_checked {α : Type} (method : String) (decode : Schema.Decoder α)
    (result : Value) : OnlyPromised (checked method decode result) := by
  rw [checked]
  cases decode result with
  | valid a => exact only_ok a
  | invalid issues => exact only_error.mpr (Or.inr rfl)

/-- An amount is taken or refused as promised, if it can be shown. -/
theorem onlyPromised_amountText_iff [Nesting] {gross : Value} :
    OnlyPromised (amountText gross) ↔ ∃ s, gross.shown = .ok s := by
  have hrefuse : OnlyPromised (gross.shown >>= fun s => (.error (.plain .invalidAmount
      [("gross_amount", .str s)]) : Except Failure String)) ↔ ∃ s, gross.shown = .ok s :=
    onlyPromised_shown_bind fun _ => only_error.mpr (Or.inr rfl)
  have htake : OnlyPromised (gross.shown >>= pure) ↔ ∃ s, gross.shown = .ok s :=
    onlyPromised_shown_bind only_ok
  rw [bind_pure] at htake
  rw [amountText.eq_def]
  split
  · split
    · exact htake
    · exact hrefuse
  · exact hrefuse

/-- A block number is taken if it is an integer. -/
theorem onlyPromised_blockNumberTexts_iff {number : Value} :
    OnlyPromised (blockNumberTexts number) ↔ ∃ n, number.asInteger = .ok n := by
  rw [blockNumberTexts]
  cases number.asInteger with
  | ok n => exact iff_of_true (only_ok _) ⟨n, rfl⟩
  | error e =>
    exact iff_of_false (not_onlyPromised_of_reason? rfl) fun ⟨_, h⟩ => nomatch h

/-- A block that is not there is told as promised, if its number can be shown. -/
theorem onlyPromised_blockOf_iff [Nesting] {number result : Value} :
    OnlyPromised (blockOf number result) ↔ (result = .null → ∃ s, number.shown = .ok s) := by
  rw [blockOf.eq_def]
  split
  · rw [forall_prop_of_true rfl]
    exact onlyPromised_shown_bind fun _ => only_error.mpr (Or.inr rfl)
  · rename_i hnull
    exact iff_of_true (onlyPromised_checked _ _ _) fun h => absurd h hnull

theorem onlyPromised_receiptOf (txHash result : Value) :
    OnlyPromised (receiptOf txHash result) := by
  rw [receiptOf.eq_def]
  split
  · exact only_error.mpr (Or.inr rfl)
  · exact onlyPromised_checked _ _ _

/-! ### The promise -/

/-- Whether an answer is of the kind that a query gives. -/
def Answer.IsOf : Query τ → Answer → Prop
  | .call .., .raw _ => True
  | .createIntent .., .created _ => True
  | .getIntent _, .intent _ => True
  | .listIntents _, .intents _ => True
  | .payIntent .., .intent _ => True
  | .refundIntent _, .intent _ => True
  | .getBalances _, .balances _ => True
  | .headNumber, .number _ => True
  | .getBlock .., .block _ => True
  | .getReceipt _, .receipt _ => True
  | .awaitReceipt .., .receipt _ => True
  | .close, .nothing => True
  | _, _ => False

/-- Whether a query ends as promised: with an answer of its kind, or with a promised failure. -/
def Promised (query : Query τ) : Except Failure Answer → Prop
  | .ok answer => answer.IsOf query
  | .error failure => failure.IsPromised

/-- What makes a query end in a way that is not promised. -/
inductive Escapes [Nesting] (retry : Retry τ) (connection : Connection (Link.Script τ)) :
    Query τ → Prop where
  /-- The amount of a new intent cannot be shown. -/
  | amount {merchant gross token : Value} (h : ∀ s, gross.shown ≠ .ok s) :
      Escapes retry connection (.createIntent merchant gross token)
  /-- The number of a block is no integer. -/
  | number {number full : Value} (h : ∀ n, number.asInteger ≠ .ok n) :
      Escapes retry connection (.getBlock number full)
  /-- A block is not there, and its number cannot be shown. -/
  | unavailable {number full : Value} {hex : String} (hnumber : blockNumberTexts number = .ok hex)
      (hresult : (call ⟨Link.Script.link, retry⟩ "eth_getBlockByNumber" [.str hex, full]
        connection).1 = .ok .null)
      (h : ∀ s, number.shown ≠ .ok s) : Escapes retry connection (.getBlock number full)
  /-- The call escapes. -/
  | call {query : Query τ} {single : SingleCall} (hsingle : query.single? = some (.ok single))
      (h : CallEscapes retry single.method single.params connection) :
      Escapes retry connection query

section Single

omit [Seconds τ]

variable {query : Query τ}

/-- What a query gives that is one call is of its kind. -/
theorem isOf_of_use [Nesting] {single : SingleCall} (h : query.single? = some (.ok single))
    {result : Value} {answer : Answer} (huse : single.use result = .ok answer) :
    answer.IsOf query := by
  cases query with
  | call method params =>
    cases h
    cases huse
    trivial
  | createIntent merchant gross token =>
    obtain ⟨text, _, rfl⟩ := map_eq_ok (Option.some.inj h)
    obtain ⟨_, _, rfl⟩ := map_eq_ok huse
    trivial
  | getBlock number full =>
    obtain ⟨hex, _, rfl⟩ := map_eq_ok (Option.some.inj h)
    obtain ⟨_, _, rfl⟩ := map_eq_ok huse
    trivial
  | awaitReceipt txHash timeout interval => cases h
  | close => cases h
  | _ =>
    cases h
    obtain ⟨_, _, rfl⟩ := map_eq_ok huse
    trivial

/-- A result of the right kind is promised if its failure is. -/
theorem promised_iff_onlyPromised {result : Except Failure Answer}
    (h : ∀ answer, result = .ok answer → answer.IsOf query) :
    Promised query result ↔ OnlyPromised result := by
  cases result with
  | ok answer => exact iff_of_true (h answer rfl) (only_ok answer)
  | error failure =>
    rw [Promised]
    exact only_error.symm

/-- What is made of a result is promised, unless it is a block that is not there. -/
theorem onlyPromised_use_or_unavailable [Nesting] {single : SingleCall}
    (h : query.single? = some (.ok single)) (result : Value) :
    OnlyPromised (single.use result)
      ∨ ∃ number full hex, query = .getBlock number full ∧ blockNumberTexts number = .ok hex
        ∧ single.method = "eth_getBlockByNumber" ∧ single.params = [.str hex, full]
        ∧ result = .null ∧ ∀ s, number.shown ≠ .ok s := by
  cases query with
  | call method params =>
    cases h
    exact Or.inl (only_ok _)
  | createIntent merchant gross token =>
    obtain ⟨text, _, rfl⟩ := map_eq_ok (Option.some.inj h)
    exact Or.inl (only_map.mpr (onlyPromised_checked _ _ result))
  | getBlock number full =>
    obtain ⟨hex, hhex, rfl⟩ := map_eq_ok (Option.some.inj h)
    by_cases hblock : OnlyPromised (blockOf number result)
    · exact Or.inl (only_map.mpr hblock)
    · rw [onlyPromised_blockOf_iff, Classical.not_imp, not_exists] at hblock
      exact Or.inr ⟨number, full, hex, rfl, hhex, rfl, rfl, hblock⟩
  | getReceipt txHash =>
    cases h
    exact Or.inl (only_map.mpr (onlyPromised_receiptOf txHash result))
  | awaitReceipt txHash timeout interval => cases h
  | close => cases h
  | _ =>
    cases h
    exact Or.inl (only_map.mpr (onlyPromised_checked _ _ result))

theorem single?_getBlock [Nesting] {number : Value} {hex : String}
    (h : blockNumberTexts number = .ok hex) (full : Value) :
    (Query.getBlock number full : Query τ).single? = some (.ok ⟨"eth_getBlockByNumber",
      [.str hex, full], fun result => (blockOf number result).map .block⟩) := by
  rw [Query.single?, h]
  rfl

end Single

section Promise

variable {retry : Retry τ} {connection : Connection (Link.Script τ)} {query : Query τ}

/-- A query escapes if its arguments are refused in a way that is not promised, if its call escapes,
or if what is made of the result is not promised. -/
theorem escapes_iff [Nesting] :
    Escapes retry connection query ↔
      (∃ failure, query.single? = some (.error failure) ∧ ¬ failure.IsPromised)
        ∨ ∃ single, query.single? = some (.ok single)
          ∧ (CallEscapes retry single.method single.params connection
            ∨ ∃ result, (call ⟨Link.Script.link, retry⟩ single.method single.params connection).1
                = .ok result ∧ ¬ OnlyPromised (single.use result)) := by
  constructor
  · intro h
    cases h with
    | @amount merchant gross token h =>
      obtain ⟨failure, hfailure, hunpromised⟩ := exists_of_not_only
        fun hp => (onlyPromised_amountText_iff.mp hp).elim fun s hs => h s hs
      refine Or.inl ⟨failure, ?_, hunpromised⟩
      rw [Query.single?, hfailure]
      rfl
    | @number number full h =>
      obtain ⟨failure, hfailure, hunpromised⟩ := exists_of_not_only
        fun hp => (onlyPromised_blockNumberTexts_iff.mp hp).elim fun n hn => h n hn
      refine Or.inl ⟨failure, ?_, hunpromised⟩
      rw [Query.single?, hfailure]
      rfl
    | @unavailable number full hex hnumber hresult h =>
      refine Or.inr ⟨_, single?_getBlock hnumber full, Or.inr ⟨_, hresult, fun hpromised => ?_⟩⟩
      obtain ⟨s, hs⟩ := onlyPromised_blockOf_iff.mp (only_map.mp hpromised) rfl
      exact h s hs
    | call hsingle h => exact Or.inr ⟨_, hsingle, Or.inl h⟩
  · rintro (⟨failure, hsingle, hunpromised⟩ | ⟨single, hsingle, hescapes | ⟨result, hresult, huse⟩⟩)
    · -- only these two queries refuse arguments before they call
      cases query with
      | createIntent merchant gross token =>
        have hamount := map_eq_error (Option.some.inj hsingle)
        refine .amount fun s hs => hunpromised ?_
        exact onlyPromised_amountText_iff.mpr ⟨s, hs⟩ failure hamount
      | getBlock number full =>
        have hnumber := map_eq_error (Option.some.inj hsingle)
        refine .number fun n hn => hunpromised ?_
        exact onlyPromised_blockNumberTexts_iff.mpr ⟨n, hn⟩ failure hnumber
      | _ => cases hsingle
    · exact .call hsingle hescapes
    · rcases onlyPromised_use_or_unavailable hsingle result with
        hpromised | ⟨number, full, hex, rfl, hhex, hmethod, hparams, rfl, hshown⟩
      · exact absurd hpromised huse
      · rw [hmethod, hparams] at hresult
        exact .unavailable hhex hresult hshown

/-- A query that is one call ends as promised, unless it escapes: over an open connection, into a
script whose requests fail only in the ways of requests. Only with more attempts than there are
delays can those overflow. And whatever JSON an endpoint sends as its error is told as a refusal
under the protocol, unless it is told as no refusal. -/
theorem promised_iff [Nesting] (retry : Retry τ) {connection : Connection (Link.Script τ)}
    (hopen : connection.isClosed = false) (hscript : connection.surroundings.FailsByHttp)
    {query : Query τ} (hquery : query.single?.isSome = true) :
    (Promised query (perform ⟨Link.Script.link, retry⟩ query connection).1 ↔
        ¬ Escapes retry connection query)
      ∧ (∀ method params, replyTo retry method params connection = .error .delayOverflow →
          Backoff.attemptLimit < retry.maxRetries)
      ∧ ∀ text error, Json.read text = .ok error →
          ((Refusal.received error).isRefusalUnder .protocol = true ↔ ¬ Refusal.Untold error) := by
  refine ⟨?_, ?_, ?_⟩
  · obtain ⟨prepared, hprepared⟩ := Option.isSome_iff_exists.mp hquery
    rw [perform_of_single _ hprepared, escapes_iff, hprepared]
    cases prepared with
    | error failure =>
      change failure.IsPromised ↔ _
      simp
    | ok single =>
      rw [carryOut, callThen_eq]
      refine (promised_iff_onlyPromised fun answer hanswer => ?_).trans
        (Failure.only_bind.trans ?_)
      · obtain ⟨result, _, huse⟩ := Failure.bind_eq_ok hanswer
        exact isOf_of_use hprepared huse
      · refine (and_congr_left' (onlyPromised_call_iff retry single.method single.params hopen
          hscript)).trans ?_
        simp
  · intro method params h
    rcases replyTo_cases retry method params hopen hscript with
      ⟨_, hreply⟩ | ⟨_, _, e, hreply⟩ | ⟨_, _, hfails⟩
    · rw [h] at hreply
      cases hreply
    · rw [h] at hreply
      cases e <;> cases hreply
    · exact (hfails _ h).elim False.elim And.right
  · intro text error hread
    rcases Refusal.received_cases (Json.readable_of_read hread) (Json.within_of_read hread) with
      ⟨huntold, hreason⟩ | ⟨htold, h⟩
    · refine iff_of_false ?_ fun h => h huntold
      simp [Failure.isRefusalUnder, hreason]
    · exact iff_of_true h htold

end Promise

/-- An endpoint that answers a single request, with a status of success. -/
def replying (body : String) : Connection (Link.Script ℚ) :=
  .open (.start [⟨none, fun _ => .ok ⟨200, Text.utf8Bytes body.toList⟩⟩] [])

/-- The number of the latest block is given as promised when the endpoint gives it. -/
theorem promised_headNumber :
    Promised (.headNumber : Query ℚ) (perform ⟨Link.Script.link, .standard 0⟩ .headNumber
      (replying "\x7b\"id\":1,\"result\":\"0x10\"\x7d")).1 := by
  have hscript :
      (replying "\x7b\"id\":1,\"result\":\"0x10\"\x7d").surroundings.FailsByHttp := by
    intro reply hmem request failure h
    obtain rfl := List.mem_singleton.mp hmem
    cases h
  have hreply : replyTo (.standard 0) "eth_blockNumber" []
      (replying "\x7b\"id\":1,\"result\":\"0x10\"\x7d")
        = .ok ⟨200, Text.utf8Bytes "\x7b\"id\":1,\"result\":\"0x10\"\x7d".toList⟩ := rfl
  have hread : Json.read (Text.utf8Bytes "\x7b\"id\":1,\"result\":\"0x10\"\x7d".toList)
      = .ok (.map [("id", .int 1), ("result", .str "0x10")]) := rfl
  refine (promised_iff (.standard 0) rfl hscript rfl).1.mpr ?_
  intro hescapes
  cases hescapes with
  | call hsingle h =>
    cases hsingle
    have hspoils := (callEscapes_iff_of_ok (by decide) ⟨_, rfl⟩ hreply).mp h
    obtain ⟨payload, heq, _, error, herror, _⟩ := (spoils_iff hread).mp hspoils
    cases heq
    cases herror

/-- An error with the number of bad parameters and no code is told as no refusal. -/
theorem not_promised_getIntent_invalidParams :
    ¬ Promised (.getIntent (.int 1) : Query ℚ) (perform ⟨Link.Script.link, .standard 0⟩
      (.getIntent (.int 1))
      (replying "\x7b\"id\":1,\"error\":\x7b\"code\":-32602,\"message\":\"x\"\x7d\x7d")).1 := by
  have hresult : (perform ⟨Link.Script.link, .standard 0⟩ (.getIntent (.int 1))
      (replying "\x7b\"id\":1,\"error\":\x7b\"code\":-32602,\"message\":\"x\"\x7d\x7d")).1
        = .error (.misuse (.codeNotTaken .invalidParams)) := rfl
  rw [hresult]
  exact Failure.not_isPromised_of_reason? rfl

end IntentGateway.Client
