import IntentGateway.Proofs.Client.Promise
import IntentGateway.Proofs.Client.Round

/-! # Sessions of a client

A client carries out queries one after the other. Each query makes rounds: one for its call, one for
each poll, or none if its arguments are refused. The rounds of a session follow one another without
a gap in their ids, and nothing is sent but their requests.
-/

namespace IntentGateway.Client

/-! ## Rounds in a row -/

section Conducts

variable {τ : Type}

/-- Whether nothing is sent and no id is used up between two states of a connection. -/
structure Idles (before after : Connection (Link.Script τ)) : Prop where
  lastId : after.lastId = before.lastId
  requests : after.surroundings.requests = before.surroundings.requests
  replies : after.surroundings.replies = before.surroundings.replies

/-- A connection after a wait. -/
def slept [Seconds τ] (delay : τ) (connection : Connection (Link.Script τ)) :
    Connection (Link.Script τ) :=
  { connection with surroundings := (Link.Script.sleep delay connection.surroundings).2 }

theorem idles_slept [Seconds τ] (delay : τ) (connection : Connection (Link.Script τ)) :
    Idles connection (slept delay connection) :=
  ⟨rfl, rfl, rfl⟩

variable [Nesting]

/-- Whether proper rounds lead from one state of a connection to another, one after the other and
with waits in between. -/
inductive Conducts (retry : Retry τ) :
    List Round → Connection (Link.Script τ) → Connection (Link.Script τ) → Prop
  | none (connection : Connection (Link.Script τ)) : Conducts retry [] connection connection
  | wait {rounds : List Round} {before between after : Connection (Link.Script τ)}
      (h : Idles before between) (rest : Conducts retry rounds between after) :
      Conducts retry rounds before after
  | round {round : Round} {rounds : List Round} {before between after : Connection (Link.Script τ)}
      (h : round.Leads before between) (hproper : round.Proper retry)
      (rest : Conducts retry rounds between after) :
      Conducts retry (round :: rounds) before after

namespace Conducts

variable {retry : Retry τ} {rounds more : List Round}
  {first second third : Connection (Link.Script τ)}

theorem single {round : Round} (h : round.Leads first second) (hproper : round.Proper retry) :
    Conducts retry [round] first second :=
  .round h hproper (.none second)

theorem append (h : Conducts retry rounds first second) (h' : Conducts retry more second third) :
    Conducts retry (rounds ++ more) first third := by
  induction h with
  | none connection => exact h'
  | wait hidle rest ih => exact .wait hidle (ih h')
  | round hleads hproper rest ih => exact .round hleads hproper (ih h')

theorem proper (h : Conducts retry rounds first second) : ∀ round ∈ rounds, round.Proper retry := by
  induction h with
  | none connection => exact nofun
  | wait hidle rest ih => exact ih
  | round hleads hproper rest ih => exact List.forall_mem_cons.mpr ⟨hproper, ih⟩

/-- Each round has the id after that of the round before it. -/
theorem ids (h : Conducts retry rounds first second) :
    rounds.map (·.id) = List.range' (first.lastId + 1) rounds.length := by
  induction h with
  | none connection => rfl
  | wait hidle rest ih => rw [ih, hidle.lastId]
  | round hleads hproper rest ih =>
    rw [List.map_cons, ih, List.length_cons, List.range'_succ, hleads.lastId, hleads.id]

/-- Each round uses one id up. -/
theorem lastId (h : Conducts retry rounds first second) :
    second.lastId = first.lastId + rounds.length := by
  induction h with
  | none connection => rfl
  | wait hidle rest ih => rw [ih, hidle.lastId]
  | round hleads hproper rest ih =>
    rw [ih, hleads.lastId, hleads.id, List.length_cons]
    omega

/-- Nothing is sent but the requests of the rounds. -/
theorem requests (h : Conducts retry rounds first second) :
    second.surroundings.requests
      = first.surroundings.requests ++ rounds.flatMap Round.requests := by
  induction h with
  | none connection => exact (List.append_nil _).symm
  | wait hidle rest ih => rw [ih, hidle.requests]
  | round hleads hproper rest ih =>
    rw [ih, hleads.requests, List.append_assoc, List.flatMap_cons]

/-- What is left of a script fails in the ways of requests if the script does. -/
theorem failsByHttp (h : Conducts retry rounds first second)
    (hscript : first.surroundings.FailsByHttp) : second.surroundings.FailsByHttp := by
  induction h with
  | none connection => exact hscript
  | wait hidle rest ih =>
    refine ih (hscript.of_drop (n := 0) ?_)
    rw [hidle.replies, List.drop_zero]
  | round hleads hproper rest ih => exact ih (hscript.of_drop hleads.replies)

end Conducts

end Conducts

/-! ## The rounds of queries -/

/-- Whether a poll for the receipt of a transfer finds that the transfer is not known yet. -/
def Round.FindsNothing (round : Round) (txHash : Value) : Prop :=
  ∃ failure, (round.result >>= receiptOf txHash) = .error failure ∧ isNotIndexed failure = true

/-- Whether rounds are the polls for the receipt of a transfer, and an answer is what these come to.
Another poll follows only one that finds nothing, unless the delays between the polls overflow. -/
inductive Polls (txHash : Value) : Except Failure Remote.Receipt → List Round → Prop
  | last {round : Round} (h : round.Calls "eth_getTransactionReceipt" [txHash]) :
      Polls txHash (round.result >>= receiptOf txHash) [round]
  | overflow {round : Round} (h : round.Calls "eth_getTransactionReceipt" [txHash])
      (hnothing : round.FindsNothing txHash) : Polls txHash (.error .delayOverflow) [round]
  | again {round : Round} {answer : Except Failure Remote.Receipt} {rounds : List Round}
      (h : round.Calls "eth_getTransactionReceipt" [txHash])
      (hnothing : round.FindsNothing txHash) (rest : Polls txHash answer rounds) :
      Polls txHash answer (round :: rounds)

/-- The delay between two polls fails only by overflowing. -/
theorem pollDelay_eq_error {τ : Type} [Seconds τ] {interval left : τ} {attempt : ℕ}
    {failure : Failure}
    (h : pollDelay interval left attempt = .error failure) : failure = .delayOverflow := by
  unfold pollDelay at h
  dsimp only at h
  cases hdelay : Backoff.delay attempt interval (Seconds.mul interval (Seconds.ofRat 8)) with
  | error other =>
    rw [hdelay] at h
    cases h
    exact (Backoff.delay_eq_error hdelay).1
  | ok delay =>
    rw [hdelay] at h
    cases h

theorem blockNumberTexts_eq_error {number : Value} (h : ∀ n, number.asInteger ≠ .ok n) :
    ∃ failure, blockNumberTexts number = .error failure := by
  unfold blockNumberTexts
  cases hnumber : number.asInteger with
  | ok n => exact absurd hnumber (h n)
  | error e => exact ⟨_, rfl⟩

section

variable [Nesting]

/-- Whether a query makes rounds, and an answer is what these come to: one round for its call, none
if the client itself refuses the arguments of the call, and one for each poll. -/
inductive Query.Makes {τ : Type} : Query τ → Except Failure Answer → List Round → Prop
  | refused {query : Query τ} {failure : Failure} (h : query.single? = some (.error failure)) :
      query.Makes (.error failure) []
  | single {query : Query τ} {single : SingleCall} {round : Round}
      (h : query.single? = some (.ok single)) (hround : round.Calls single.method single.params) :
      query.Makes (round.result >>= single.use) [round]
  | polls {txHash : Value} {timeout interval : τ} {answer : Except Failure Remote.Receipt}
      {rounds : List Round} (h : Polls txHash answer rounds) :
      Makes (.awaitReceipt txHash timeout interval) (answer.map .receipt) rounds
  | close : Makes .close (.ok .nothing) []

/-- Whether the client itself refuses the arguments of a query: an amount that is no integer or not
positive, or a block number that is no integer. -/
inductive Query.IsRefused {τ : Type} : Query τ → Prop
  | amount {merchant gross token : Value} (h : ∀ n, gross = .int n → n ≤ 0) :
      IsRefused (.createIntent merchant gross token)
  | blockNumber {number full : Value} (h : ∀ n, number.asInteger ≠ .ok n) :
      IsRefused (.getBlock number full)

/-- Carries out queries one after the other, whatever the ones before have come to. -/
def performAll {σ τ : Type} [Seconds τ] (endpoint : Endpoint σ τ) :
    List (Query τ) → Connection σ → List (Except Failure Answer) × Connection σ
  | [], connection => ([], connection)
  | query :: queries, connection =>
    let (answer, connection') := perform endpoint query connection
    let (answers, connection'') := performAll endpoint queries connection'
    (answer :: answers, connection'')

/-- Whether queries make rounds, and answers are what these come to. -/
inductive Made {τ : Type} :
    List (Query τ) → List (Except Failure Answer) → List Round → Prop
  | nil : Made [] [] []
  | cons {query : Query τ} {queries : List (Query τ)} {answer : Except Failure Answer}
      {answers : List (Except Failure Answer)} {rounds more : List Round}
      (h : query.Makes answer rounds) (rest : Made queries answers more) :
      Made (query :: queries) (answer :: answers) (rounds ++ more)

section Queries

variable {τ : Type} [Seconds τ]

theorem amountText_eq_error {gross : Value} (h : ∀ n, gross = .int n → n ≤ 0) :
    ∃ failure, amountText gross = .error failure := by
  cases hamount : amountText gross with
  | error failure => exact ⟨failure, rfl⟩
  | ok text =>
    rw [amountText.eq_def] at hamount
    split at hamount
    · rename_i n
      rw [if_neg (not_lt.mpr (h n rfl))] at hamount
      obtain ⟨_, _, hrefused⟩ := Failure.bind_eq_ok hamount
      cases hrefused
    · obtain ⟨_, _, hrefused⟩ := Failure.bind_eq_ok hamount
      cases hrefused

omit [Seconds τ] in
/-- No call is prepared for arguments that are refused. -/
theorem Query.IsRefused.single? {query : Query τ} (h : query.IsRefused) :
    ∃ failure, query.single? = some (.error failure) := by
  cases h with
  | amount hgross =>
    obtain ⟨failure, hfailure⟩ := amountText_eq_error hgross
    refine ⟨failure, ?_⟩
    rw [Query.single?, hfailure]
    rfl
  | blockNumber hnumber =>
    obtain ⟨failure, hfailure⟩ := blockNumberTexts_eq_error hnumber
    refine ⟨failure, ?_⟩
    rw [Query.single?, hfailure]
    rfl

/-- A query with refused arguments fails, and leaves the connection as it is. -/
theorem perform_of_isRefused {σ : Type} (endpoint : Endpoint σ τ) {query : Query τ}
    (h : query.IsRefused) (connection : Connection σ) :
    ∃ failure, perform endpoint query connection = (.error failure, connection) := by
  obtain ⟨failure, hsingle⟩ := h.single?
  exact ⟨failure, perform_of_single endpoint hsingle connection⟩

/-- What follows a poll: nothing, or another poll after a wait if the node does not know the
transfer yet, unless the delay before it overflows or the sleep is refused. -/
theorem pollReceipt_cases {σ : Type} (endpoint : Endpoint σ τ) (txHash : Value)
    (interval deadline : τ) (attempt pollsLeft : ℕ) (connection : Connection σ) :
    let polled := getReceipt endpoint txHash connection
    let ended := pollReceipt endpoint txHash interval deadline attempt pollsLeft connection
    ended = polled
      ∨ ∃ failure, polled.1 = .error failure ∧ isNotIndexed failure = true
        ∧ (ended = (.error .delayOverflow, polled.2)
          ∨ ∃ delay s, (∃ refusal,
              endpoint.link.sleep delay polled.2.surroundings = (.error refusal, s)
              ∧ ended = (.error refusal, { polled.2 with surroundings := s }))
            ∨ ∃ more, endpoint.link.sleep delay polled.2.surroundings = (.ok (), s)
              ∧ pollsLeft = more + 1 ∧ ended =
                pollReceipt endpoint txHash interval deadline (attempt + 1) more
                  { polled.2 with surroundings := s }) := by
  intro polled ended
  have hended : ended = _ := pollReceipt.eq_def ..
  dsimp only at hended
  rcases hpolled : polled with ⟨failure | receipt, connection'⟩
  · rw [show getReceipt endpoint txHash connection = _ from hpolled] at hended
    dsimp only at hended
    split at hended
    · exact Or.inl hended
    · rename_i hgoes
      rw [Bool.or_eq_true, not_or, Bool.not_eq_true, Bool.not_eq_false'] at hgoes
      refine Or.inr ⟨failure, rfl, hgoes.1, ?_⟩
      split at hended
      · rename_i hdelay
        obtain rfl := pollDelay_eq_error hdelay
        exact Or.inl hended
      · exact Or.inl hended
      · rename_i delay more _
        refine Or.inr ⟨delay, (endpoint.link.sleep delay connection'.surroundings).2, ?_⟩
        rcases hslept : endpoint.link.sleep delay connection'.surroundings with ⟨refusal | _, s⟩
        · rw [hslept] at hended
          exact Or.inl ⟨refusal, rfl, hended⟩
        · rw [hslept] at hended
          exact Or.inr ⟨more, rfl, rfl, hended⟩
  · rw [show getReceipt endpoint txHash connection = _ from hpolled] at hended
    exact Or.inl hended

variable (retry : Retry τ)

/-- The rounds of a wait for a receipt. -/
theorem exists_polls (txHash : Value) (interval deadline : τ) (attempt pollsLeft : ℕ)
    (connection : Connection (Link.Script τ)) (hscript : connection.surroundings.FailsByHttp) :
    let ended := pollReceipt ⟨Link.Script.link, retry⟩ txHash interval deadline attempt pollsLeft
      connection
    ∃ rounds, Polls txHash ended.1 rounds ∧ Conducts retry rounds connection ended.2 := by
  induction pollsLeft using Nat.strong_induction_on generalizing attempt connection with
  | h pollsLeft ih =>
    intro ended
    obtain ⟨round, hcalls, hresult, hleads, hproper⟩ :=
      exists_round_call retry "eth_getTransactionReceipt" [txHash] hscript
    have hpolled : getReceipt ⟨Link.Script.link, retry⟩ txHash connection = _ :=
      callThen_eq ⟨Link.Script.link, retry⟩ "eth_getTransactionReceipt" [txHash]
        (receiptOf txHash) connection
    rw [← hresult] at hpolled
    have hcases := pollReceipt_cases ⟨Link.Script.link, retry⟩ txHash interval deadline attempt
      pollsLeft connection
    rw [hpolled] at hcases
    rcases hcases with (hended : ended = _) | ⟨failure, hfailure, hnot,
      (hended : ended = _) | ⟨delay, _, ⟨_, ⟨⟩, _⟩ | ⟨more, ⟨⟩, rfl, (hended : ended = _)⟩⟩⟩
    · rw [hended]
      exact ⟨[round], .last hcalls, .single hleads hproper⟩
    · rw [hended]
      exact ⟨[round], .overflow hcalls ⟨failure, hfailure, hnot⟩, .single hleads hproper⟩
    · rw [hended]
      obtain ⟨rounds, hpolls, hconducts⟩ :=
        ih more (Nat.lt_succ_self more) (attempt + 1) (slept delay _)
          (hscript.of_drop hleads.replies)
      exact ⟨round :: rounds, .again hcalls ⟨failure, hfailure, hnot⟩ hpolls,
        .round hleads hproper (.wait (idles_slept delay _) hconducts)⟩

/-- The rounds of a query. -/
theorem exists_rounds_perform (query : Query τ) {connection : Connection (Link.Script τ)}
    (hscript : connection.surroundings.FailsByHttp) :
    let ended := perform ⟨Link.Script.link, retry⟩ query connection
    ∃ rounds, query.Makes ended.1 rounds ∧ Conducts retry rounds connection ended.2 := by
  intro ended
  cases hsingle : query.single? with
  | some prepared =>
    have hended : ended = _ := perform_of_single ⟨Link.Script.link, retry⟩ hsingle connection
    rw [hended]
    cases prepared with
    | error failure => exact ⟨[], .refused hsingle, .none connection⟩
    | ok single =>
      obtain ⟨round, hcalls, hresult, hleads, hproper⟩ :=
        exists_round_call retry single.method single.params hscript
      rw [carryOut, callThen_eq, ← hresult]
      exact ⟨[round], .single hsingle hcalls, .single hleads hproper⟩
  | none =>
    cases query with
    | awaitReceipt txHash timeout interval =>
      obtain ⟨rounds, hpolls, hconducts⟩ := exists_polls retry txHash interval
        (Seconds.add (Link.Script.link.time connection.surroundings) timeout) 0
        Backoff.attemptLimit.toNat connection hscript
      have hended : ended = Action.map .receipt
          (awaitReceipt ⟨Link.Script.link, retry⟩ txHash timeout interval) connection := rfl
      rw [hended, Action.map_snd, Action.map_fst]
      exact ⟨rounds, .polls hpolls, hconducts⟩
    | close =>
      have hidle : Idles connection ended.2 := ⟨rfl, rfl, rfl⟩
      exact ⟨[], .close, .wait hidle (.none ended.2)⟩
    | _ => cases hsingle

/-- The rounds of a session. -/
theorem exists_rounds_performAll (queries : List (Query τ))
    {connection : Connection (Link.Script τ)} (hscript : connection.surroundings.FailsByHttp) :
    let ended := performAll ⟨Link.Script.link, retry⟩ queries connection
    ∃ rounds, Made queries ended.1 rounds ∧ Conducts retry rounds connection ended.2 := by
  induction queries generalizing connection with
  | nil => exact ⟨[], .nil, .none connection⟩
  | cons query queries ih =>
    obtain ⟨rounds, hmakes, hconducts⟩ := exists_rounds_perform retry query hscript
    obtain ⟨more, hmade, hrest⟩ := ih (hconducts.failsByHttp hscript)
    exact ⟨rounds ++ more, .cons hmakes hmade, hconducts.append hrest⟩

/-- Over a script whose requests fail in the ways of requests, the queries of a session make proper
rounds, and come to what these give. The rounds have the ids after the last one used, without gaps,
and nothing is sent but their requests. A query whose arguments the client itself refuses makes no
round, whatever the connection. -/
theorem rounds_of_queries (queries : List (Query τ)) {connection : Connection (Link.Script τ)}
    (hscript : connection.surroundings.FailsByHttp) :
    let endpoint : Endpoint (Link.Script τ) τ := ⟨Link.Script.link, retry⟩
    let ended := performAll endpoint queries connection
    (∃ rounds, Made queries ended.1 rounds
        ∧ Conducts retry rounds connection ended.2
        ∧ rounds.map (·.id) = List.range' (connection.lastId + 1) rounds.length
        ∧ ended.2.lastId = connection.lastId + rounds.length
        ∧ ended.2.surroundings.requests
          = connection.surroundings.requests ++ rounds.flatMap Round.requests
        ∧ ∀ round ∈ rounds, round.Proper retry)
      ∧ ∀ query : Query τ, query.IsRefused → ∀ connection,
          ∃ failure, perform endpoint query connection = (.error failure, connection) := by
  intro endpoint ended
  obtain ⟨rounds, hmade, hconducts⟩ := exists_rounds_performAll retry queries hscript
  exact ⟨⟨rounds, hmade, hconducts, hconducts.ids, hconducts.lastId, hconducts.requests,
    hconducts.proper⟩, fun query hrefused connection =>
      perform_of_isRefused endpoint hrefused connection⟩

end Queries

end

/-- An endpoint that is not reached at first, and then answers with the number of the latest block.
-/
def reachedAtLast : Connection (Link.Script ℚ) :=
  .open (.start [⟨none, fun _ => .error (.link ⟨.connect, "refused"⟩)⟩,
    ⟨none, fun _ => .ok ⟨200, Text.utf8Bytes "\x7b\"id\":1,\"result\":\"0x10\"\x7d".toList⟩⟩] [])

/-- An amount of zero uses no id, and the next query uses one for both of its attempts. -/
theorem rounds_of_queries_retried :
    let queries : List (Query ℚ) :=
      [.createIntent (.str "0x1111111111111111111111111111111111111111") (.int 0) (.str "GORR"),
        .headNumber]
    reachedAtLast.surroundings.FailsByHttp
      ∧ ∃ rounds, Made queries
          [.error (.plain .invalidAmount [("gross_amount", .str "0")]), .ok (.number 16)] rounds
        ∧ rounds.map (·.id) = [1]
        ∧ rounds.flatMap Round.requests = List.replicate 2 (requestBody "eth_blockNumber" [] 1)
        ∧ ∀ round ∈ rounds, round.Proper (.standard 1 : Retry ℚ) := by
  intro queries
  have hscript : reachedAtLast.surroundings.FailsByHttp := by
    intro reply hmem request failure h
    rcases List.mem_cons.mp hmem with rfl | hmem
    · cases h
      trivial
    · obtain rfl := List.mem_singleton.mp hmem
      cases h
  obtain ⟨⟨rounds, hmade, _, hids, hlast, hrequests, hproper⟩, _⟩ :=
    rounds_of_queries (.standard 1) queries hscript
  have hone : rounds.length = 1 := (Nat.zero_add _).symm.trans hlast.symm
  rw [hone] at hids
  exact ⟨hscript, rounds, hmade, hids, hrequests.symm, hproper⟩

theorem perform_headNumber [Nesting] {σ τ : Type} [Seconds τ] (endpoint : Endpoint σ τ)
    (connection : Connection σ) :
    let called := call endpoint "eth_blockNumber" [] connection
    perform endpoint .headNumber connection
      = (called.1 >>= fun result =>
          (checked "eth_blockNumber" (Amount.quantity []) result).map .number, called.2) := by
  rw [perform_of_single endpoint rfl, carryOut, callThen_eq]
  rfl

/-- When more attempts are allowed than there are delays, an endpoint that is never reached is not
told as trouble of the transport. -/
theorem not_transport_of_never_reached :
    let connection : Connection (Link.Script Binary64) := .open (.start [] [])
    let ended := perform ⟨Link.Script.link, .standard 1025⟩ .headNumber connection
    (∀ n request, connection.surroundings.heard n request = .error Link.Script.noReply)
      ∧ Link.Script.noReply.httpStatus? = some none
      ∧ ended.2.surroundings.requests
        = List.replicate 1025 (requestBody "eth_blockNumber" [] 1)
      ∧ ended.1 = .error .delayOverflow
      ∧ Failure.delayOverflow.isRefusalUnder .transport = false := by
  -- nothing here may be compared by carrying out a thousand attempts
  intro connection ended
  have hscript : connection.surroundings.FailsByHttp := fun _ hmem => nomatch hmem
  have hspeaks : Speaks (.standard 1025 : Retry Binary64) connection.isClosed
      (requestBody "eth_blockNumber" [] (connection.lastId + 1)) :=
    ⟨by decide, rfl, Json.writable_iff.mpr (by decide +kernel)⟩
  obtain ⟨round, hcalls, hresult, hleads, hproper, hsent⟩ := exists_round_of_speaks hscript hspeaks
  have hlast := List.getLast?_eq_getLast_of_ne_nil hsent
  have hended : round.ends.getLast hsent = .error Link.Script.noReply := by
    rw [List.getLast?_eq_getElem?] at hlast
    exact hleads.ends _ _ hlast
  have hmore : Retry.IsWorthMore (round.ends.getLast hsent) := ⟨_, hended, rfl⟩
  have hoverflow : round.Overflows (.standard 1025 : Retry Binary64) :=
    ⟨by decide, _, hlast, hmore⟩
  have hcount : round.ends.length = 1025 := Int.ofNat_inj.mp (hproper.spent _ hlast hmore)
  have hperform : ended = _ := perform_headNumber ⟨Link.Script.link, .standard 1025⟩ connection
  rw [← hresult, hproper.overflow hoverflow] at hperform
  refine ⟨fun _ _ => rfl, rfl, ?_, ?_, rfl⟩
  · rw [hperform, hleads.requests, Round.requests, hcount, hcalls.body, hleads.id]
    rfl
  · rw [hperform]
    rfl

end IntentGateway.Client
