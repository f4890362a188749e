import IntentGateway.Proofs.Gateway.Ending
import IntentGateway.Proofs.Gateway.Persistence
import IntentGateway.Proofs.Gateway.WellFormed
import IntentGateway.Service

/-! # What visitors over HTTP can do

Whoever visits a gateway over HTTP chooses a body, but nothing of what the gateway adds to it: the
rate and the lifetime are those of the settings, the time is that of the clock, and no transfer is
reported. So a visit leaves a row as it is, adds one that follows the settings, pays one in full at
its own time, or refunds one (`Intent.Visited`). Two accounts of a run of visits follow: all rows
follow the settings (`Gateway.follow_visited`), and whatever has come about has come about in one
visit (`Gateway.exists_beginsAt`), so the times of a row are those of single visits.
-/

namespace IntentGateway

namespace Http

/-- A visit over HTTP: the clock of the gateway at that time, and the request. -/
structure Visit where
  clock : Rat
  request : Request
  deriving Repr

/-- The whole seconds of the clock at a visit, toward zero. -/
def Visit.time (visit : Visit) : Int :=
  visit.clock.num.tdiv visit.clock.den

end Http

open Http (Visit)

namespace Gateway

/-- The gateway after a visit. -/
def visit [Nesting] (gateway : Gateway) (visit : Visit) : Gateway :=
  ({ gateway with clock := visit.clock }.serve visit.request).2

/-- The gateway after visits, one after the other. -/
def visited [Nesting] (gateway : Gateway) (visits : List Visit) : Gateway :=
  visits.foldl Gateway.visit gateway

end Gateway

/-! ## What a visitor can ask for -/

/-- An operation that leaves the rate, the lifetime and the time to the gateway, and reports no
transfer. -/
inductive Operation.Plain : Operation → Prop
  | create (merchant gross token : Value) : Plain (.create merchant gross token .null .null none)
  | get (id : Int) : Plain (.get id none)
  | list (merchant : Value) : Plain (.list merchant none)
  | pay (id : Int) (payer : Value) : Plain (.pay id payer none)
  | refund (id : Int) : Plain (.refund id none)
  | balances (address : Value) : Plain (.balances address)

namespace Rpc

/-- No parameter of a method reaches the rate, the lifetime, the time or a transfer. -/
theorem Method.plain_of_operation [Nesting] {method : Method} {given : List Value}
    {operation : Operation} (h : method.operation given = .ok operation) : operation.Plain := by
  rw [Method.operation.eq_def] at h
  split at h
  · obtain ⟨_, _, h⟩ := Failure.bind_eq_ok h
    obtain ⟨_, _, h⟩ := Failure.bind_eq_ok h
    obtain ⟨_, _, h⟩ := Failure.bind_eq_ok h
    obtain ⟨_, _, h⟩ := Failure.bind_eq_ok h
    cases h
    exact .create _ _ _
  · obtain ⟨_, _, h⟩ := Failure.bind_eq_ok h
    cases h
    exact .get _
  · obtain ⟨_, _, h⟩ := Failure.bind_eq_ok h
    cases h
    exact .list _
  · obtain ⟨_, _, h⟩ := Failure.bind_eq_ok h
    obtain ⟨_, _, h⟩ := Failure.bind_eq_ok h
    cases h
    exact .pay _ _
  · obtain ⟨_, _, h⟩ := Failure.bind_eq_ok h
    cases h
    exact .refund _
  · obtain ⟨_, _, h⟩ := Failure.bind_eq_ok h
    cases h
    exact .balances _
  · cases h

theorem Request.plain_of_operation [Nesting] {request : Request} {operation : Operation}
    (h : request.operation = .ok operation) : operation.Plain := by
  rw [Request.operation] at h
  split at h
  · exact Method.plain_of_operation h
  · obtain ⟨_, _, h⟩ := Failure.bind_eq_ok h
    cases h

end Rpc

/-! ## What follows a policy -/

/-- Terms whose rate, lifetime and asset are those of a policy. -/
structure Terms.Follow (terms : Terms) (policy : Policy) : Prop where
  feeBps : policy.feeBps = .int terms.feeBps
  lifetime : policy.lifetime = .int (terms.expiry - terms.createdAt)
  token : terms.token ∈ policy.tokens

/-- A row whose terms follow a policy, and which has been paid in full without a transfer, if it has
been paid. -/
structure Intent.Follows (row : Intent) (policy : Policy) : Prop where
  terms : row.toTerms.Follow policy
  paidAmount : row.paid = true → row.paidAmount = some row.grossAmount
  txHash : row.txHash = none
  blockNumber : row.blockNumber = none

/-- Assets that are taken are those of the policy. -/
theorem Operation.mem_of_checkToken [Nesting] {policy : Policy} {token : Value} {asset : String}
    (h : checkToken policy token = .ok asset) : asset ∈ policy.tokens := by
  rw [checkToken.eq_def] at h
  dsimp only at h
  split at h
  · split at h
    · rename_i hknown
      cases h
      exact List.contains_iff_mem.mp hknown
    · obtain ⟨_, _, h⟩ := Failure.bind_eq_ok h
      cases h
  · obtain ⟨_, _, h⟩ := Failure.bind_eq_ok h
    cases h

/-- Terms that are accepted follow the policy where the merchant has left it open. -/
theorem Operation.follow_of_terms [Nesting] {policy : Policy} {merchant gross token : Value}
    {now : Int}
    {accepted : Terms} (h : terms policy merchant gross token .null .null now = .ok accepted) :
    accepted.Follow policy := by
  have haccepted := terms_eq_ok_iff.mp h
  exact ⟨(Fee.rate_eq_ok_iff.mp haccepted.rate).1,
    (checkLifetime_eq_ok_iff.mp haccepted.lifetime).1, mem_of_checkToken haccepted.token⟩

/-! ## One visit -/

/-- What a visit at a time makes of a row, or of none: it keeps the terms and what is recorded of
the payment, it records a payment in full, or it adds an unpaid row. -/
inductive Intent.Visited (policy : Policy) (time : Int) : Option Intent → Intent → Prop where
  | kept {row later : Intent} (terms : later.toTerms = row.toTerms)
      (payment : later.toPaymentColumns = row.toPaymentColumns) :
      Visited policy time (some row) later
  | paid {row : Intent} (payer : String) (hp : row.paid = false) :
      Visited policy time (some row) (row.settled
        { payer, amount := row.grossAmount, txHash := none, blockNumber := none, paidAt := time })
  | added {row : Intent} (terms : row.toTerms.Follow policy) (createdAt : row.createdAt = time)
      (unpaid : row.toPaymentColumns = .unpaid) : Visited policy time none row

namespace Operation

variable {policy : Policy} {clock : Int} {store : Store} {operation : Operation}

/-- A payment that a visitor asks for is one in full, at the time of the clock. -/
theorem Plain.settlementOf_of_errand [Nesting] (h : operation.Plain) {id now : Int}
    {remittance : Remittance} {recipient : Option String}
    (herrand : operation.errand clock = .ok (some (.settle id now remittance recipient)))
    (gross : Int) : ∃ payer, remittance.settlementOf gross
      = { payer, amount := gross, txHash := none, blockNumber := none, paidAt := clock } := by
  cases h with
  | pay id payer =>
    obtain ⟨payer, _, herrand⟩ := Failure.bind_eq_ok herrand
    cases herrand
    exact ⟨payer, rfl⟩
  | _ => cases herrand

/-- What an operation that a visitor asks for makes of the row of an id. -/
theorem Plain.visited_run [Nesting] (h : operation.Plain) (hs : store.Sound) {id : Int}
    {row : Intent} (hl : ((operation.call policy clock).run store).2.lookup id = some row) :
    Intent.Visited policy clock (store.lookup id) row := by
  have hends := ends_run policy clock operation hs
  generalize (operation.call policy clock).run store = result at hends hl
  -- the row of an id that is not touched stays as it is
  have hsame : store.lookup id = some row → Intent.Visited policy clock (store.lookup id) row :=
    fun hsame => hsame ▸ .kept rfl rfl
  cases hends with
  | failed failure => exact hsame hl
  | told outcome _ => exact hsame hl
  | shown _ => exact hsame hl
  | created hterms hinsert =>
    obtain ⟨_, rfl, rfl⟩ := Store.insert_eq_ok hinsert
    cases h
    cases hbefore : store.lookup id with
    | some before =>
      rw [Store.lookup_append hbefore] at hl
      cases hl
      exact .kept rfl rfl
    | none =>
      rcases List.mem_append.mp (Store.mem_of_lookup hl) with hold | hnew
      · rw [← Store.id_of_lookup hl, hs.lookup_of_mem hold] at hbefore
        cases hbefore
      · obtain rfl := List.mem_singleton.mp hnew
        exact .added (follow_of_terms hterms) (createdAt_of_terms hterms) rfl
  | @settled _ _ _ _ _ before herrand hbefore hp =>
    obtain ⟨payer, hsettlement⟩ := h.settlementOf_of_errand herrand before.grossAmount
    rcases Store.lookup_amend_cases hl hbefore fun _ => rfl with ⟨rfl, rfl⟩ | hother
    · rw [hbefore, hsettlement]
      exact .paid payer hp
    · exact hsame hother
  | refunded _ hbefore _ _ =>
    rcases Store.lookup_amend_cases hl hbefore fun _ => rfl with ⟨rfl, rfl⟩ | hother
    · rw [hbefore]
      exact .kept rfl rfl
    · exact hsame hother

end Operation

namespace Gateway

variable {gateway : Gateway}

/-- What a visit makes of the row of an id. -/
theorem visited_visit [Nesting] (hs : gateway.store.Sound) (visit : Visit) {id : Int} {row : Intent}
    (hl : (gateway.visit visit).store.lookup id = some row) :
    Intent.Visited gateway.policy visit.time (gateway.store.lookup id) row := by
  rw [Gateway.visit] at hl
  rcases serve_eq_or_asked { gateway with clock := visit.clock } visit.request with
    hself | ⟨asked, operation, hasked, hperform⟩
  · rw [hself] at hl
    rw [show gateway.store.lookup id = some row from hl]
    exact .kept rfl rfl
  · rw [hperform, perform_snd] at hl
    exact (Rpc.Request.plain_of_operation hasked).visited_run hs hl

theorem policy_visit [Nesting] (gateway : Gateway) (visit : Visit) :
    (gateway.visit visit).policy = gateway.policy := by
  rw [Gateway.visit]
  rcases serve_eq_or_perform { gateway with clock := visit.clock } visit.request with
    hself | ⟨operation, hperform⟩
  · rw [hself]
  · rw [hperform, perform_snd]

end Gateway

/-- A row that a visit leaves follows the policy, if the one before does. -/
theorem Intent.Visited.follows {policy : Policy} {time : Int} {before : Option Intent}
    {row : Intent} (h : Intent.Visited policy time before row)
    (hb : ∀ earlier, before = some earlier → earlier.Follows policy) : row.Follows policy := by
  cases h with
  | @kept earlier _ hterms hpayment =>
    have hearlier := hb earlier rfl
    refine ⟨hterms ▸ hearlier.terms, fun hp => ?_, ?_, ?_⟩
    · rw [hterms, hpayment]
      rw [hpayment] at hp
      exact hearlier.paidAmount hp
    · rw [hpayment, hearlier.txHash]
    · rw [hpayment, hearlier.blockNumber]
  | @paid earlier payer hp => exact ⟨(hb earlier rfl).terms, fun _ => rfl, rfl, rfl⟩
  | added hterms _ hunpaid =>
    refine ⟨hterms, fun hp => ?_, ?_, ?_⟩
    · rw [hunpaid] at hp
      cases hp
    · rw [hunpaid]
      rfl
    · rw [hunpaid]
      rfl

/-! ## A run of visits -/

namespace Gateway

section Run

variable {gateway : Gateway} {visits : List Visit}

/-- Visits are events that happen to a gateway. -/
theorem visited_eq_after [Nesting] (gateway : Gateway) (visits : List Visit) :
    gateway.visited visits
      = gateway.after (visits.flatMap fun visit => [.tick visit.clock, .serve visit.request]) := by
  induction visits generalizing gateway with
  | nil => rfl
  | cons visit visits ih => exact ih (gateway.visit visit)

theorem evolves_visited [Nesting] (hs : gateway.store.Sound) (visits : List Visit) :
    gateway.store.Evolves (gateway.visited visits).store := by
  rw [visited_eq_after]
  exact evolves_after hs _

theorem sound_visited [Nesting] (hs : gateway.store.Sound) (visits : List Visit) :
    (gateway.visited visits).store.Sound := by
  have hkept := Store.kept_of_effect (P := fun _ => True) fun _ _ _ => trivial
  rw [visited_eq_after]
  exact (hkept.after _ ⟨hs, trivial⟩).1

/-- If all rows follow the policy, they do so after any visits. -/
theorem follow_visited [Nesting] (hs : gateway.store.Sound) (policy : Policy)
    (hpolicy : gateway.policy = policy)
    (h : ∀ id row, gateway.store.lookup id = some row → row.Follows policy)
    (visits : List Visit) (id : Int) (row : Intent)
    (hl : (gateway.visited visits).store.lookup id = some row) : row.Follows policy := by
  induction visits generalizing gateway with
  | nil => exact h id row hl
  | cons visit visits ih =>
    refine ih (sound_visited hs [visit]) ((gateway.policy_visit visit).trans hpolicy) ?_ hl
    intro id row hrow
    have hvisited := visited_visit hs visit hrow
    rw [hpolicy] at hvisited
    exact hvisited.follows (h id)

/-! ## The visit in which something comes about -/

/-- Whether something comes about in the visit of an index: it does not hold before, and it holds
afterwards. -/
structure BeginsAt [Nesting] (gateway : Gateway) (visits : List Visit) (P : Gateway → Prop) (n : ℕ)
    (visit : Visit) : Prop where
  index : visits[n]? = some visit
  before : ¬ P (gateway.visited (visits.take n))
  after : P ((gateway.visited (visits.take n)).visit visit)

/-- What holds after some visits, and not before them, has come about in one of them. -/
theorem exists_beginsAt [Nesting] {P : Gateway → Prop} (h : ¬ P gateway)
    (h' : P (gateway.visited visits)) :
    ∃ n visit, gateway.BeginsAt visits P n visit := by
  induction visits generalizing gateway with
  | nil => exact absurd h' h
  | cons first visits ih =>
    by_cases hfirst : P (gateway.visit first)
    · exact ⟨0, first, rfl, h, hfirst⟩
    · obtain ⟨n, visit, hbegins⟩ := ih hfirst h'
      exact ⟨n + 1, visit, hbegins.index, hbegins.before, hbegins.after⟩

theorem visited_take_succ [Nesting] {n : ℕ} {visit : Visit} (h : visits[n]? = some visit) :
    gateway.visited (visits.take (n + 1)) = (gateway.visited (visits.take n)).visit visit := by
  rw [List.take_add_one, h, visited, List.foldl_append]
  rfl

/-- More visits come after fewer of them. -/
theorem visited_take_of_le [Nesting] (gateway : Gateway) (visits : List Visit) {m n : ℕ}
    (h : m ≤ n) :
    gateway.visited (visits.take n)
      = (gateway.visited (visits.take m)).visited ((visits.take n).drop m) := by
  have hsplit : visits.take n = visits.take m ++ (visits.take n).drop m := by
    conv_lhs => rw [← List.take_append_drop m (visits.take n), List.take_take, Nat.min_eq_left h]
  conv_lhs => rw [hsplit, visited, List.foldl_append]
  rfl

/-- What is kept by visits comes about once. -/
theorem BeginsAt.index_eq [Nesting] {P : Gateway → Prop} (hs : gateway.store.Sound)
    (hkept : ∀ {gateway : Gateway}, gateway.store.Sound → P gateway →
      ∀ visits, P (gateway.visited visits)) {m n : ℕ} {visit other : Visit}
    (hm : gateway.BeginsAt visits P m visit) (hn : gateway.BeginsAt visits P n other) : m = n := by
  have hnot {m n : ℕ} {visit other : Visit} (hm : gateway.BeginsAt visits P m visit)
      (hn : gateway.BeginsAt visits P n other) : ¬ m < n := by
    intro hlt
    refine hn.before ?_
    rw [gateway.visited_take_of_le visits hlt]
    refine hkept (sound_visited hs _) ?_ _
    rw [visited_take_succ hm.index]
    exact hm.after
  have := hnot hm hn
  have := hnot hn hm
  omega

/-- Whether there is a row of an id. -/
def Has (gateway : Gateway) (id : Int) : Prop :=
  ∃ row, gateway.store.lookup id = some row

/-- Whether there is a row of an id that has been paid. -/
def HasPaid (gateway : Gateway) (id : Int) : Prop :=
  ∃ row, gateway.store.lookup id = some row ∧ row.paid = true

theorem HasPaid.visited [Nesting] {id : Int} (h : gateway.HasPaid id) (hs : gateway.store.Sound)
    (visits : List Visit) : (gateway.visited visits).HasPaid id := by
  obtain ⟨row, hl, hp⟩ := h
  obtain ⟨later, hlater, hevolves⟩ := evolves_visited hs visits id row hl
  exact ⟨later, hlater, hevolves.paid hp⟩

/-- What has come about in a visit stays until the end of the run. -/
theorem BeginsAt.evolves [Nesting] {P : Gateway → Prop} {n : ℕ} {visit : Visit}
    (hs : gateway.store.Sound) (h : gateway.BeginsAt visits P n visit) :
    ((gateway.visited (visits.take n)).visit visit).store.Evolves
      (gateway.visited visits).store := by
  have hlt : n + 1 ≤ visits.length := (List.getElem?_eq_some_iff.mp h.index).1
  have hrest := gateway.visited_take_of_le visits hlt
  rw [List.take_length, visited_take_succ h.index] at hrest
  rw [hrest]
  exact evolves_visited (sound_visited (sound_visited hs _) [visit]) _

/-- A row has been created at the time of the visit in which it has come about. -/
theorem BeginsAt.createdAt [Nesting] {n : ℕ} {visit : Visit} {row : Intent}
    (hs : gateway.store.Sound) (h : gateway.BeginsAt visits (·.Has row.id) n visit)
    (hl : (gateway.visited visits).store.lookup row.id = some row) :
    row.createdAt = visit.time := by
  obtain ⟨created, hcreated⟩ := h.after
  obtain ⟨later, hlater, hevolves⟩ := h.evolves hs _ created hcreated
  rw [hl] at hlater
  cases hlater
  have hvisited := visited_visit (sound_visited hs _) visit hcreated
  cases hbefore : (gateway.visited (visits.take n)).store.lookup row.id with
  | some before => exact absurd ⟨before, hbefore⟩ h.before
  | none =>
    rw [hbefore] at hvisited
    cases hvisited with
    | added _ hcreatedAt _ =>
      rw [hevolves.terms]
      exact hcreatedAt

/-- A row has been paid at the time of the visit in which that has come about. -/
theorem BeginsAt.paidAt [Nesting] {n : ℕ} {visit : Visit} {row : Intent} (hs : gateway.store.Sound)
    (h : gateway.BeginsAt visits (·.HasPaid row.id) n visit)
    (hl : (gateway.visited visits).store.lookup row.id = some row) :
    row.paidAt = some visit.time := by
  obtain ⟨settled, hsettled, hp⟩ := h.after
  obtain ⟨later, hlater, hevolves⟩ := h.evolves hs _ settled hsettled
  rw [hl] at hlater
  cases hlater
  rw [hevolves.payment hp]
  have hvisited := visited_visit (sound_visited hs _) visit hsettled
  cases hbefore : (gateway.visited (visits.take n)).store.lookup row.id with
  | none =>
    rw [hbefore] at hvisited
    cases hvisited with
    | added _ _ hunpaid =>
      rw [hunpaid] at hp
      cases hp
  | some before =>
    rw [hbefore] at hvisited
    cases hvisited with
    | kept _ hpayment =>
      -- a row that was paid before is not paid in this visit
      refine absurd ⟨before, hbefore, ?_⟩ h.before
      rwa [← hpayment]
    | paid payer _ => rfl

end Run

/-- A visitor over HTTP forges neither terms nor a settlement: whatever is posted, and however the
clock moves, the rows follow the settings, no transfer is recorded, each row shows the time of the
visit that has created it, and a paid one the time of the one visit that has paid it, in full. -/
theorem rows_of_visits [Nesting] (settings : Settings) (clock : Rat) (visits : List Visit) :
    let start := Service.gateway settings clock
    ∀ row ∈ (start.visited visits).store.intents,
      row.feeBps = settings.feeBps
        ∧ row.expiry = row.createdAt + settings.lifetime
        ∧ row.token ∈ settings.tokens
        ∧ row.txHash = none ∧ row.blockNumber = none
        ∧ (∃ n visit, start.BeginsAt visits (·.Has row.id) n visit ∧ row.createdAt = visit.time)
        ∧ (row.paid = true → row.paidAmount = some row.grossAmount
          ∧ ∃ n visit, start.BeginsAt visits (·.HasPaid row.id) n visit
            ∧ row.paidAt = some visit.time
            ∧ ∀ m other, start.BeginsAt visits (·.HasPaid row.id) m other → m = n) := by
  intro start row hrow
  have hs : start.store.Sound := .empty
  have hnone : ∀ id row, start.store.lookup id ≠ some row := fun _ _ hl => nomatch hl
  have hl := (sound_visited hs visits).lookup_of_mem hrow
  have hfollows := follow_visited hs settings.policy rfl
    (fun id row hl => absurd hl (hnone id row)) visits row.id row hl
  obtain ⟨n, visit, hcreated⟩ := exists_beginsAt (P := fun gateway => gateway.Has row.id)
    (fun ⟨created, hcreated⟩ => hnone row.id created hcreated) ⟨row, hl⟩
  have hfee : Value.int settings.feeBps = .int row.feeBps := hfollows.terms.feeBps
  have hlifetime : Value.int settings.lifetime = .int (row.expiry - row.createdAt) :=
    hfollows.terms.lifetime
  rw [Value.int.injEq] at hfee hlifetime
  refine ⟨hfee.symm, by omega, hfollows.terms.token, hfollows.txHash, hfollows.blockNumber,
    ⟨n, visit, hcreated, hcreated.createdAt hs hl⟩, fun hp => ?_⟩
  obtain ⟨m, payment, hpaid⟩ := exists_beginsAt (P := fun gateway => gateway.HasPaid row.id)
    (fun ⟨paid, hpaid, _⟩ => hnone row.id paid hpaid) ⟨row, hl, hp⟩
  refine ⟨hfollows.paidAmount hp, m, payment, hpaid, hpaid.paidAt hs hl, fun k other hother => ?_⟩
  exact hother.index_eq hs (fun hs hpaid visits => hpaid.visited hs visits) hpaid

/-- The visit that posts a call of a method with parameters. -/
def posting (clock : Rat) (method params : String) : Visit where
  clock
  request :=
    { method := "POST", path := "/"
      body := Text.utf8Bytes
        ("\x7b\"jsonrpc\":\"2.0\",\"method\":\"" ++ method ++ "\",\"params\":" ++ params
          ++ "\x7d").toList }

/-- The visits that create an intent and pay it two seconds later. -/
def creationAndPayment : List Visit :=
  [posting (3 / 2) "gorr_createPaymentIntent"
      "[\"1111111111111111111111111111111111111111\",\"5\",\"GORR\"]",
    posting (7 / 2) "gorr_payInvoice" "[1,\"2222222222222222222222222222222222222222\"]"]

/-- The intent has the time of the first visit, and its payment that of the second. -/
theorem rows_of_visits_paid :
    ∃ row ∈ ((Service.gateway .standard 0).visited creationAndPayment).store.intents,
      row.feeBps = 250 ∧ row.createdAt = 1 ∧ row.paidAt = some 3 ∧ row.txHash = none
        ∧ row.paidAmount = some row.grossAmount
        ∧ ∃ n visit, (Service.gateway .standard 0).BeginsAt creationAndPayment
            (·.HasPaid row.id) n visit ∧ row.paidAt = some visit.time := by
  have hrows : ((Service.gateway .standard 0).visited creationAndPayment).store.intents.map
      (fun row : Intent => (row.paid, row.createdAt, row.paidAt)) = [(true, 1, some 3)] := by
    decide +kernel
  obtain ⟨row, hintents, hrow⟩ := List.map_eq_singleton_iff.mp hrows
  have hmem : row ∈ ((Service.gateway .standard 0).visited creationAndPayment).store.intents := by
    rw [hintents]
    exact List.mem_singleton_self row
  obtain ⟨hpaid, hcreated, htime⟩ : row.paid = true ∧ row.createdAt = 1 ∧ row.paidAt = some 3 := by
    simpa using hrow
  obtain ⟨hfee, -, -, hhash, -, -, hpayment⟩ :=
    rows_of_visits .standard 0 creationAndPayment row hmem
  obtain ⟨hamount, n, visit, hbegins, hat, -⟩ := hpayment hpaid
  exact ⟨row, hmem, hfee, hcreated, htime, hhash, hamount, n, visit, hbegins, hat⟩

end Gateway

end IntentGateway
