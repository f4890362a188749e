import IntentGateway.Proofs.Gateway.Transfer
import IntentGateway.Proofs.Remote.Intent
import IntentGateway.Proofs.Rpc.Failing
import IntentGateway.Proofs.Rpc.Stage
import IntentGateway.Proofs.Rpc.Visit
import IntentGateway.Proofs.Watcher.Scan

/-! # How large amounts get

A transfer of the chain carries an amount of 256 bits, so it can pay an intent of no more
(`Gateway.canBePaid_iff`). The gateway does not hold the amounts of its rows to that: a new intent
may be of any positive amount up to the limit of all decimal texts (`Gateway.accepts_create_iff`).

But no amount is made up. The gross amount of a row and the amount that has been paid for it have
been given: by an operation, in a request, or by a transfer that was taken in
(`Gateway.amounts_after`). So the rows keep to 256 bits if what is given does.
-/

namespace IntentGateway

open Remote (Block Transfer)

/-! ## The amounts that are given -/

/-- The amount that an operation is given, if it takes one. -/
def Operation.amount? : Operation → Option Value
  | .create _ gross .. => some gross
  | .markPaid payment _ => some payment.amount
  | _ => none

/-- Whether an event gives an amount: that of an operation, be it performed or asked for in a
request, or that of a transfer that is taken in. -/
inductive Event.Gives [Nesting] (gateway : Gateway) : Event → Int → Prop where
  | perform {operation : Operation} {n : Int} (h : operation.amount? = some (.int n)) :
      Gives gateway (.perform operation) n
  | serve {request : Http.Request} {asked : Rpc.Request} {operation : Operation} {n : Int}
      (hasks : Rpc.Asks request.body asked) (hasked : asked.operation = .ok operation)
      (h : operation.amount? = some (.int n)) : Gives gateway (.serve request) n
  | transfer {event : Event} {block : Block} {transfer : Transfer}
      (hblock : block ∈ event.scanned gateway) (htransfer : transfer ∈ block.transfers) :
      Gives gateway event transfer.value

/-- Whether one of some events gives an amount. -/
def Gateway.Gives [Nesting] : Gateway → List Event → Int → Prop
  | _, [], _ => False
  | gateway, event :: events, n => event.Gives gateway n ∨ (event.apply gateway).Gives events n

/-- Whether the gross amount of a row, and what has been paid for it, have a property. -/
structure Intent.Amounts (P : Int → Prop) (row : Intent) : Prop where
  gross : P row.grossAmount
  paid : ∀ n, row.paidAmount = some n → P n

variable {P : Int → Prop}

namespace Operation

/-- The amount that an errand confirms is the one that its operation is given. -/
theorem amount?_of_errand [Nesting] {operation : Operation} {clock id now : Int}
    {remittance : Remittance} {recipient : Option String}
    (h : operation.errand clock = .ok (some (.settle id now remittance recipient))) {n : Int}
    (hn : remittance.confirmed = some n) : operation.amount? = some (.int n) := by
  cases operation with
  | markPaid payment time =>
    rw [errand] at h
    split at h
    · cases h
    · obtain ⟨amount, hamount, h⟩ := Failure.bind_eq_ok h
      obtain ⟨payer, _, h⟩ := Failure.bind_eq_ok h
      obtain ⟨recipient, _, h⟩ := Failure.bind_eq_ok h
      cases h
      cases hn
      rw [amount?, (checkConfirmed_eq_ok_iff.mp hamount).1]
  | pay id payer time =>
    obtain ⟨payer, _, h⟩ := Failure.bind_eq_ok h
    cases h
    cases hn
  | _ => cases h

/-- A row that an operation makes has the amounts of the other rows, or the one that the operation
is given. -/
theorem amounts_of_made [Nesting] {store : Store} {operation : Operation} {made : Intent}
    (h : Made store operation made) (hgiven : ∀ n, operation.amount? = some (.int n) → P n)
    (hrows : ∀ row ∈ store.intents, row.Amounts P) : made.Amounts P := by
  cases h with
  | created hterms _ =>
    exact ⟨hgiven _ (congrArg some (gross_of_terms hterms)), fun n hn => nomatch hn⟩
  | @settled _ _ _ _ remittance _ intent herrand hl _ _ =>
    have hrow := hrows intent (Store.mem_of_lookup hl)
    refine ⟨hrow.gross, ?_⟩
    rintro _ ⟨⟩
    show P (remittance.confirmed.getD intent.grossAmount)
    -- an amount that is not given counts as the gross amount
    cases hconfirmed : remittance.confirmed with
    | none => exact hrow.gross
    | some amount => exact hgiven amount (amount?_of_errand herrand hconfirmed)
  | refunded hmem _ => exact ⟨(hrows _ hmem).gross, (hrows _ hmem).paid⟩

end Operation

/-- A transfer that settles a row gives the amount that is paid. -/
theorem Intent.Amounts.confirmedBy {row : Intent} (h : row.Amounts P) {blocks : List Block}
    (hblocks : ∀ block ∈ blocks, ∀ transfer ∈ block.transfers, P transfer.value) :
    (row.confirmedBy blocks).Amounts P := by
  by_cases hp : row.paid = true
  · rwa [Intent.confirmedBy_of_paid hp]
  rw [Bool.not_eq_true] at hp
  cases hfirst : row.firstSettlement? blocks with
  | none =>
    rw [Intent.confirmedBy, hfirst]
    exact h
  | some settlement =>
    obtain ⟨block, transfer, hpays, _⟩ := Intent.exists_firstPaidBy hfirst
    obtain ⟨payer, _, hsettled⟩ := Intent.confirmedBy_of_first hp hpays
    obtain ⟨before, after, earlier, later, rfl, htransfers, _⟩ := hpays
    rw [hsettled]
    refine ⟨h.gross, ?_⟩
    rintro _ ⟨⟩
    exact hblocks block (by simp) transfer (by simp [htransfers])

namespace Gateway

open Rpc

/-- A request over HTTP changes nothing, or its body asks for the operation that it performs. -/
theorem serve_eq_or_asks [Nesting] (gateway : Gateway) (request : Http.Request) :
    (gateway.serve request).2 = gateway ∨
      ∃ (asked : Rpc.Request) (operation : Operation), Asks request.body asked
        ∧ asked.operation = .ok operation
        ∧ (gateway.serve request).2 = (perform operation gateway).2 := by
  rcases gateway.serve_eq_self_or_post request with hself | ⟨hpath, hmethod⟩
  · exact Or.inl hself
  obtain ⟨method, path, body⟩ := request
  subst hmethod
  by_cases hasked : ∃ asked operation, Asks body asked ∧ asked.operation = .ok operation
  · obtain ⟨asked, operation, hasks, hoperation⟩ := hasked
    refine Or.inr ⟨asked, operation, hasks, hoperation, ?_⟩
    rw [serve_of_asks gateway hpath hasks]
    exact (handle_of_ok hoperation gateway).2
  · obtain ⟨answer, hanswer⟩ := serve_of_no_operation hpath hasked
    rw [hanswer gateway]
    exact Or.inl rfl

variable {gateway : Gateway}

/-- What the rows and the amounts that an event gives have in common, the rows have after it. -/
theorem amounts_apply [Nesting] (hg : gateway.Steady) (event : Event)
    (hgives : ∀ n, event.Gives gateway n → P n)
    (hrows : ∀ row ∈ gateway.store.intents, row.Amounts P) :
    ∀ row ∈ (event.apply gateway).store.intents, row.Amounts P := by
  have hperform : ∀ operation : Operation, (∀ n, operation.amount? = some (.int n) → P n) →
      ∀ row ∈ (perform operation gateway).2.store.intents, row.Amounts P :=
    fun operation hgiven => Operation.forall_of_run _ _ operation hg.1 hrows
      fun _ hmade => Operation.amounts_of_made hmade hgiven hrows
  -- a block that is taken in gives the amounts of its transfers
  have hsettled : ∀ row ∈ (gateway.settledBy
      (·.firstSettlement? (event.scanned gateway))).store.intents, row.Amounts P := by
    intro row hrow
    obtain ⟨origin, horigin, rfl⟩ := List.mem_map.mp hrow
    exact (hrows origin horigin).confirmedBy fun block hblock transfer htransfer =>
      hgives _ (.transfer hblock htransfer)
  cases event with
  | tick clock => exact hrows
  | configure policy => exact hrows
  | credit balance =>
    rw [Event.apply]
    cases hb : gateway.store.addBalance balance with
    | error e => exact hrows
    | ok store =>
      dsimp only
      rwa [Store.intents_of_addBalance hb]
  | perform operation => exact hperform operation fun n h => hgives n (.perform h)
  | serve request =>
    rw [Event.apply]
    rcases gateway.serve_eq_or_asks request with hself | ⟨asked, operation, hasks, hasked, hrun⟩
    · rwa [hself]
    · -- a request gives what the operation gives that it asks for
      rw [hrun]
      exact hperform operation fun n h => hgives n (.serve hasks hasked h)
  | confirm block =>
    rw [Event.apply, confirmBlock_snd hg]
    exact hsettled
  | poll node nextBlock connection =>
    rw [apply_poll hg]
    exact hsettled

/-- So it is with all events. -/
theorem amounts_after [Nesting] (hg : gateway.Steady) (events : List Event)
    (hgives : ∀ n, gateway.Gives events n → P n)
    (hrows : ∀ row ∈ gateway.store.intents, row.Amounts P) :
    ∀ row ∈ (gateway.after events).store.intents, row.Amounts P := by
  induction events generalizing gateway with
  | nil => exact hrows
  | cons event events ih =>
    have hnext := amounts_apply hg event (fun n h => hgives n (Or.inl h)) hrows
    exact ih (Store.kept_wellFormed.apply event hg) (fun n h => hgives n (Or.inr h)) hnext

end Gateway

/-! ## The amounts that are accepted -/

/-- Terms that are accepted with one amount are accepted with every other positive one. -/
theorem Operation.terms_of_amount [Nesting] {policy : Policy}
    {merchant gross token feeBps lifetime : Value} {now : Int} {accepted : Terms}
    (h : terms policy merchant gross token feeBps lifetime now = .ok accepted) {n : Int}
    (hn : 0 < n) :
    ∃ other, terms policy merchant (.int n) token feeBps lifetime now = .ok other
      ∧ other.createdAt = accepted.createdAt ∧ other.expiry = accepted.expiry := by
  have haccepted := terms_eq_ok_iff.mp h
  refine ⟨{ accepted with
    grossAmount := n, feeAmount := (Fee.split n accepted.feeBps).fee
    netAmount := (Fee.split n accepted.feeBps).net }, terms_eq_ok_iff.mpr ?_, rfl, rfl⟩
  exact { haccepted with
    gross := Fee.grossAmount_eq_ok_iff.mpr ⟨rfl, hn⟩
    parts := rfl }

namespace Gateway

/-- Whether an operation succeeds at a gateway. -/
def Accepts [Nesting] (gateway : Gateway) (operation : Operation) : Prop :=
  (perform operation gateway).1.isOk = true

instance [Nesting] (gateway : Gateway) (operation : Operation) :
    Decidable (gateway.Accepts operation) :=
  inferInstanceAs (Decidable (_ = true))

section Accepts

variable {gateway : Gateway} {merchant gross token feeBps lifetime : Value} {now : Option Int}

/-- The creation of an intent succeeds if its terms are accepted and fit the columns. -/
theorem accepts_create [Nesting] :
    gateway.Accepts (.create merchant gross token feeBps lifetime now) ↔
      ∃ accepted, Operation.terms gateway.policy merchant gross token feeBps lifetime
          (now.getD gateway.now) = .ok accepted
        ∧ Store.checkColumns [accepted.grossAmount, accepted.feeAmount, accepted.netAmount]
          [(gateway.store.nextId : Int), accepted.createdAt, accepted.expiry] = .ok () := by
  show (((Operation.create merchant gross token feeBps lifetime now).call gateway.policy
    gateway.now).run gateway.store).1.isOk = true ↔ _
  rw [Operation.call]
  cases hterms : Operation.terms gateway.policy merchant gross token feeBps lifetime
      (now.getD gateway.now) with
  | error failure =>
    refine iff_of_false Bool.false_ne_true ?_
    rintro ⟨accepted, hok, _⟩
    cases hok
  | ok accepted =>
    simp only [Except.ok.injEq, exists_eq_left', Call.checking, Call.run, Store.insert]
    cases Store.checkColumns [accepted.grossAmount, accepted.feeAmount, accepted.netAmount]
        [(gateway.store.nextId : Int), accepted.createdAt, accepted.expiry] with
    | error e =>
      refine iff_of_false Bool.false_ne_true ?_
      intro hok
      cases hok
    | ok _ => exact iff_of_true rfl rfl

/-- Where an intent of some amount can be created, so can one of every positive amount that can be
written, and no other. -/
theorem accepts_create_iff [Nesting]
    (h : gateway.Accepts (.create merchant gross token feeBps lifetime now)) {n : Int} :
    gateway.Accepts (.create merchant (.int n) token feeBps lifetime now) ↔
      0 < n ∧ n < 10 ^ Numeral.digitLimit := by
  rw [accepts_create] at h ⊢
  obtain ⟨accepted, hterms, hcolumns⟩ := h
  obtain ⟨_, hintegers⟩ := Store.checkColumns_eq_ok hcolumns
  constructor
  · rintro ⟨other, hother, hcolumns⟩
    have hgross : n = other.grossAmount := Value.int.inj (Operation.gross_of_terms hother)
    have hpos : 0 < n := hgross ▸ (Operation.terms_wellFormed hother).gross_pos
    have hwritten := (Store.checkColumns_eq_ok hcolumns).1 _ List.mem_cons_self
    exact ⟨hpos, (Numeral.fits_iff_of_nonneg hpos.le).mp (hgross ▸ hwritten)⟩
  · rintro ⟨hpos, hlt⟩
    obtain ⟨other, hother, hcreated, hexpiry⟩ := Operation.terms_of_amount hterms hpos
    have hgross : n = other.grossAmount := Value.int.inj (Operation.gross_of_terms hother)
    refine ⟨other, hother, Store.checkColumns_eq_ok_iff.mpr ⟨?_, ?_⟩⟩
    · have hfits : Numeral.fits n = true := (Numeral.fits_iff_of_nonneg hpos.le).mpr hlt
      exact (Operation.terms_wellFormed hother).fits_amounts (hgross ▸ hfits)
    · rwa [hcreated, hexpiry]

end Accepts

/-! ## The amounts that can be paid -/

/-- Whether some transfer of the chain, of at most 256 bits, would make an intent paid. -/
def CanBePaid [Nesting] (gateway : Gateway) (id : Int) : Prop :=
  ∃ (block : Block) (transfer : Transfer), 0 ≤ transfer.value ∧ transfer.value < 2 ^ 256
    ∧ (confirmTransfer block transfer gateway).2.HasPaid id

/-- A transfer pays an unpaid intent that it makes paid. -/
theorem paidBy_of_hasPaid [Nesting] {gateway : Gateway} (hg : gateway.Steady) {row : Intent}
    (hmem : row ∈ gateway.store.intents) (hp : row.paid = false) {block : Block}
    {transfer : Transfer} (h : (confirmTransfer block transfer gateway).2.HasPaid row.id) :
    row.PaidBy transfer := by
  obtain ⟨paid, hl, hpaid⟩ := h
  rcases confirmTransfer_cases hg.1 hg.2 block transfer with ⟨view, hrun⟩ | ⟨_, failure, hrun⟩
  · rw [hrun] at hl
    obtain ⟨origin, horigin, rfl⟩ := List.mem_map.mp (Store.mem_of_lookup hl)
    have hid := Store.id_of_lookup hl
    obtain rfl := hg.1.eq_of_id (hg.1.lookup_of_mem hmem) horigin hid
    rw [Intent.paid_orSettled hp] at hpaid
    exact Intent.isSome_settlementBy?.mp hpaid
  · rw [hrun, hg.1.lookup_of_mem hmem] at hl
    cases hl
    rw [hp] at hpaid
    cases hpaid

section Reachable

variable (policy : Policy) (clock : Rat) (events : List Event)

/-- An unpaid intent can be paid by a transfer exactly if its amount has no more bits than those of
the chain. -/
theorem canBePaid_iff [Nesting] :
    let gateway := (Gateway.fresh policy clock).after events
    ∀ row ∈ gateway.store.intents, row.paid = false →
      (gateway.CanBePaid row.id ↔ row.grossAmount < 2 ^ 256) := by
  intro gateway row hmem hp
  have hg : gateway.Steady := intents_wellFormed_after policy clock events
  have hw := (hg.2 row hmem).terms
  constructor
  · rintro ⟨block, transfer, _, hvalue, hpaid⟩
    obtain ⟨_, _, _, hgross⟩ := paidBy_of_hasPaid hg hmem hp hpaid
    omega
  · intro hgross
    obtain ⟨data, _, hdata⟩ :=
      Marker.transferFields_int (.str row.merchant) hw.gross_pos (hg.1.id_lt hmem)
    have hcanonical : Address.canonical? row.merchant = some row.merchant := hw.merchant_canonical
    let block : Block := { number := 0, timestamp := 0, hash := none, transfers := [] }
    let transfer : Transfer :=
      { hash := "0x", sender := row.merchant, recipient := some row.merchant
        value := row.grossAmount, data }
    have hpays : row.PaidBy transfer :=
      ⟨hdata, hcanonical, Option.isSome_iff_exists.mpr ⟨_, hcanonical⟩, le_refl _⟩
    have hfits : block.Fits transfer :=
      ⟨by decide, by decide, (fitsColumns_after policy clock events row hmem).gross⟩
    have hconfirm := confirmTransfer_of_paidBy hg.1 hmem hp hpays hcanonical hw.gross_pos.le hfits
    refine ⟨block, transfer, hw.gross_pos.le, hgross, ?_⟩
    rw [hconfirm]
    exact ⟨_, Store.lookup_settled (hg.1.lookup_of_mem hmem) _, rfl⟩

/-- The amounts of a row are positive where they have to be, add up, and have been given. If all
that has been given has 256 bits, so have all rows, and every intent can be paid by a transfer. But
an intent is accepted with any positive amount that can be written, and one of more bits cannot be
paid by a transfer. -/
theorem amounts_of_rows [Nesting] :
    let start := Gateway.fresh policy clock
    let gateway := start.after events
    (∀ row ∈ gateway.store.intents,
        0 < row.grossAmount ∧ 0 ≤ row.feeAmount ∧ 0 ≤ row.netAmount
          ∧ row.feeAmount + row.netAmount = row.grossAmount
          ∧ (∀ n, row.paidAmount = some n → row.grossAmount ≤ n)
          ∧ start.Gives events row.grossAmount
          ∧ (∀ n, row.paidAmount = some n → start.Gives events n)
          ∧ (row.paid = false → (gateway.CanBePaid row.id ↔ row.grossAmount < 2 ^ 256)))
      ∧ ((∀ n, start.Gives events n → n < 2 ^ 256) → ∀ row ∈ gateway.store.intents,
        row.grossAmount < 2 ^ 256 ∧ row.feeAmount < 2 ^ 256 ∧ row.netAmount < 2 ^ 256
          ∧ (∀ n, row.paidAmount = some n → n < 2 ^ 256)
          ∧ (row.paid = false → gateway.CanBePaid row.id))
      ∧ ∀ merchant gross token feeBps lifetime now,
        gateway.Accepts (.create merchant gross token feeBps lifetime now) →
          ∀ n, gateway.Accepts (.create merchant (.int n) token feeBps lifetime now) ↔
            0 < n ∧ n < 10 ^ Numeral.digitLimit := by
  intro start gateway
  have hwell := (intents_wellFormed_after policy clock events).2
  have hnone : ∀ row ∈ start.store.intents, row.Amounts (start.Gives events) := by
    intro row hrow
    cases hrow
  have hgiven : ∀ row ∈ gateway.store.intents, row.Amounts (start.Gives events) :=
    amounts_after (intents_wellFormed_after policy clock []) events (fun _ h => h) hnone
  have hpaid : ∀ row ∈ gateway.store.intents, row.paid = false →
      (gateway.CanBePaid row.id ↔ row.grossAmount < 2 ^ 256) := canBePaid_iff policy clock events
  refine ⟨fun row hmem => ?_, fun hbound row hmem => ?_,
    fun merchant gross token feeBps lifetime now h n => accepts_create_iff h⟩
  · have hw := hwell row hmem
    obtain ⟨hfee, hnet⟩ := hw.terms.parts_nonneg
    exact ⟨hw.terms.gross_pos, hfee, hnet, hw.terms.fee_add_net, fun n => hw.gross_le_paid,
      (hgiven row hmem).gross, (hgiven row hmem).paid, hpaid row hmem⟩
  · have hgross := hbound _ (hgiven row hmem).gross
    have hsum := (hwell row hmem).terms.fee_add_net
    obtain ⟨hfee, hnet⟩ := (hwell row hmem).terms.parts_nonneg
    exact ⟨hgross, by omega, by omega, fun n hn => hbound n ((hgiven row hmem).paid n hn),
      fun hp => (hpaid row hmem hp).mpr hgross⟩

/-- An intent of five can be paid. One of 2^256 would be accepted as well. -/
theorem amounts_of_rows_five :
    let creation : Int → Operation := fun n =>
      .create (.str "0x1111111111111111111111111111111111111111") (.int n) (.str "GORR") .null .null
        none
    let gateway := (Gateway.fresh .standard 0).after [.perform (creation 5)]
    (∀ n, (Gateway.fresh .standard 0).Gives [.perform (creation 5)] n → n < 2 ^ 256)
      ∧ (∃ row ∈ gateway.store.intents,
        row.grossAmount < 2 ^ 256 ∧ row.paid = false ∧ gateway.CanBePaid row.id)
      ∧ gateway.Accepts (creation 5) ∧ gateway.Accepts (creation (2 ^ 256)) := by
  intro creation gateway
  obtain ⟨-, hbounded, haccepted⟩ := amounts_of_rows .standard 0 [.perform (creation 5)]
  have hgives : ∀ n, (Gateway.fresh .standard 0).Gives [.perform (creation 5)] n →
      n < 2 ^ 256 := by
    rintro n (hevent | hlater)
    · cases hevent with
      | perform h =>
        cases h
        decide
      | transfer hblock _ => cases hblock
    · cases hlater
  have hrows : gateway.store.intents.map (·.paid) = [false] := by decide +kernel
  obtain ⟨row, hintents, hp⟩ := List.map_eq_singleton_iff.mp hrows
  have hmem : row ∈ gateway.store.intents := by
    rw [hintents]
    exact List.mem_singleton_self row
  obtain ⟨hgross, -, -, -, hpaid⟩ := hbounded hgives row hmem
  have hfive : gateway.Accepts (creation 5) := by decide +kernel
  have hlimit : (2 : Int) ^ 256 < 10 ^ Numeral.digitLimit := by
    refine (Numeral.fits_iff_of_nonneg (by decide)).mp ?_
    exact Numeral.fits_of_lt (k := 78) (by decide) (by decide)
  exact ⟨hgives, ⟨row, hmem, hgross, hp, hpaid hp⟩, hfive,
    (haccepted _ _ _ _ _ _ hfive (2 ^ 256)).mpr ⟨by decide, hlimit⟩⟩

/-- An intent of 2^256 is accepted and has a row, and no transfer can pay it. -/
theorem not_refused_too_large :
    let creation : Operation :=
      .create (.str "0x1111111111111111111111111111111111111111") (.int (2 ^ 256)) (.str "GORR")
        .null .null none
    let gateway := (Gateway.fresh .standard 0).after [.perform creation]
    (Gateway.fresh .standard 0).Accepts creation
      ∧ ∃ row ∈ gateway.store.intents, row.grossAmount = 2 ^ 256 ∧ ¬ row.grossAmount ≤ 2 ^ 256 - 1
        ∧ row.paid = false ∧ ¬ gateway.CanBePaid row.id := by
  intro creation gateway
  have hrows : gateway.store.intents.map (fun row => (row.grossAmount, row.paid))
      = [(2 ^ 256, false)] := by
    decide +kernel
  obtain ⟨row, hintents, hrow⟩ := List.map_eq_singleton_iff.mp hrows
  have hmem : row ∈ gateway.store.intents := by
    rw [hintents]
    exact List.mem_singleton_self row
  obtain ⟨hgross, hp⟩ := Prod.mk.inj hrow
  refine ⟨by decide +kernel, row, hmem, hgross, by omega, hp, ?_⟩
  rw [canBePaid_iff .standard 0 [.perform creation] row hmem hp]
  omega

end Reachable

end Gateway

end IntentGateway
