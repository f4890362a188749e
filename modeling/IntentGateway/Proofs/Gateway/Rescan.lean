import IntentGateway.Proofs.Gateway.Persistence
import IntentGateway.Proofs.Watcher.Poll

/-! # Blocks that are taken in again

A watcher that is started anew takes in blocks a second time. A transfer that has been taken in pays
no unpaid intent any more, and none of the intents that were there becomes unpaid again; so whatever
has happened in between, as long as no intent has been added, taking the blocks in again changes
nothing. A transfer that could not be taken in fails again, and what is behind it stays untouched.

The argument is about any later store whose rows all descend from rows of the store that the blocks
left (`Store.Descends`): terms stay, a settlement stays, and no row is new. Each operation but a
creation, each block and each poll keeps to that, so it holds of whatever happens in between. The
induction over the blocks then compares the two runs transfer by transfer, the first one in the
store as it was and the second one in the later store, which does not change.
-/

namespace IntentGateway

open Remote (Block Transfer)

/-- Whether the numbers of a block are in range: its number and time fit their columns, and its
transfers carry less than 2^256 each. -/
structure Remote.Block.InRange (block : Block) : Prop where
  number : Store.fitsColumn block.number = true
  timestamp : Store.fitsColumn block.timestamp = true
  value_lt : ∀ transfer ∈ block.transfers, transfer.value < 2 ^ 256

/-- Whether an event adds no intent. A request over HTTP may ask for one. -/
def Event.addsNone : Event → Bool
  | .perform operation => operation.reads || operation.updates
  | .serve _ => false
  | _ => true

/-! ## Stores without new rows -/

namespace Intent

/-- Recording a settlement of an unpaid intent evolves it. -/
theorem evolves_settled {intent : Intent} (hp : intent.paid = false)
    (settlement : Settlement) : intent.Evolves (intent.settled settlement) := by
  refine ⟨rfl, rfl, fun hpaid => ?_, fun hr => hr⟩
  rw [hp] at hpaid
  cases hpaid

theorem evolves_orSettled (intent : Intent) (settlement : Option Settlement) :
    intent.Evolves (intent.orSettled settlement) :=
  ⟨rfl, rfl, fun hp => congrArg Intent.toPaymentColumns (orSettled_of_paid hp settlement),
    fun hr => hr⟩

end Intent

namespace Store

/-- Each row of the later store is what a row of the earlier one has become. -/
def Descends (earlier later : Store) : Prop :=
  ∀ row ∈ later.intents, ∃ origin ∈ earlier.intents, origin.Evolves row

variable {store : Store}

theorem Descends.refl (store : Store) : store.Descends store :=
  fun row hrow => ⟨row, hrow, .refl row⟩

theorem Descends.trans {first second third : Store} (h : first.Descends second)
    (h' : second.Descends third) : first.Descends third := by
  intro row hrow
  obtain ⟨middle, hmiddle, hlater⟩ := h' row hrow
  obtain ⟨origin, horigin, hearlier⟩ := h middle hmiddle
  exact ⟨origin, horigin, hearlier.trans hlater⟩

theorem descends_of_intents_eq {later : Store} (h : later.intents = store.intents) :
    store.Descends later := by
  intro row hrow
  rw [h] at hrow
  exact ⟨row, hrow, .refl row⟩

/-- Changing one row adds none. -/
theorem Sound.descends_amend (hs : store.Sound) {id : Int} {intent : Intent}
    {change : Intent → Intent} (hl : store.lookup id = some intent)
    (h : intent.Evolves (change intent)) : store.Descends (store.amend id change) := by
  intro row hrow
  rcases hs.mem_amend hl hrow with hold | rfl
  · exact ⟨row, hold, .refl row⟩
  · exact ⟨intent, mem_of_lookup hl, h⟩

/-- Settling unpaid rows adds none. -/
theorem descends_settledBy (rule : Intent → Option Settlement) :
    store.Descends (store.settledBy rule) := by
  intro row hrow
  obtain ⟨origin, horigin, rfl⟩ := List.mem_map.mp hrow
  exact ⟨origin, horigin, origin.evolves_orSettled _⟩

end Store

/-! ## Operations and blocks add no row -/

namespace Operation

variable {store : Store}

theorem Settles.descends {id now : Int} {remittance : Remittance} {recipient : Option String}
    {result : Except Failure Outcome × Store} (hs : store.Sound)
    (h : Settles store id now remittance recipient result) : store.Descends result.2 := by
  cases h with
  | failed failure => exact .refl store
  | replayed _ _ _ => exact .refl store
  | settled hl hp _ _ => exact hs.descends_amend hl (Intent.evolves_settled hp _)

theorem Refunds.descends {id now : Int} {result : Except Failure Outcome × Store}
    (hs : store.Sound) (h : Refunds store id now result) : store.Descends result.2 := by
  cases h with
  | failed failure => exact .refl store
  | replayed _ _ _ => exact .refl store
  | refunded hl _ _ =>
    exact hs.descends_amend hl ⟨rfl, rfl, fun _ => rfl, fun _ => rfl⟩

variable [Nesting]

/-- An operation that reads or updates adds no row. -/
theorem descends_of_run {operation : Operation}
    (h : (operation.reads || operation.updates) = true) (policy : Policy) (clock : Int)
    (hs : store.Sound) : store.Descends ((operation.call policy clock).run store).2 := by
  rcases Bool.or_eq_true_iff.mp h with hreads | hupdates
  · rw [run_of_reads hreads]
    exact .refl store
  · rw [call_of_updates hupdates]
    rcases operation.errand clock with failure | (_ | errand)
    · exact .refl store
    · exact .refl store
    · cases errand with
      | settle id now remittance recipient =>
        exact (settles_load hs now remittance recipient id).descends hs
      | refund id now => exact (refunds_load hs now id).descends hs

end Operation

namespace Gateway

variable {gateway : Gateway}

variable [Nesting]

theorem descends_confirmTransfer (hg : gateway.Steady) (block : Block) (transfer : Transfer) :
    gateway.store.Descends (confirmTransfer block transfer gateway).2.store := by
  rcases confirmTransfer_cases hg.1 hg.2 block transfer with ⟨view, hrun⟩ | ⟨_, failure, hrun⟩
  · rw [hrun]
    exact Store.descends_settledBy _
  · rw [hrun]
    exact .refl gateway.store

theorem descends_confirmTransfers (hg : gateway.Steady) (block : Block)
    (transfers : List Transfer) :
    gateway.store.Descends (confirmTransfers block transfers gateway).2.store := by
  induction transfers generalizing gateway with
  | nil => exact .refl gateway.store
  | cons transfer transfers ih =>
    have hfirst := descends_confirmTransfer hg block transfer
    have hkept := Store.kept_wellFormed.confirmTransfer block transfer hg
    rw [confirmTransfers]
    rcases hrun : confirmTransfer block transfer gateway with ⟨failure | view, middle⟩
    · rw [hrun] at hfirst
      exact hfirst
    · rw [hrun] at hfirst hkept
      dsimp only
      rw [Action.map_snd]
      exact hfirst.trans (ih hkept)

/-- Taking in blocks keeps a gateway steady. -/
theorem steady_of_confirmBlocks (hg : gateway.Steady) (blocks : List Block) :
    (confirmBlocks blocks gateway).2.Steady := by
  induction blocks generalizing gateway with
  | nil => exact hg
  | cons block blocks ih =>
    refine Action.andThen_keeps (P := Steady)
      (Store.kept_wellFormed.confirmTransfers block block.transfers hg) ?_
    intro count middle hmiddle
    rw [Action.map_snd]
    exact ih hmiddle

theorem descends_confirmBlocks (hg : gateway.Steady) (blocks : List Block) :
    gateway.store.Descends (confirmBlocks blocks gateway).2.store := by
  induction blocks generalizing gateway with
  | nil => exact .refl gateway.store
  | cons block blocks ih =>
    have hfirst := descends_confirmTransfers hg block block.transfers
    have hkept := Store.kept_wellFormed.confirmTransfers block block.transfers hg
    rw [confirmBlocks, Action.andThen, confirmBlock]
    rcases hrun : confirmTransfers block block.transfers gateway with ⟨failure | count, middle⟩
    · rw [hrun] at hfirst
      exact hfirst
    · rw [hrun] at hfirst hkept
      dsimp only
      rw [Action.map_snd]
      exact hfirst.trans (ih hkept)

end Gateway

namespace Watcher

section

variable {σ τ : Type} [Seconds τ] {store : Store} {watcher : Watcher σ}

variable [Nesting]

theorem descends_takeIn (block : Block)
    (h : store.Descends watcher.gateway.store ∧ watcher.gateway.Steady) :
    store.Descends (takeIn block watcher).2.gateway.store
      ∧ (takeIn block watcher).2.gateway.Steady := by
  refine ⟨?_, Store.kept_wellFormed.takeIn block h.2⟩
  have hblock := Gateway.descends_confirmTransfers h.2 block block.transfers
  rw [takeIn, Gateway.confirmBlock]
  rcases hrun : Gateway.confirmTransfers block block.transfers watcher.gateway with
    ⟨failure | count, gateway⟩
  · rw [hrun] at hblock
    exact h.1.trans hblock
  · rw [hrun] at hblock
    exact h.1.trans hblock

theorem descends_catchUp (node : Client.Endpoint σ τ) (due : ℕ)
    (h : store.Descends watcher.gateway.store ∧ watcher.gateway.Steady) :
    store.Descends (catchUp node due watcher).2.gateway.store
      ∧ (catchUp node due watcher).2.gateway.Steady := by
  induction due generalizing watcher with
  | zero => exact h
  | succ due ih =>
    have hstep : store.Descends (step node watcher).2.gateway.store
        ∧ (step node watcher).2.gateway.Steady :=
      Action.andThen_keeps
        (P := fun w : Watcher σ => store.Descends w.gateway.store ∧ w.gateway.Steady) h
        fun block _ h' => descends_takeIn block h'
    refine Action.andThen_keeps
      (P := fun w : Watcher σ => store.Descends w.gateway.store ∧ w.gateway.Steady) hstep ?_
    intro count watcher' h'
    rw [Action.map_snd]
    exact ih h'

theorem descends_poll (node : Client.Endpoint σ τ) (hg : watcher.gateway.Steady) :
    watcher.gateway.store.Descends (poll node watcher).2.gateway.store := by
  have hpoll : watcher.gateway.store.Descends (poll node watcher).2.gateway.store
      ∧ (poll node watcher).2.gateway.Steady :=
    Action.andThen_keeps
      (P := fun w : Watcher σ => watcher.gateway.store.Descends w.gateway.store ∧ w.gateway.Steady)
      ⟨.refl _, hg⟩ fun head w h => descends_catchUp node _ h
  exact hpoll.1

end

end Watcher

namespace Gateway

variable {gateway : Gateway}

variable [Nesting]

/-- An event that adds no intent adds no row. -/
theorem descends_apply {event : Event} (h : event.addsNone = true) (hg : gateway.Steady) :
    gateway.store.Descends (Event.apply gateway event).store := by
  cases event with
  | tick clock => exact .refl gateway.store
  | configure policy => exact .refl gateway.store
  | credit balance =>
    rw [Event.apply]
    cases hb : gateway.store.addBalance balance with
    | error e => exact .refl gateway.store
    | ok store => exact Store.descends_of_intents_eq (Store.intents_of_addBalance hb)
  | perform operation => exact Operation.descends_of_run h gateway.policy gateway.now hg.1
  | serve request => cases h
  | confirm block => exact descends_confirmTransfers hg block block.transfers
  | poll node nextBlock connection => exact Watcher.descends_poll node hg

/-- Nor do such events one after the other. -/
theorem descends_after {events : List Event} (h : ∀ event ∈ events, event.addsNone = true)
    (hg : gateway.Steady) : gateway.store.Descends (gateway.after events).store := by
  induction events generalizing gateway with
  | nil => exact .refl gateway.store
  | cons event events ih =>
    obtain ⟨hevent, hevents⟩ := List.forall_mem_cons.mp h
    exact (descends_apply hevent hg).trans (ih hevents (Store.kept_wellFormed.apply event hg))

end Gateway

/-! ## Taking in again -/

namespace Intent

variable {intent : Intent} {transfer : Transfer}

/-- Which transfers pay an intent is settled by its terms and its id. -/
theorem Evolves.paidBy_iff {later : Intent} (h : intent.Evolves later) :
    later.PaidBy transfer ↔ intent.PaidBy transfer := by
  rw [PaidBy, PaidBy, h.id, h.merchant, h.grossAmount]

/-- An intent that is unpaid after a transfer has been taken in is not paid by it. -/
theorem not_paidBy_of_unpaid_orSettled {block : Block}
    (h : (intent.orSettled (intent.settlementBy? block transfer)).paid = false) :
    ¬ intent.PaidBy transfer := by
  intro hpays
  cases hp : intent.paid with
  | true =>
    rw [orSettled_of_paid hp, hp] at h
    cases h
  | false =>
    rw [paid_orSettled hp, isSome_settlementBy?.mpr hpays] at h
    cases h

end Intent

namespace Gateway

variable {gateway later : Gateway} {block : Block} {transfer : Transfer}

section

variable [Nesting]

/-- A transfer that has been taken in pays no unpaid row, as long as no row is added. -/
theorem not_paidBy_of_descends (hg : gateway.Steady) {view : Option View} {middle : Gateway}
    (h : confirmTransfer block transfer gateway = (.ok view, middle))
    (hlater : middle.store.Descends later.store) :
    ∀ row ∈ later.store.intents, row.paid = false → ¬ row.PaidBy transfer := by
  have hmiddle : middle = gateway.settledBy (·.settlementBy? block transfer) := by
    rcases confirmTransfer_cases hg.1 hg.2 block transfer with ⟨view', hrun⟩ | ⟨_, _, hrun⟩
    · rw [h] at hrun
      cases hrun
      rfl
    · rw [h] at hrun
      cases hrun
  subst hmiddle
  intro row hrow hunpaid
  obtain ⟨settled, hsettled, hevolves⟩ := hlater row hrow
  obtain ⟨origin, _, rfl⟩ := List.mem_map.mp hsettled
  have horigin : (origin.orSettled (origin.settlementBy? block transfer)).paid = false := by
    rw [Bool.eq_false_iff]
    intro hpaid
    rw [hevolves.paid hpaid] at hunpaid
    cases hunpaid
  rw [((origin.evolves_orSettled _).trans hevolves).paidBy_iff]
  exact Intent.not_paidBy_of_unpaid_orSettled horigin

/-- A transfer that pays no unpaid row changes nothing. -/
theorem confirmTransfer_of_not_paidBy (hg : gateway.Steady)
    (h : ∀ row ∈ gateway.store.intents, row.paid = false → ¬ row.PaidBy transfer) :
    (confirmTransfer block transfer gateway).2 = gateway := by
  rcases confirmTransfer_cases hg.1 hg.2 block transfer with ⟨view, hrun⟩ | ⟨_, failure, hrun⟩
  · rw [hrun, settledBy, Operation.settledBy_of_forall_not h]
  · rw [hrun]

omit [Nesting] in
/-- An amount in range that cannot be written is negative. -/
theorem value_neg_of_not_fits (hblock : block.InRange) (hmem : transfer ∈ block.transfers)
    (h : Numeral.fits transfer.value = false) : transfer.value < 0 := by
  by_contra hnonneg
  have hhigh := hblock.value_lt transfer hmem
  have hfits : Numeral.fits transfer.value = true := Numeral.fits_of_lt_two_pow (by omega)
  rw [hfits] at h
  cases h

/-- What fails is a payment. -/
theorem exists_payment_of_fails {failure : Failure} {middle : Gateway}
    (h : confirmTransfer block transfer gateway = (.error failure, middle)) :
    ∃ payment, Payment.ofTransfer? block transfer = some payment := by
  rw [confirmTransfer] at h
  cases hp : Payment.ofTransfer? block transfer with
  | none =>
    rw [hp] at h
    cases h
  | some payment => exact ⟨payment, rfl⟩

/-- A transfer in range fails only for want of words to refuse it in, whatever the store. -/
theorem confirmTransfer_fails_again (hg : gateway.Steady) (hblock : block.InRange)
    (hmem : transfer ∈ block.transfers) {failure : Failure} {middle : Gateway}
    (h : confirmTransfer block transfer gateway = (.error failure, middle)) (later : Gateway) :
    ∃ failure, confirmTransfer block transfer later = (.error failure, later) := by
  have hmisfit : ¬ block.Fits transfer := by
    rcases confirmTransfer_cases hg.1 hg.2 block transfer with ⟨view, hrun⟩ | ⟨hmisfit, _⟩
    · rw [h] at hrun
      cases hrun
    · exact hmisfit
  have hunwritable : Numeral.fits transfer.value = false := by
    rw [Bool.eq_false_iff]
    exact fun hfits => hmisfit ⟨hblock.number, hblock.timestamp, hfits⟩
  obtain ⟨payment, hpayment⟩ := exists_payment_of_fails h
  have hrun := Operation.run_markPaid_of_unwritable hpayment
    (value_neg_of_not_fits hblock hmem hunwritable) hunwritable later.policy later.now later.store
  have hperform : perform (.markPaid payment none) later
      = (.error (.numeral .tooLarge), later) := by
    rw [perform, run, call, hrun]
  refine ⟨.numeral .tooLarge, ?_⟩
  rw [confirmTransfer, hpayment]
  simp only [hperform]
  rfl

/-- Transfers that are taken in again change nothing, and fail again if they did. -/
theorem confirmTransfers_again (hg : gateway.Steady) (hblock : block.InRange)
    {transfers : List Transfer} (hmem : ∀ transfer ∈ transfers, transfer ∈ block.transfers)
    (hl : later.Steady)
    (hlater : (confirmTransfers block transfers gateway).2.store.Descends later.store) :
    (confirmTransfers block transfers later).2 = later
      ∧ ∀ failure, (confirmTransfers block transfers gateway).1 = .error failure →
        ∃ failure, (confirmTransfers block transfers later).1 = .error failure := by
  induction transfers generalizing gateway with
  | nil => exact ⟨rfl, fun failure h => nomatch h⟩
  | cons transfer transfers ih =>
    obtain ⟨hfirst, hrest⟩ := List.forall_mem_cons.mp hmem
    have hkept := Store.kept_wellFormed.confirmTransfer block transfer hg
    rw [confirmTransfers] at hlater ⊢
    rcases hrun : confirmTransfer block transfer gateway with ⟨failure | view, middle⟩
    · obtain ⟨failure', hagain⟩ := confirmTransfer_fails_again hg hblock hfirst hrun later
      rw [confirmTransfers, hagain]
      exact ⟨rfl, fun _ _ => ⟨failure', rfl⟩⟩
    · rw [hrun] at hlater hkept
      dsimp only at hlater ⊢
      rw [Action.map_snd] at hlater
      have hinert : (confirmTransfer block transfer later).2 = later :=
        confirmTransfer_of_not_paidBy hl (not_paidBy_of_descends hg hrun
          ((descends_confirmTransfers hkept block transfers).trans hlater))
      obtain ⟨hsame, hfails⟩ := ih hkept hrest hlater
      rw [confirmTransfers]
      rcases hagain : confirmTransfer block transfer later with ⟨failure | view', same⟩
      · rw [hagain] at hinert
        exact ⟨hinert, fun _ _ => ⟨failure, rfl⟩⟩
      · rw [hagain] at hinert
        dsimp only at hinert ⊢
        subst hinert
        rw [Action.map_snd]
        refine ⟨hsame, fun failure hfailure => ?_⟩
        rw [hrun] at hfailure
        obtain ⟨failure', hfailed⟩ := hfails failure (Action.map_eq_error_iff.mp hfailure)
        exact ⟨failure', Action.map_eq_error_iff.mpr hfailed⟩

/-- Blocks that are taken in again change nothing. -/
theorem confirmBlocks_again (hg : gateway.Steady) {blocks : List Block}
    (hblocks : ∀ block ∈ blocks, block.InRange) (hl : later.Steady)
    (hlater : (confirmBlocks blocks gateway).2.store.Descends later.store) :
    (confirmBlocks blocks later).2 = later := by
  induction blocks generalizing gateway with
  | nil => rfl
  | cons block blocks ih =>
    obtain ⟨hblock, hrest⟩ := List.forall_mem_cons.mp hblocks
    have hkept := Store.kept_wellFormed.confirmTransfers block block.transfers hg
    rw [confirmBlocks, Action.andThen, confirmBlock] at hlater ⊢
    rcases hrun : confirmTransfers block block.transfers gateway with ⟨failure | count, middle⟩
    · rw [hrun] at hlater
      obtain ⟨hsame, hfails⟩ :=
        confirmTransfers_again hg hblock (fun _ h => h) hl (by rwa [hrun])
      obtain ⟨failure', hagain⟩ := hfails failure (by rw [hrun])
      rcases hresult : confirmTransfers block block.transfers later with ⟨failure | count, same⟩
      · rw [hresult] at hsame
        exact hsame
      · rw [hresult] at hagain
        cases hagain
    · rw [hrun] at hlater hkept
      dsimp only at hlater
      rw [Action.map_snd] at hlater
      have hmiddle : (confirmTransfers block block.transfers gateway).2.store.Descends
          later.store := by
        rw [hrun]
        exact (descends_confirmBlocks hkept blocks).trans hlater
      obtain ⟨hsame, -⟩ := confirmTransfers_again hg hblock (fun _ h => h) hl hmiddle
      rcases hresult : confirmTransfers block block.transfers later with ⟨failure | count', same⟩
      · rw [hresult] at hsame
        exact hsame
      · rw [hresult] at hsame
        dsimp only at hsame ⊢
        subst hsame
        rw [Action.map_snd]
        exact ih hkept hrest hlater

/-- Blocks are taken in, then anything happens but that intents are added, and then the same blocks
are taken in again: the second time changes nothing. -/
theorem rescan_changes_nothing (policy : Policy) (clock : Rat) (earlier : List Event)
    {blocks : List Block} (hblocks : ∀ block ∈ blocks, block.InRange) {between : List Event}
    (hbetween : ∀ event ∈ between, event.addsNone = true) :
    let gateway := (Gateway.fresh policy clock).after earlier
    let scanned := (confirmBlocks blocks gateway).2.after between
    (confirmBlocks blocks scanned).2 = scanned := by
  intro gateway scanned
  have hg : gateway.Steady := intents_wellFormed_after policy clock earlier
  have hfirst : (confirmBlocks blocks gateway).2.Steady := steady_of_confirmBlocks hg blocks
  have hl : scanned.Steady := Store.kept_wellFormed.after between hfirst
  exact confirmBlocks_again hg hblocks hl (descends_after hbetween hfirst)

end

/-- A transfer that has paid an intent does not pay it again after the refund. -/
theorem rescan_changes_nothing_after_refund :
    let address := "0x1111111111111111111111111111111111111111"
    let gateway := (Gateway.fresh .standard 0).after
      [.perform (.create (.str address) (.int 5) (.str "GORR") .null .null none)]
    let blocks : List Block :=
      [{ number := 7, timestamp := 9, hash := none
         transfers := [{ hash := "0xbb", sender := address, recipient := some address, value := 5
                         data := "0x474f52525f5041593a31" }] }]
    let scanned := (confirmBlocks blocks gateway).2.after [.perform (.refund 1 none)]
    (confirmBlocks blocks gateway).2.store.intents.map (·.paid) = [true]
      ∧ scanned.store.intents.map (·.refunded) = [true]
      ∧ (confirmBlocks blocks scanned).2 = scanned := by
  intro address gateway blocks scanned
  have hblocks : ∀ block ∈ blocks, block.InRange := by
    simp only [blocks, List.forall_mem_singleton]
    exact ⟨by decide, by decide, by decide⟩
  refine ⟨by decide +kernel, by decide +kernel, ?_⟩
  exact rescan_changes_nothing .standard 0
    [.perform (.create (.str address) (.int 5) (.str "GORR") .null .null none)] hblocks
    (List.forall_mem_singleton.mpr rfl)

end Gateway

end IntentGateway
