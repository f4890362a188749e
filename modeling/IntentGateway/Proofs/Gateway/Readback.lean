import IntentGateway.Proofs.Gateway.Ending
import IntentGateway.Proofs.Gateway.WellFormed

/-! # Reading back

The view that an operation gives of an intent comes from the terms of a creation, from a row that
was read before anything was decided, or from a row that is read again after an update. Wherever it
comes from, it is the view of the row as it is stored then (`Operation.Ends.exists_row`). So whoever
reads right afterwards, at the same time, finds the same view.
-/

namespace IntentGateway

namespace Store

variable {store : Store}

theorem Sound.nodup_intents (hs : store.Sound) : store.intents.Nodup := by
  have hids : (store.intents.map (·.id)).Nodup := by
    rw [hs.ids]
    exact List.nodup_range'
  exact hids.of_map _

/-- A row is listed once among those of its merchant. -/
theorem Sound.count_ofMerchant (hs : store.Sound) {row : Intent}
    (hl : store.lookup row.id = some row) (now : Int) :
    ((store.ofMerchant row.merchant).map fun intent => View.ofIntent intent now).count
      (.ofIntent row now) = 1 := by
  have hlisted : row ∈ store.ofMerchant row.merchant :=
    List.mem_filter.mpr ⟨mem_of_lookup hl, decide_eq_true rfl⟩
  refine List.count_eq_one_of_mem ?_ (List.mem_map_of_mem hlisted)
  refine (hs.nodup_intents.filter _).map_on fun first hfirst second hsecond hsame => ?_
  -- a view shows the id of its row, and ids do not repeat
  have hid : (first.id : Int) = second.id := congrArg View.id hsame
  exact hs.eq_of_id (hs.lookup_of_mem (List.mem_of_mem_filter hsecond))
    (List.mem_of_mem_filter hfirst) hid

end Store

namespace Operation

variable [Nesting]

/-- The view that an operation gives of an intent is that of its row as it is stored then. -/
theorem Ends.exists_row {policy : Policy} {clock : Int} {store store' : Store}
    {operation : Operation} {outcome : Outcome} {view : View}
    (h : Ends policy clock store operation (.ok outcome, store')) (hs : store'.Sound)
    (hview : outcome.intentView? = some view) :
    ∃ row, store'.lookup row.id = some row ∧ view = .ofIntent row (operation.timeAt clock) := by
  cases h with
  | told _ hnone =>
    rw [hnone] at hview
    cases hview
  | shown hl =>
    cases hview
    exact ⟨_, hl, rfl⟩
  | created _ hi =>
    obtain ⟨_, _, rfl⟩ := Store.insert_eq_ok hi
    cases hview
    exact ⟨_, hs.lookup_of_mem (List.mem_append_right _ List.mem_cons_self), rfl⟩
  | settled _ hl _ =>
    cases hview
    have hl' := Store.lookup_settled hl
    exact ⟨_, hs.lookup_of_mem (Store.mem_of_lookup (hl' _)), rfl⟩
  | refunded _ hl _ _ =>
    cases hview
    have hl' := Store.lookup_withRefund hl
    exact ⟨_, hs.lookup_of_mem (Store.mem_of_lookup hl'), rfl⟩

end Operation

namespace Gateway

variable {gateway : Gateway}

section

variable [Nesting]

/-- Getting an intent that is there shows its row. -/
theorem perform_get (hs : gateway.store.Sound) {id : Int} {row : Intent}
    (hl : gateway.store.lookup id = some row) (now : Option Int) :
    perform (.get id now) gateway
      = (.ok (.view (.ofIntent row (now.getD gateway.now))), gateway) := by
  rw [perform, run, call, Operation.call, Operation.run_load_of_found hs hl]
  rfl

/-- Listing the intents of a merchant shows the rows of that merchant. -/
theorem perform_list {spelling merchant : String}
    (hmerchant : Address.normalize "merchant" (.str spelling) = .ok merchant)
    (now : Option Int) :
    perform (.list (.str spelling) now) gateway
      = (.ok (.views ((gateway.store.ofMerchant merchant).map fun intent =>
          .ofIntent intent (now.getD gateway.now))), gateway) := by
  rw [perform, run, call, Operation.call, hmerchant]
  rfl

/-- The view of an intent that an operation gives, a reader finds right afterwards at the same time:
under the id of the intent, and once among the intents of its merchant. -/
theorem reads_own_writes (policy : Policy) (clock : Rat) (events : List Event)
    (operation : Operation) :
    let gateway := (Gateway.fresh policy clock).after events
    let after := (perform operation gateway).2
    ∀ outcome view, (perform operation gateway).1 = .ok outcome →
      outcome.intentView? = some view →
        perform (.get view.id operation.time?) after = (.ok (.view view), after)
          ∧ ∃ views, perform (.list (.str view.merchant) operation.time?) after
              = (.ok (.views views), after) ∧ views.count view = 1 := by
  intro gateway after outcome view houtcome hview
  have hsteady := intents_wellFormed_after policy clock events
  obtain ⟨hs, hw⟩ : after.store.Sound ∧ ∀ intent ∈ after.store.intents, intent.WellFormed :=
    Store.kept_wellFormed.perform operation hsteady
  have hends : Operation.Ends gateway.policy gateway.now gateway.store operation
      (.ok outcome, after.store) := by
    rw [← houtcome]
    exact Operation.ends_run gateway.policy gateway.now operation hsteady.1
  obtain ⟨row, hl, rfl⟩ := hends.exists_row hs hview
  have hmerchant := Address.normalize_of_canonical?
    (hw row (Store.mem_of_lookup hl)).terms.merchant_canonical "merchant"
  exact ⟨perform_get hs hl _, _, perform_list hmerchant _, hs.count_ofMerchant hl _⟩

end

/-- A transfer that pays too much and too late shows its intent as a reader finds it then. -/
theorem reads_own_writes_late :
    let merchant := "0x1111111111111111111111111111111111111111"
    let create : Operation := .create (.str merchant) (.int 5) (.str "GORR") .null .null none
    let late : Operation := .markPaid
      { data := .str "0x474f52525f5041593a31", amount := .int 7
        payer := .str "0x2222222222222222222222222222222222222222" } (some 1000)
    let gateway := (Gateway.fresh .standard 0).after [.perform create]
    let after := (perform late gateway).2
    ∃ outcome view, (perform late gateway).1 = .ok outcome ∧ outcome.intentView? = some view
      ∧ view.status = "paid_expired"
      ∧ perform (.get 1 (some 1000)) after = (.ok (.view view), after)
      ∧ ∃ views, perform (.list (.str merchant) (some 1000)) after = (.ok (.views views), after)
          ∧ views.count view = 1 := by
  intro merchant create late gateway after
  have hshown : ((perform late gateway).1.toOption.bind Outcome.intentView?).map
      (fun view => (view.status, view.id, view.merchant)) = some ("paid_expired", 1, merchant) := by
    decide +kernel
  rcases houtcome : (perform late gateway).1 with failure | outcome
  · rw [houtcome] at hshown
    cases hshown
  · rw [houtcome] at hshown
    obtain ⟨view, hview, hparts⟩ := Option.map_eq_some_iff.mp hshown
    obtain ⟨hstatus, hid, hmerchant⟩ : view.status = "paid_expired" ∧ view.id = 1
        ∧ view.merchant = merchant := by simpa using hparts
    have hreads := reads_own_writes .standard 0 [.perform create] late outcome view houtcome hview
    rw [hid, hmerchant] at hreads
    exact ⟨outcome, view, rfl, hview, hstatus, hreads⟩

end Gateway

end IntentGateway
