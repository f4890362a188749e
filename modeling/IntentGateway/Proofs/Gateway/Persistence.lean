import IntentGateway.Proofs.Gateway.Errand
import IntentGateway.Proofs.Gateway.Event
import IntentGateway.Proofs.Store.Evolution

/-! # What stays

Between any two points in the life of a gateway its rows only evolve: terms stay, a payment that has
been recorded stays as it was first recorded, and a refund is not taken back. A single operation
touches no row but the one it is about, a refund sets one flag, and reading changes nothing.
-/

namespace IntentGateway

namespace Operation

theorem Settles.lookup_of_ne {store : Store} {id now other : Int} {remittance : Remittance}
    {recipient : Option String} {result : Except Failure Outcome × Store}
    (h : Settles store id now remittance recipient result) (ho : other ≠ id) :
    result.2.lookup other = store.lookup other := by
  cases h with
  | failed failure => rfl
  | replayed _ _ _ => rfl
  | settled _ _ _ _ => exact Store.lookup_amend_of_ne (fun _ => rfl) ho

/-- A refund leaves the store as it is, or sets one flag. -/
theorem Refunds.store_eq {store : Store} {id now : Int} {result : Except Failure Outcome × Store}
    (h : Refunds store id now result) :
    result.2 = store ∨ result.2 = store.amend id Intent.withRefund := by
  cases h with
  | failed failure => exact Or.inl rfl
  | replayed _ _ _ => exact Or.inl rfl
  | refunded _ _ _ => exact Or.inr rfl

/-- Running an errand leaves all rows but its own as they are. -/
theorem lookup_of_errand {store : Store} (hs : store.Sound) (errand : Errand) {other : Int}
    (h : other ≠ errand.id) : (errand.call.run store).2.lookup other = store.lookup other := by
  cases errand with
  | settle id now remittance recipient =>
    exact (settles_load hs now remittance recipient id).lookup_of_ne h
  | refund id now =>
    rcases (refunds_load hs now id).store_eq with hstore | hstore
    · exact congrArg (fun store => Store.lookup store other) hstore
    · refine (congrArg (fun store => Store.lookup store other) hstore).trans ?_
      exact Store.lookup_amend_of_ne (fun _ => rfl) h

variable [Nesting]

/-- An operation leaves all rows but the one it is about as they are. -/
theorem lookup_of_run (policy : Policy) (clock : Int) (operation : Operation) {store : Store}
    (hs : store.Sound) {other : Int} (h : operation.subject? store ≠ some other) :
    ((operation.call policy clock).run store).2.lookup other = store.lookup other := by
  rcases operation.reads_or_updates_or_create with
    hreads | hupdates | ⟨merchant, gross, token, feeBps, lifetime, now, rfl⟩
  · rw [run_of_reads hreads]
  · rw [call_of_updates hupdates]
    rcases herrand : operation.errand clock with failure | (_ | errand)
    · rfl
    · rfl
    · rw [subject?_of_errand herrand store] at h
      exact lookup_of_errand hs errand fun ho => h (ho ▸ rfl)
  · rcases run_create merchant gross token feeBps lifetime now policy clock store with
      ⟨failure, hrun⟩ | ⟨accepted, intent, store', _, hi, hrun⟩
    · rw [hrun]
    · rw [hrun]
      obtain ⟨_, rfl, rfl⟩ := Store.insert_eq_ok hi
      have hid : ((store.nextId : ℕ) : Int) ≠ other := fun ho => h (congrArg some ho)
      simp only [Store.lookup, Store.intentWith?, List.find?_append]
      rw [List.find?_cons_of_neg (by simp [Intent.new, hid]), List.find?_nil,
        Option.or_none]

end Operation

namespace Gateway

variable [Nesting]

/-- Whatever happens in between, rows evolve. -/
theorem evolves_after {gateway : Gateway} (hs : gateway.store.Sound) (events : List Event) :
    gateway.store.Evolves (gateway.after events).store := by
  have hkept := Store.kept_of_effect (P := fun store => gateway.store.Evolves store)
    fun _ h heffect => h.trans heffect.evolves
  exact (hkept.after events ⟨hs, .refl gateway.store⟩).2

/-- Between two points in the life of a gateway rows only evolve. Of all rows an operation changes
at most the one it is about, a refund sets one flag there, and reading changes nothing. Requests and
confirmed transfers perform at most one operation each. -/
theorem rows_persist (policy : Policy) (clock : Rat) (earlier later : List Event) :
    let gateway := (Gateway.fresh policy clock).after earlier
    gateway.store.Evolves (gateway.after later).store
      ∧ (∀ operation id, operation.subject? gateway.store = some id ∨
        (perform operation gateway).2.store.lookup id = gateway.store.lookup id)
      ∧ (∀ id now, (perform (.refund id now) gateway).2.store = gateway.store ∨
        (perform (.refund id now) gateway).2.store = gateway.store.amend id Intent.withRefund)
      ∧ (∀ id now, (perform (.get id now) gateway).2 = gateway)
      ∧ (∀ merchant now, (perform (.list merchant now) gateway).2 = gateway)
      ∧ (∀ address, (perform (.balances address) gateway).2 = gateway)
      ∧ (∀ request, (gateway.serve request).2 = gateway ∨
        ∃ operation, (gateway.serve request).2 = (perform operation gateway).2)
      ∧ ∀ block transfer, (confirmTransfer block transfer gateway).2 = gateway ∨
        ∃ payment, (confirmTransfer block transfer gateway).2
          = (perform (.markPaid payment none) gateway).2 := by
  intro gateway
  have hs : gateway.store.Sound := sound_after policy clock earlier
  have hreads : ∀ operation : Operation, operation.reads = true →
      (perform operation gateway).2 = gateway := by
    intro operation h
    rw [perform_snd, call, Operation.run_of_reads h]
  refine ⟨evolves_after hs later, fun operation id => ?_, fun id now => ?_, fun _ _ => hreads _ rfl,
    fun _ _ => hreads _ rfl, fun _ => hreads _ rfl, gateway.serve_eq_or_perform,
    gateway.confirmTransfer_eq_or_perform⟩
  · by_cases hid : operation.subject? gateway.store = some id
    · exact Or.inl hid
    · rw [perform_snd]
      exact Or.inr (operation.lookup_of_run gateway.policy gateway.now hs hid)
  · rw [perform_snd]
    exact (Operation.refunds_load hs (now.getD gateway.now) id).store_eq

end Gateway

end IntentGateway
