import IntentGateway.Gateway.Confirmation
import IntentGateway.Proofs.Gateway.Errand
import IntentGateway.Proofs.Gateway.Event

/-! # Where a row comes from

An operation leaves the store as it is, or it succeeds and makes one row: it adds an intent, records
a settlement, or records a refund. What each of these has checked comes with the row, so an
invariant of the rows has one case for each. In particular an operation that fails changes nothing.
-/

namespace IntentGateway

namespace Operation

variable [Nesting]

/-- How a row that an operation makes has come about. -/
inductive Made (store : Store) : Operation → Intent → Prop where
  | created {policy : Policy} {merchant gross token feeBps lifetime : Value} {given : Option Int}
      {now : Int} {accepted : Terms}
      (h : terms policy merchant gross token feeBps lifetime now = .ok accepted)
      (hc : Store.checkColumns [accepted.grossAmount, accepted.feeAmount, accepted.netAmount]
        [(store.nextId : Int), accepted.createdAt, accepted.expiry] = .ok ()) :
      Made store (.create merchant gross token feeBps lifetime given)
        (Intent.new accepted store.nextId)
  | settled {operation : Operation} {clock id now : Int} {remittance : Remittance}
      {recipient : Option String} {intent : Intent}
      (h : operation.errand clock = .ok (some (.settle id now remittance recipient)))
      (hl : store.lookup id = some intent)
      (hf : settleRefusal? intent recipient remittance.confirmed = none)
      (hc : Store.checkSettlement id (remittance.settlementOf intent.grossAmount) = .ok ()) :
      Made store operation (intent.settled (remittance.settlementOf intent.grossAmount))
  | refunded {operation : Operation} {intent : Intent} (h : intent ∈ store.intents)
      (hp : intent.paid = true) :
      Made store operation intent.withRefund

/-- A result of an operation that leaves the store as it is, or is a success that has made one row.
-/
def Leaves (store : Store) (operation : Operation) (result : Except Failure Outcome × Store) :
    Prop :=
  result.2 = store ∨ ∃ outcome made, result.1 = .ok outcome ∧ Made store operation made
    ∧ ∀ row ∈ result.2.intents, row ∈ store.intents ∨ row = made

variable {store : Store}

theorem leaves_of_settles {operation : Operation} {clock id now : Int} {remittance : Remittance}
    {recipient : Option String} {result : Except Failure Outcome × Store} (hs : store.Sound)
    (herrand : operation.errand clock = .ok (some (.settle id now remittance recipient)))
    (h : Settles store id now remittance recipient result) : Leaves store operation result := by
  cases h with
  | failed failure => exact Or.inl rfl
  | replayed _ _ _ => exact Or.inl rfl
  | settled hl _ hf hc =>
    exact Or.inr ⟨_, _, rfl, .settled herrand hl hf hc, fun row hrow => hs.mem_amend hl hrow⟩

theorem leaves_of_refunds {id now : Int} {result : Except Failure Outcome × Store}
    (hs : store.Sound) (h : Refunds store id now result) (operation : Operation) :
    Leaves store operation result := by
  cases h with
  | failed failure => exact Or.inl rfl
  | replayed _ _ _ => exact Or.inl rfl
  | refunded hl hp _ =>
    exact Or.inr ⟨_, _, rfl, .refunded (Store.mem_of_lookup hl) hp,
      fun row hrow => hs.mem_amend hl hrow⟩

/-- Every operation leaves the store as it is, or succeeds and makes one row. -/
theorem leaves_of_run (policy : Policy) (clock : Int) (operation : Operation) (hs : store.Sound) :
    Leaves store operation ((operation.call policy clock).run store) := by
  rcases operation.reads_or_updates_or_create with
    hreads | hupdates | ⟨merchant, gross, token, feeBps, lifetime, now, rfl⟩
  · exact Or.inl (run_of_reads hreads policy clock store)
  · rw [call_of_updates hupdates]
    rcases herrand : operation.errand clock with failure | (_ | errand)
    · exact Or.inl rfl
    · exact Or.inl rfl
    · cases errand with
      | settle id now remittance recipient =>
        exact leaves_of_settles hs herrand (settles_load hs now remittance recipient id)
      | refund id now => exact leaves_of_refunds hs (refunds_load hs now id) operation
  · rcases run_create merchant gross token feeBps lifetime now policy clock store with
      ⟨failure, h⟩ | ⟨accepted, intent, store', ht, hi, h⟩
    · rw [h]
      exact Or.inl rfl
    · obtain ⟨hc, rfl, rfl⟩ := Store.insert_eq_ok hi
      rw [h]
      refine Or.inr ⟨_, _, rfl, .created ht hc, fun row hrow => ?_⟩
      simpa using hrow

/-- What all rows share is shared after an operation, if the row that it makes shares it. -/
theorem forall_of_run {P : Intent → Prop} (policy : Policy) (clock : Int) (operation : Operation)
    (hs : store.Sound) (h : ∀ row ∈ store.intents, P row)
    (hmade : ∀ made, Made store operation made → P made) :
    ∀ row ∈ ((operation.call policy clock).run store).2.intents, P row := by
  rcases leaves_of_run policy clock operation hs with hsame | ⟨_, made, _, hm, hrows⟩
  · rw [hsame]
    exact h
  · intro row hrow
    rcases hrows row hrow with hold | rfl
    · exact h row hold
    · exact hmade row hm

/-- An operation that fails leaves the store as it is. -/
theorem run_of_error (policy : Policy) (clock : Int) (operation : Operation) (hs : store.Sound)
    {failure : Failure} (h : ((operation.call policy clock).run store).1 = .error failure) :
    ((operation.call policy clock).run store).2 = store := by
  rcases leaves_of_run policy clock operation hs with hsame | ⟨outcome, _, hok, _, _⟩
  · exact hsame
  · rw [hok] at h
    cases h

end Operation

/-! ## What all rows share -/

variable [Nesting]

/-- What every row that is made shares with the rows that were there is an invariant. -/
theorem Store.kept_of_made {P : Intent → Prop}
    (h : ∀ {store : Store} {operation : Operation} {made : Intent},
      (∀ row ∈ store.intents, P row) → Operation.Made store operation made → P made) :
    Kept fun store => store.Sound ∧ ∀ row ∈ store.intents, P row := by
  refine ⟨fun policy clock operation store hs => ⟨?_, ?_⟩,
    fun store balance store' hb hs => ⟨?_, ?_⟩⟩
  · exact (Call.run_keeps (P := fun _ => True) (fun _ _ _ => trivial) _ hs.1 trivial).1
  · exact Operation.forall_of_run policy clock operation hs.1 hs.2 fun _ hmade => h hs.2 hmade
  · exact (Effect.credit hb).sound hs.1
  · rw [intents_of_addBalance hb]
    exact hs.2

/-- An invariant of the rows holds whatever has happened to a gateway that began without any. -/
theorem Gateway.rows_after {P : Intent → Prop}
    (h : Store.Kept fun store => store.Sound ∧ ∀ row ∈ store.intents, P row) (policy : Policy)
    (clock : Rat) (events : List Event) :
    let store := ((Gateway.fresh policy clock).after events).store
    store.Sound ∧ ∀ row ∈ store.intents, P row := by
  have hfresh : ∀ row ∈ (Gateway.fresh policy clock).store.intents, P row := by
    intro row hmem
    cases hmem
  exact h.after events ⟨Store.Sound.empty, hfresh⟩

/-! ## Failures -/

/-- An operation of a gateway that fails leaves the gateway as it is. -/
theorem Gateway.perform_of_error {gateway gateway' : Gateway} (hs : gateway.store.Sound)
    {operation : Operation} {failure : Failure}
    (h : perform operation gateway = (.error failure, gateway')) : gateway' = gateway := by
  have hresult : ((gateway.call operation).run gateway.store).1 = .error failure :=
    congrArg Prod.fst h
  have hstore := Operation.run_of_error gateway.policy gateway.now operation hs hresult
  have hafter := congrArg Prod.snd h
  rw [perform_snd, call, hstore] at hafter
  exact hafter.symm

/-- A confirmed transfer that cannot be taken in leaves the gateway as it is. -/
theorem Gateway.confirmTransfer_of_error {gateway gateway' : Gateway} (hs : gateway.store.Sound)
    {block : Remote.Block} {transfer : Remote.Transfer} {failure : Failure}
    (h : confirmTransfer block transfer gateway = (.error failure, gateway')) :
    gateway' = gateway := by
  rw [confirmTransfer] at h
  split at h
  · cases h
  · split at h
    · cases h
    · rename_i hperform
      obtain rfl := perform_of_error hs hperform
      split at h
      · cases h
      · cases h
        rfl

end IntentGateway
