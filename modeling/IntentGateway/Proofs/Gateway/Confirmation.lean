import IntentGateway.Proofs.Gateway.WellFormed
import IntentGateway.Proofs.Numeral.Decimal

/-! # Which transfers pay

Blocks are taken in one transfer at a time, each against the store as the ones before have left it.
What comes out is the same as if every unpaid intent were looked at on its own: it is paid by the
first transfer that names it, goes to its merchant, comes from an address and carries enough; all
other transfers are passed over. No transfer makes taking in a block fail.
-/

namespace IntentGateway

open Remote (Block Transfer)

/-! ## The transfer that pays an intent -/

/-- Whether a transfer pays an intent. -/
def Intent.PaidBy (intent : Intent) (transfer : Transfer) : Prop :=
  Marker.ofData (.str transfer.data) = some intent.id
    ∧ transfer.recipient.bind Address.canonical? = some intent.merchant
    ∧ (Address.canonical? transfer.sender).isSome = true
    ∧ intent.grossAmount ≤ transfer.value

instance (intent : Intent) (transfer : Transfer) : Decidable (intent.PaidBy transfer) :=
  inferInstanceAs (Decidable (_ ∧ _ ∧ _ ∧ _))

/-- How a transfer of a block settles an intent, if it pays it. -/
def Intent.settlementBy? (intent : Intent) (block : Block) (transfer : Transfer) :
    Option Settlement :=
  if intent.PaidBy transfer then
    (Address.canonical? transfer.sender).map fun payer =>
      { payer, amount := transfer.value, txHash := some transfer.hash
        blockNumber := some block.number, paidAt := block.timestamp }
  else none

/-- How the first transfer of some blocks that pays an intent settles it, if there is one. -/
def Intent.firstSettlement? (intent : Intent) (blocks : List Block) : Option Settlement :=
  blocks.findSome? fun block => block.transfers.findSome? (intent.settlementBy? block)

/-- The columns of a payment, with a settlement recorded if there is one and none was recorded. -/
def PaymentColumns.orSettled (columns : PaymentColumns) : Option Settlement → PaymentColumns
  | none => columns
  | some settlement => if columns.paid then columns else settlement.columns

/-- The intent with a settlement recorded, if there is one and the intent has not been paid. -/
def Intent.orSettled (intent : Intent) (settlement : Option Settlement) : Intent :=
  { intent with toPaymentColumns := intent.toPaymentColumns.orSettled settlement }

/-- The intent after some blocks have been confirmed. -/
def Intent.confirmedBy (intent : Intent) (blocks : List Block) : Intent :=
  intent.orSettled (intent.firstSettlement? blocks)

/-- Whether a transfer of a block is the first one of some blocks that pays an intent. -/
def Intent.FirstPaidBy (intent : Intent) (blocks : List Block) (block : Block)
    (transfer : Transfer) : Prop :=
  ∃ before after earlier later, blocks = before ++ block :: after
    ∧ block.transfers = earlier ++ transfer :: later
    ∧ (∀ other ∈ before, ∀ transfer ∈ other.transfers, ¬ intent.PaidBy transfer)
    ∧ (∀ other ∈ earlier, ¬ intent.PaidBy other) ∧ intent.PaidBy transfer

/-- Whether a block can be recorded: its number and time fit their columns, and its transfers carry
less than 2^256 each. A negative amount is refused in words that quote it, so it must not have more
digits than can be written; an integer on the wire never has. -/
structure Remote.Block.Recordable (block : Block) : Prop where
  number : Store.fitsColumn block.number = true
  timestamp : Store.fitsColumn block.timestamp = true
  value_lt : ∀ transfer ∈ block.transfers, transfer.value < 2 ^ 256
  lt_value : ∀ transfer ∈ block.transfers, -10 ^ Numeral.digitLimit < transfer.value

/-- Whether the settlement by a transfer of a block can be recorded. -/
structure Remote.Block.Fits (block : Block) (transfer : Transfer) : Prop where
  number : Store.fitsColumn block.number = true
  timestamp : Store.fitsColumn block.timestamp = true
  value : Numeral.fits transfer.value = true

/-- Takes in blocks in order: how many of their transfers pay intents. -/
def Gateway.confirmBlocks [Nesting] : List Block → Action Gateway Nat
  | [] => fun gateway => (.ok 0, gateway)
  | block :: blocks =>
    (confirmBlock block).andThen fun count => (confirmBlocks blocks).map (count + ·)

namespace Intent

variable {intent : Intent} {block : Block} {transfer : Transfer}

/-- A transfer pays the intent that its marker names. -/
theorem PaidBy.id_eq (h : intent.PaidBy transfer) {id : ℕ}
    (hid : Marker.ofData (.str transfer.data) = some id) : intent.id = id :=
  Option.some.inj (h.1.symm.trans hid)

theorem settlementBy?_of_not (h : ¬ intent.PaidBy transfer) :
    intent.settlementBy? block transfer = none :=
  if_neg h

theorem settlementBy?_of_paidBy (h : intent.PaidBy transfer) {payer : String}
    (hp : Address.canonical? transfer.sender = some payer) :
    intent.settlementBy? block transfer =
      some { payer, amount := transfer.value, txHash := some transfer.hash
             blockNumber := some block.number, paidAt := block.timestamp } := by
  rw [settlementBy?, if_pos h, hp]
  rfl

/-- A transfer settles an intent if it pays it. -/
theorem isSome_settlementBy? :
    (intent.settlementBy? block transfer).isSome = true ↔ intent.PaidBy transfer := by
  rw [settlementBy?]
  by_cases h : intent.PaidBy transfer
  · simpa [h] using h.2.2.1
  · simp [h]

/-- Some transfer settles an intent if one pays it. -/
theorem isSome_firstSettlement? {blocks : List Block} :
    (intent.firstSettlement? blocks).isSome = true ↔
      ∃ block ∈ blocks, ∃ transfer ∈ block.transfers, intent.PaidBy transfer := by
  simp only [firstSettlement?, List.findSome?_isSome_iff, isSome_settlementBy?]

theorem firstSettlement?_of_first {blocks : List Block}
    (h : intent.FirstPaidBy blocks block transfer) :
    intent.firstSettlement? blocks = intent.settlementBy? block transfer := by
  obtain ⟨before, after, earlier, later, rfl, htransfers, hbefore, hearlier, hpays⟩ := h
  have hnone : before.findSome? (fun other =>
      other.transfers.findSome? (intent.settlementBy? other)) = none := by
    simp only [List.findSome?_eq_none_iff]
    exact fun other ho t ht => settlementBy?_of_not (hbefore other ho t ht)
  have hnone' : earlier.findSome? (intent.settlementBy? block) = none := by
    rw [List.findSome?_eq_none_iff]
    exact fun other ho => settlementBy?_of_not (hearlier other ho)
  have hsome : (intent.settlementBy? block transfer).isSome = true :=
    isSome_settlementBy?.mpr hpays
  obtain ⟨settlement, hset⟩ := Option.isSome_iff_exists.mp hsome
  rw [firstSettlement?, List.findSome?_append, hnone, Option.none_or, List.findSome?_cons,
    htransfers, List.findSome?_append, hnone', Option.none_or, List.findSome?_cons, hset]

theorem orSettled_of_paid (h : intent.paid = true) (settlement : Option Settlement) :
    intent.orSettled settlement = intent := by
  cases settlement with
  | none => rfl
  | some settlement => rw [orSettled, PaymentColumns.orSettled, if_pos h]

theorem orSettled_of_unpaid (h : intent.paid = false) (settlement : Settlement) :
    intent.orSettled (some settlement) = intent.settled settlement := by
  rw [orSettled, PaymentColumns.orSettled, if_neg (by rw [h]; exact Bool.false_ne_true), settled]

/-- The first of two settlements is recorded. -/
theorem orSettled_orSettled (first second : Option Settlement) :
    (intent.orSettled first).orSettled second = intent.orSettled (first.or second) := by
  cases first with
  | none => rfl
  | some settlement =>
    rw [Option.some_or]
    cases hp : intent.paid with
    | true => rw [orSettled_of_paid hp, orSettled_of_paid hp]
    | false =>
      rw [orSettled_of_unpaid hp]
      exact orSettled_of_paid rfl second

/-- An unpaid intent is paid then exactly if there is a settlement. -/
theorem paid_orSettled (h : intent.paid = false) (settlement : Option Settlement) :
    (intent.orSettled settlement).paid = settlement.isSome := by
  cases settlement with
  | none => exact h
  | some settlement =>
    rw [orSettled_of_unpaid h]
    rfl

/-- A paid intent stays as it is. -/
theorem confirmedBy_of_paid (h : intent.paid = true) (blocks : List Block) :
    intent.confirmedBy blocks = intent :=
  orSettled_of_paid h _

/-- So does one that no transfer pays. -/
theorem confirmedBy_of_not {blocks : List Block}
    (h : ¬ ∃ block ∈ blocks, ∃ transfer ∈ block.transfers, intent.PaidBy transfer) :
    intent.confirmedBy blocks = intent := by
  rw [← isSome_firstSettlement?, Bool.not_eq_true, Option.isSome_eq_false_iff,
    Option.isNone_iff_eq_none] at h
  rw [confirmedBy, h]
  rfl

/-- An unpaid intent is settled by the first transfer that pays it. -/
theorem confirmedBy_of_first {blocks : List Block} (hp : intent.paid = false)
    (h : intent.FirstPaidBy blocks block transfer) :
    ∃ payer, Address.canonical? transfer.sender = some payer
      ∧ intent.confirmedBy blocks = intent.settled
        { payer, amount := transfer.value, txHash := some transfer.hash
          blockNumber := some block.number, paidAt := block.timestamp } := by
  have hpays : intent.PaidBy transfer := by
    obtain ⟨_, _, _, _, _, _, _, _, hpays⟩ := h
    exact hpays
  obtain ⟨payer, hpayer⟩ := Option.isSome_iff_exists.mp hpays.2.2.1
  refine ⟨payer, hpayer, ?_⟩
  rw [confirmedBy, firstSettlement?_of_first h, settlementBy?_of_paidBy hpays hpayer,
    orSettled_of_unpaid hp]

/-- An unpaid intent becomes paid exactly if a transfer pays it. -/
theorem paid_confirmedBy {blocks : List Block} (hp : intent.paid = false) :
    (intent.confirmedBy blocks).paid = true ↔
      ∃ block ∈ blocks, ∃ transfer ∈ block.transfers, intent.PaidBy transfer := by
  rw [← isSome_firstSettlement?, confirmedBy, paid_orSettled hp]

end Intent

/-- The settlement by a transfer of a block that can be recorded can be. -/
theorem Remote.Block.Recordable.fits {block : Block} (h : block.Recordable)
    {transfer : Transfer} (hmem : transfer ∈ block.transfers) : block.Fits transfer := by
  have hlow := h.lt_value transfer hmem
  have hhigh := h.value_lt transfer hmem
  have hpow : (2 : Int) ^ 256 ≤ 10 ^ Numeral.digitLimit :=
    calc (2 : Int) ^ 256 ≤ 10 ^ 256 := pow_le_pow_left₀ (by omega) (by omega) 256
      _ ≤ 10 ^ Numeral.digitLimit := pow_le_pow_right₀ (by omega) (by decide)
  have habs : (transfer.value.natAbs : Int) < 10 ^ Numeral.digitLimit := by
    generalize (10 : Int) ^ Numeral.digitLimit = bound at hlow hpow ⊢
    omega
  exact ⟨h.number, h.timestamp, Numeral.fits_iff.mpr (by exact_mod_cast habs)⟩

/-- Such a settlement fits its columns. -/
theorem Remote.Block.Fits.checkSettlement {block : Block} {transfer : Transfer}
    (h : block.Fits transfer) {id : Int} (hid : Store.fitsColumn id = true) (payer : String) :
    Store.checkSettlement id
      { payer, amount := transfer.value, txHash := some transfer.hash
        blockNumber := some block.number, paidAt := block.timestamp } = .ok () := by
  simp [Store.checkSettlement, Store.checkColumns, h.value, hid, h.number, h.timestamp]

/-! ## Settling rows one by one -/

namespace Store

/-- The store with each unpaid intent settled as a rule says. -/
def settledBy (store : Store) (rule : Intent → Option Settlement) : Store :=
  { store with intents := store.intents.map fun intent => intent.orSettled (rule intent) }

variable {store : Store}

/-- A rule that settles no unpaid intent changes nothing. -/
theorem settledBy_eq_self {rule : Intent → Option Settlement}
    (h : ∀ intent ∈ store.intents, intent.paid = false → rule intent = none) :
    store.settledBy rule = store := by
  have hmap : store.intents.map (fun intent => intent.orSettled (rule intent))
      = store.intents := by
    conv_rhs => rw [← List.map_id store.intents]
    apply List.map_congr_left
    intro intent hmem
    cases hp : intent.paid with
    | true => exact Intent.orSettled_of_paid hp _
    | false =>
      rw [h intent hmem hp]
      rfl
  rw [settledBy, hmap]

/-- A rule that settles one unpaid intent only changes its row. -/
theorem Sound.settledBy_eq_amend (hs : store.Sound) {id : Int} {intent : Intent}
    {settlement : Settlement} {rule : Intent → Option Settlement}
    (hl : store.lookup id = some intent) (hp : intent.paid = false)
    (hrule : rule intent = some settlement)
    (hother : ∀ other ∈ store.intents, (other.id : Int) ≠ id → rule other = none) :
    store.settledBy rule = store.amend id (·.settled settlement) := by
  rw [settledBy, Store.amend]
  congr 1
  apply List.map_congr_left
  intro row hmem
  by_cases hid : (row.id : Int) = id
  · obtain rfl := hs.eq_of_id hl hmem hid
    rw [if_pos hid, hrule, Intent.orSettled_of_unpaid hp]
  · rw [if_neg hid, hother row hmem hid]
    rfl

/-- Settling by one rule and then by another one is settling by the first that applies. -/
theorem settledBy_settledBy {first second : Intent → Option Settlement}
    (h : ∀ intent settlement, second (intent.orSettled settlement) = second intent) :
    (store.settledBy first).settledBy second
      = store.settledBy fun intent => (first intent).or (second intent) := by
  simp only [settledBy, List.map_map]
  congr 1
  apply List.map_congr_left
  intro intent _
  simp only [Function.comp_apply, h]
  exact intent.orSettled_orSettled _ _

end Store

/-! ## One transfer -/

/-- A result that taking in blocks goes on after: anything but a failure that is no refusal. -/
def Operation.Answered (result : Except Failure Outcome) : Prop :=
  ∀ failure, result = .error failure → failure.isRefusalUnder .protocol = true

theorem Operation.answered_ok (outcome : Outcome) : Answered (.ok outcome) :=
  fun _ h => nomatch h

theorem Operation.answered_error {failure : Failure}
    (h : failure.isRefusalUnder .protocol = true) : Answered (.error failure) := by
  rintro _ ⟨⟩
  exact h

/-- Whoever spells no address is refused. -/
theorem Address.normalize_of_canonical?_eq_none [Nesting] {spelling : String}
    (h : canonical? spelling = none) (field : String) :
    ∃ failure, normalize field (.str spelling) = .error failure
      ∧ failure.isRefusalUnder .protocol = true := by
  have hbind : (Option.some spelling).bind canonical? = none := h
  simp only [normalize, Value.raw?, RawText.text?, hbind]
  exact ⟨_, rfl, rfl⟩

namespace Operation

/-- A negative amount is refused if it can be written. -/
theorem checkConfirmed_of_neg [Nesting] {amount : Int} (h : amount < 0)
    (hf : Numeral.fits amount = true) :
    ∃ failure, checkConfirmed (.int amount) = .error failure
      ∧ failure.isRefusalUnder .protocol = true := by
  rw [checkConfirmed, Value.shown_int, if_pos hf, if_neg (Int.not_le.mpr h)]
  exact ⟨_, rfl, rfl⟩

/-- If it cannot, there are no words to refuse it in. -/
theorem checkConfirmed_of_unwritable [Nesting] {amount : Int} (h : amount < 0)
    (hf : Numeral.fits amount = false) :
    checkConfirmed (.int amount) = .error (.numeral .tooLarge) := by
  rw [checkConfirmed, if_neg (Int.not_le.mpr h), Value.shown_int, if_neg (by simp [hf])]
  rfl

/-- What stops an intent from being settled is a refusal. -/
theorem isRefusal_of_settleRefusal? {intent : Intent} {recipient : Option String}
    {confirmed : Option Int} {failure : Failure}
    (h : settleRefusal? intent recipient confirmed = some failure) :
    failure.isRefusalUnder .protocol = true := by
  simp only [settleRefusal?] at h
  split at h
  · cases h
    rfl
  · split at h
    · cases h
      rfl
    · obtain ⟨amount, _, rfl⟩ := Option.map_eq_some_iff.mp h
      rfl

variable {store : Store} {block : Block} {transfer : Transfer}

/-- A transfer that pays no unpaid intent settles nothing. -/
theorem settledBy_of_forall_not
    (h : ∀ intent ∈ store.intents, intent.paid = false → ¬ intent.PaidBy transfer) :
    store.settledBy (·.settlementBy? block transfer) = store :=
  Store.settledBy_eq_self fun intent hmem hp => Intent.settlementBy?_of_not (h intent hmem hp)

/-- Settling a paid intent changes nothing, and is not taken for a failure. -/
theorem run_settlingRead_of_paid {intent : Intent} (hp : intent.paid = true) (id now : Int)
    (remittance : Remittance) (recipient : Option String) :
    ∃ result, (settlingRead id now remittance recipient intent).run store = (result, store)
      ∧ Answered result := by
  cases hr : intent.refunded with
  | false =>
    rw [settlingRead_of_paid now _ _ hp hr]
    exact ⟨_, rfl, answered_ok _⟩
  | true =>
    have hf : settleRefusal? intent recipient remittance.confirmed
        = some (.plain .alreadyRefunded [("id", .int intent.id)]) := by
      rw [settleRefusal?, if_pos hr]
    rw [settlingRead_of_refusal now _ _ (Or.inr hr) hf]
    exact ⟨_, rfl, answered_error rfl⟩

/-- Settling for a transfer whose fields are good settles what the transfer pays, unless that
cannot be recorded. -/
theorem run_load_of_transfer (hs : store.Sound) {id : ℕ} {payer address : String}
    (hid : Marker.ofData (.str transfer.data) = some id)
    (hpayer : Address.canonical? transfer.sender = some payer)
    (haddress : transfer.recipient.bind Address.canonical? = some address) (now : Int) :
    let run := (load id (settlingRead id now
      { payer, confirmed := some transfer.value, txHash := some transfer.hash
        blockNumber := some block.number, paidAt := block.timestamp } (some address))).run store
    (∃ result, run = (result, store.settledBy (·.settlementBy? block transfer))
        ∧ Answered result)
      ∨ ¬ block.Fits transfer ∧ ∃ e, run = (.error (.storage e), store) := by
  dsimp only
  cases hl : store.lookup id with
  | none =>
    have hnot : ∀ row ∈ store.intents, row.paid = false → ¬ row.PaidBy transfer := by
      intro row hm _ hpays
      rw [← hpays.id_eq hid, hs.lookup_of_mem hm] at hl
      cases hl
    rw [run_load_of_unknown (by omega) hl, settledBy_of_forall_not hnot]
    exact Or.inl ⟨_, rfl, answered_error rfl⟩
  | some intent =>
    -- the marker names one id, so the transfer pays no other row
    have hrow : ∀ row ∈ store.intents, row.PaidBy transfer → row = intent :=
      fun row hm hpays => hs.eq_of_id hl hm (congrArg Nat.cast (hpays.id_eq hid))
    rw [run_load_of_found hs hl]
    cases hp : intent.paid with
    | true =>
      have hnot : ∀ row ∈ store.intents, row.paid = false → ¬ row.PaidBy transfer := by
        intro row hm hunpaid hpays
        rw [hrow row hm hpays, hp] at hunpaid
        cases hunpaid
      rw [settledBy_of_forall_not hnot]
      exact Or.inl (run_settlingRead_of_paid hp id now _ _)
    | false =>
      have hid' : intent.id = id := by exact_mod_cast Store.id_of_lookup hl
      have hpays : settleRefusal? intent (some address) (some transfer.value) = none ↔
          intent.PaidBy transfer := by
        rw [settleRefusal?_eq_none_iff, Terms.allow_some_iff, Intent.PaidBy, hid, hid', haddress,
          hpayer]
        simp [hs.refunded_of_lookup hl hp]
      cases hf : settleRefusal? intent (some address) (some transfer.value) with
      | some failure =>
        have hnot : ∀ row ∈ store.intents, row.paid = false → ¬ row.PaidBy transfer := by
          intro row hm _ hrowpays
          rw [hrow row hm hrowpays, ← hpays, hf] at hrowpays
          cases hrowpays
        rw [settledBy_of_forall_not hnot, settlingRead_of_refusal now _ _ (Or.inl hp) hf]
        exact Or.inl ⟨_, rfl, answered_error (isRefusal_of_settleRefusal? hf)⟩
      | none =>
        cases hfit : Store.checkSettlement id
            { payer, amount := transfer.value, txHash := some transfer.hash
              blockNumber := some block.number, paidAt := block.timestamp } with
        | ok _ =>
          have hnot : ∀ row ∈ store.intents, (row.id : Int) ≠ id →
              row.settlementBy? block transfer = none := fun row _ hne =>
            Intent.settlementBy?_of_not fun hrowpays =>
              hne (congrArg Nat.cast (hrowpays.id_eq hid))
          rw [hs.settledBy_eq_amend hl hp (Intent.settlementBy?_of_paidBy (hpays.mp hf) hpayer)
            hnot]
          exact Or.inl ⟨_, run_settlingRead_of_open hs now _ _ hl hp hf hfit, answered_ok _⟩
        | error e =>
          refine Or.inr ⟨fun hfits => ?_, e, run_settlingRead_of_misfit now _ _ hp hf hfit⟩
          rw [hfits.checkSettlement (hs.id_fits hl).2 payer] at hfit
          cases hfit

/-- What the payment that a transfer is says of it. -/
theorem exists_of_ofTransfer? {payment : Payment}
    (h : Payment.ofTransfer? block transfer = some payment) :
    ∃ recipient, transfer.recipient = some recipient ∧
      ∃ id, Marker.ofData (.str transfer.data) = some id ∧
        { data := .str transfer.data, payer := .str transfer.sender, amount := .int transfer.value
          recipient := some (.str recipient), txHash := some transfer.hash
          blockNumber := some block.number, blockTime := some block.timestamp } = payment := by
  simpa [Payment.ofTransfer?, Option.bind_eq_some_iff] using h

/-- A negative amount that cannot be written makes the operation fail before the store is asked. -/
theorem run_markPaid_of_unwritable [Nesting] {payment : Payment}
    (hpayment : Payment.ofTransfer? block transfer = some payment) (hneg : transfer.value < 0)
    (hf : Numeral.fits transfer.value = false) (policy : Policy) (clock : Int) (store : Store) :
    ((markPaid payment none).call policy clock).run store
      = (.error (.numeral .tooLarge), store) := by
  obtain ⟨recipient, _, id, hid, rfl⟩ := exists_of_ofTransfer? hpayment
  simp only [call, correlating, hid, checkConfirmed_of_unwritable hneg hf]
  rfl

/-- The operation that a transfer asks for settles what the transfer pays, and is refused if it
does not succeed; unless that cannot be recorded, or there are no words to refuse it in. -/
theorem run_markPaid [Nesting] (hs : store.Sound) (hw : ∀ intent ∈ store.intents, intent.WellFormed)
    {payment : Payment} (hpayment : Payment.ofTransfer? block transfer = some payment)
    (policy : Policy) (clock : Int) :
    let run := ((markPaid payment none).call policy clock).run store
    (∃ result, run = (result, store.settledBy (·.settlementBy? block transfer))
        ∧ Answered result)
      ∨ ¬ block.Fits transfer ∧ ∃ failure, run = (.error failure, store)
        ∧ failure.isRefusalUnder .protocol = false := by
  by_cases hunwritable : transfer.value < 0 ∧ Numeral.fits transfer.value = false
  · refine Or.inr ⟨fun hfits => ?_, _,
      run_markPaid_of_unwritable hpayment hunwritable.1 hunwritable.2 policy clock store, rfl⟩
    rw [hfits.value] at hunwritable
    cases hunwritable.2
  obtain ⟨recipient, hr, id, hid, rfl⟩ := exists_of_ofTransfer? hpayment
  -- what fails a check pays nothing, and is refused before the store is asked
  have hpassed : ∀ failure : Failure, failure.isRefusalUnder .protocol = true →
      (∀ intent ∈ store.intents, ¬ intent.PaidBy transfer) →
      ∃ result, (Except.error failure, store)
        = (result, store.settledBy (·.settlementBy? block transfer)) ∧ Answered result := by
    intro failure hrefused hnot
    rw [settledBy_of_forall_not fun intent hm _ => hnot intent hm]
    exact ⟨_, rfl, answered_error hrefused⟩
  simp only [call, correlating, settling, hid]
  by_cases hv : 0 ≤ transfer.value
  · rw [checkConfirmed_eq_ok_iff.mpr ⟨rfl, hv⟩]
    cases hpayer : Address.canonical? transfer.sender with
    | none =>
      obtain ⟨failure, hn, hrefused⟩ :=
        Address.normalize_of_canonical?_eq_none hpayer "payer"
      rw [hn]
      exact Or.inl <| hpassed failure hrefused fun intent _ hpays => by
        rw [Intent.PaidBy, hpayer] at hpays
        exact absurd hpays.2.2.1 (by simp)
    | some payer =>
      rw [Address.normalize_of_canonical? hpayer "payer"]
      cases haddress : Address.canonical? recipient with
      | none =>
        obtain ⟨failure, hn, hrefused⟩ :=
          Address.normalize_of_canonical?_eq_none haddress "recipient"
        simp only [Option.mapM_some, hn]
        exact Or.inl <| hpassed failure hrefused fun intent _ hpays => by
          rw [Intent.PaidBy, hr, Option.bind_some, haddress] at hpays
          cases hpays.2.1
      | some address =>
        simp only [Option.mapM_some, Address.normalize_of_canonical? haddress "recipient"]
        rcases run_load_of_transfer hs hid hpayer (by rw [hr, Option.bind_some, haddress])
          clock with hsettles | ⟨hmisfit, e, hfails⟩
        · exact Or.inl hsettles
        · exact Or.inr ⟨hmisfit, .storage e, hfails, rfl⟩
  · have hf : Numeral.fits transfer.value = true := by
      rw [← Bool.not_eq_false]
      exact fun hf => hunwritable ⟨Int.not_le.mp hv, hf⟩
    obtain ⟨failure, hc, hrefused⟩ := checkConfirmed_of_neg (Int.not_le.mp hv) hf
    rw [hc]
    -- gross amounts are positive, so a negative amount is never enough
    exact Or.inl <| hpassed failure hrefused fun intent hm hpays => by
      have hpos := (hw intent hm).terms.gross_pos
      have hle := hpays.2.2.2
      omega

end Operation

/-! ## All transfers in order -/

/-- What is found first is found at the head or else behind it. -/
theorem findSome?_cons_eq_or {α β : Type} (f : α → Option β) (a : α) (l : List α) :
    (a :: l).findSome? f = (f a).or (l.findSome? f) := by
  rw [List.findSome?_cons]
  cases f a <;> rfl

namespace Gateway

/-- The gateway with each unpaid intent settled as a rule says. -/
def settledBy (gateway : Gateway) (rule : Intent → Option Settlement) : Gateway :=
  { gateway with store := gateway.store.settledBy rule }

/-- A rule that settles nothing changes nothing. -/
theorem settledBy_none (gateway : Gateway) : gateway.settledBy (fun _ => none) = gateway := by
  rw [settledBy, Store.settledBy_eq_self fun _ _ _ => rfl]

theorem settledBy_settledBy (gateway : Gateway) {first second : Intent → Option Settlement}
    (h : ∀ intent settlement, second (intent.orSettled settlement) = second intent) :
    (gateway.settledBy first).settledBy second
      = gateway.settledBy fun intent => (first intent).or (second intent) := by
  simp only [settledBy, Store.settledBy_settledBy h]

/-- Taking in a transfer settles what it pays, or fails because that cannot be recorded. -/
theorem confirmTransfer_cases [Nesting] {gateway : Gateway} (hs : gateway.store.Sound)
    (hw : ∀ intent ∈ gateway.store.intents, intent.WellFormed) (block : Block)
    (transfer : Transfer) :
    (∃ view, confirmTransfer block transfer gateway
        = (.ok view, gateway.settledBy (·.settlementBy? block transfer)))
      ∨ ¬ block.Fits transfer ∧ ∃ failure,
        confirmTransfer block transfer gateway = (.error failure, gateway) := by
  rw [confirmTransfer]
  cases hp : Payment.ofTransfer? block transfer with
  | none =>
    have hnot : ∀ intent ∈ gateway.store.intents, intent.paid = false →
        ¬ intent.PaidBy transfer := by
      rintro intent _ _ ⟨hid, hr, _, _⟩
      obtain ⟨recipient, hr, _⟩ := Option.bind_eq_some_iff.mp hr
      simp [Payment.ofTransfer?, hid, hr] at hp
    rw [settledBy, Operation.settledBy_of_forall_not hnot]
    exact Or.inl ⟨_, rfl⟩
  | some payment =>
    rcases Operation.run_markPaid hs hw hp gateway.policy gateway.now with
      ⟨result, hrun, hanswered⟩ | ⟨hmisfit, failure, hrun, hescapes⟩
    · have hperform : perform (.markPaid payment none) gateway
          = (result, gateway.settledBy (·.settlementBy? block transfer)) := by
        rw [perform, run, call, hrun]
        rfl
      simp only [hperform]
      cases result with
      | ok outcome => exact Or.inl ⟨_, rfl⟩
      | error failure =>
        dsimp only
        rw [if_pos (hanswered failure rfl)]
        exact Or.inl ⟨_, rfl⟩
    · have hperform : perform (.markPaid payment none) gateway = (.error failure, gateway) := by
        rw [perform, run, call, hrun]
      simp only [hperform, hescapes]
      exact Or.inr ⟨hmisfit, failure, rfl⟩

/-- Taking in a transfer of a block that can be recorded settles what it pays. -/
theorem confirmTransfer_eq [Nesting] {gateway : Gateway} (hs : gateway.store.Sound)
    (hw : ∀ intent ∈ gateway.store.intents, intent.WellFormed) {block : Block}
    (hblock : block.Recordable) {transfer : Transfer} (hmem : transfer ∈ block.transfers) :
    ∃ view, confirmTransfer block transfer gateway
      = (.ok view, gateway.settledBy (·.settlementBy? block transfer)) := by
  rcases confirmTransfer_cases hs hw block transfer with hsettles | ⟨hmisfit, _⟩
  · exact hsettles
  · exact absurd (hblock.fits hmem) hmisfit

/-- Taking in transfers settles each intent by the first of them that pays it. -/
theorem confirmTransfers_eq [Nesting] {block : Block} (hblock : block.Recordable)
    {transfers : List Transfer} (hmem : ∀ transfer ∈ transfers, transfer ∈ block.transfers)
    {gateway : Gateway}
    (h : gateway.store.Sound ∧ ∀ intent ∈ gateway.store.intents, intent.WellFormed) :
    ∃ count, confirmTransfers block transfers gateway
      = (.ok count, gateway.settledBy fun intent =>
          transfers.findSome? (intent.settlementBy? block)) := by
  induction transfers generalizing gateway with
  | nil =>
    refine ⟨0, ?_⟩
    simp only [List.findSome?_nil, settledBy_none]
    rfl
  | cons transfer transfers ih =>
    have hkept := Store.kept_wellFormed.confirmTransfer block transfer h
    obtain ⟨view, hfirst⟩ := confirmTransfer_eq h.1 h.2 hblock (hmem transfer List.mem_cons_self)
    rw [hfirst] at hkept
    obtain ⟨count, hrest⟩ := ih (fun t ht => hmem t (List.mem_cons_of_mem transfer ht)) hkept
    refine ⟨view.toList.length + count, ?_⟩
    rw [confirmTransfers, hfirst]
    simp only [Action.map, hrest]
    -- whether a transfer pays a row does not depend on what is recorded of its payment
    rw [settledBy_settledBy _ fun _ _ => rfl]
    simp only [findSome?_cons_eq_or]

/-- Taking in blocks settles each intent by the first transfer that pays it. -/
theorem confirmBlocks_eq [Nesting] {blocks : List Block}
    (hblocks : ∀ block ∈ blocks, block.Recordable) {gateway : Gateway}
    (h : gateway.store.Sound ∧ ∀ intent ∈ gateway.store.intents, intent.WellFormed) :
    ∃ count, confirmBlocks blocks gateway
      = (.ok count, gateway.settledBy (·.firstSettlement? blocks)) := by
  induction blocks generalizing gateway with
  | nil =>
    refine ⟨0, ?_⟩
    simp only [Intent.firstSettlement?, List.findSome?_nil, settledBy_none]
    rfl
  | cons block blocks ih =>
    have hkept := Store.kept_wellFormed.confirmTransfers block block.transfers h
    obtain ⟨first, hfirst⟩ :=
      confirmTransfers_eq (hblocks block List.mem_cons_self) (fun _ ht => ht) h
    rw [hfirst] at hkept
    obtain ⟨rest, hrest⟩ := ih (fun b hb => hblocks b (List.mem_cons_of_mem block hb)) hkept
    refine ⟨first + rest, ?_⟩
    rw [confirmBlocks, Action.andThen, confirmBlock, hfirst]
    simp only [Action.map, hrest]
    rw [settledBy_settledBy _ fun _ _ => rfl]
    simp only [Intent.firstSettlement?, findSome?_cons_eq_or]

/-- Taking in blocks never fails, and what it does to each row is what the blocks say about that
row: a paid intent stays as it is, an unpaid one is settled by the first transfer that pays it, and
one that none pays stays unpaid. -/
theorem confirmBlocks_settles_first [Nesting] (policy : Policy) (clock : Rat) (events : List Event)
    {blocks : List Block} (hblocks : ∀ block ∈ blocks, block.Recordable) :
    let gateway := (Gateway.fresh policy clock).after events
    (∃ count, confirmBlocks blocks gateway
      = (.ok count, { gateway with store := { gateway.store with
          intents := gateway.store.intents.map (·.confirmedBy blocks) } }))
      ∧ ∀ intent ∈ gateway.store.intents,
        (intent.paid = true → intent.confirmedBy blocks = intent)
        ∧ (intent.paid = false → ((intent.confirmedBy blocks).paid = true ↔
          ∃ block ∈ blocks, ∃ transfer ∈ block.transfers, intent.PaidBy transfer))
        ∧ ((¬ ∃ block ∈ blocks, ∃ transfer ∈ block.transfers, intent.PaidBy transfer) →
          intent.confirmedBy blocks = intent)
        ∧ (intent.paid = false → ∀ block transfer, intent.FirstPaidBy blocks block transfer →
          ∃ payer, Address.canonical? transfer.sender = some payer
            ∧ intent.confirmedBy blocks = intent.settled
              { payer, amount := transfer.value, txHash := some transfer.hash
                blockNumber := some block.number, paidAt := block.timestamp }) := by
  intro gateway
  have hw := intents_wellFormed_after policy clock events
  refine ⟨confirmBlocks_eq hblocks hw, fun intent _ => ⟨fun hp => ?_, fun hp => ?_, fun h => ?_,
    fun hp block transfer h => ?_⟩⟩
  · exact intent.confirmedBy_of_paid hp blocks
  · exact Intent.paid_confirmedBy hp
  · exact Intent.confirmedBy_of_not h
  · exact Intent.confirmedBy_of_first hp h

/-- A transfer of a confirmed block pays a new intent. -/
theorem confirmBlocks_settles_new_intent :
    let address := "0x1111111111111111111111111111111111111111"
    let gateway := (Gateway.fresh .standard 0).after
      [.perform (.create (.str address) (.int 5) (.str "GORR") .null .null none)]
    let blocks : List Block :=
      [{ number := 7, timestamp := 9, hash := none
         transfers :=
           [{ hash := "0xaa", sender := address, recipient := none, value := 5, data := "0x" },
            { hash := "0xbb", sender := address, recipient := some address, value := 5
              data := "0x474f52525f5041593a31" }] }]
    (∀ block ∈ blocks, block.Recordable)
      ∧ gateway.store.intents.map (·.txHash) = [none]
      ∧ ∃ count, (confirmBlocks blocks gateway).1 = .ok count
        ∧ (confirmBlocks blocks gateway).2.store.intents.map (·.txHash) = [some "0xbb"] := by
  intro address gateway blocks
  have hblocks : ∀ block ∈ blocks, block.Recordable := by
    have hpow : (0 : Int) < 10 ^ Numeral.digitLimit := pow_pos (by decide) _
    simp only [blocks, List.forall_mem_singleton]
    refine ⟨by decide, by decide, by decide, ?_⟩
    simp only [List.forall_mem_cons, List.not_mem_nil, false_imp_iff, implies_true, and_true]
    exact ⟨by omega, by omega⟩
  obtain ⟨count, hrun⟩ := (confirmBlocks_settles_first .standard 0
    [.perform (.create (.str address) (.int 5) (.str "GORR") .null .null none)] hblocks).1
  refine ⟨hblocks, by decide +kernel, count, ?_, by decide +kernel⟩
  rw [hrun]

end Gateway

end IntentGateway
