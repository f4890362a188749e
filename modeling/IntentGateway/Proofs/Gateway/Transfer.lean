import IntentGateway.Proofs.Gateway.Columns
import IntentGateway.Proofs.Gateway.Confirmation
import IntentGateway.Proofs.Marker

/-! # Transfers that are made for an intent

A payer makes a transfer from what the merchant has passed on: the amount, the id, and the
merchant's address in any spelling. The marker in its data, the way the chain reports it, and the
rules of settling are apart from each other, but they fit: the transfer pays its intent
(`Intent.exists_transferFields`), and a transfer that pays an unpaid intent settles that one and
nothing else (`Gateway.confirmTransfer_of_paidBy`).
-/

namespace IntentGateway

open Remote (Block Transfer)

/-- How a transfer of a block settles an intent that it pays, when it comes from a payer. -/
def Remote.Block.settlementOf (block : Block) (transfer : Transfer) (payer : String) : Settlement :=
  { payer, amount := transfer.value, txHash := some transfer.hash
    blockNumber := some block.number, paidAt := block.timestamp }

/-! ## A transfer that pays -/

section PaidBy

variable {store : Store} {intent : Intent} {block : Block} {transfer : Transfer} {payer : String}

theorem Payment.ofTransfer?_of_paidBy (block : Block) (h : intent.PaidBy transfer) :
    ∃ payment, Payment.ofTransfer? block transfer = some payment := by
  obtain ⟨recipient, hrecipient, _⟩ := Option.bind_eq_some_iff.mp h.2.1
  rw [Payment.ofTransfer?, hrecipient, h.1]
  exact ⟨_, rfl⟩

variable [Nesting]

/-- The operation that a transfer asks for settles the unpaid intent that it pays. -/
theorem Operation.run_markPaid_of_paidBy (hs : store.Sound) (hmem : intent ∈ store.intents)
    (hp : intent.paid = false) (hpays : intent.PaidBy transfer)
    (hpayer : Address.canonical? transfer.sender = some payer) (hvalue : 0 ≤ transfer.value)
    (hfits : block.Fits transfer) {payment : Payment}
    (hpayment : Payment.ofTransfer? block transfer = some payment) (policy : Policy) (clock : Int) :
    ((markPaid payment none).call policy clock).run store
      = (.ok (.view (.ofIntent (intent.settled (block.settlementOf transfer payer)) clock)),
        store.amend intent.id (·.settled (block.settlementOf transfer payer))) := by
  have hl : store.lookup intent.id = some intent := hs.lookup_of_mem hmem
  obtain ⟨hid, hmerchant, _, hgross⟩ := hpays
  obtain ⟨recipient, hrecipient, id, hmarker, rfl⟩ := exists_of_ofTransfer? hpayment
  rw [hrecipient, Option.bind_some] at hmerchant
  obtain rfl : intent.id = id := by simpa [hid] using hmarker
  have hallowed : settleRefusal? intent (some intent.merchant) (some transfer.value) = none :=
    settleRefusal?_eq_none_iff.mpr
      ⟨hs.refunded_of_lookup hl hp, Terms.allow_some_iff.mpr ⟨rfl, hgross⟩⟩
  simp only [call, correlating, settling, hid, checkConfirmed_eq_ok_iff.mpr ⟨rfl, hvalue⟩,
    Address.normalize_of_canonical? hpayer, Option.mapM_some,
    Address.normalize_of_canonical? hmerchant]
  show (load intent.id (settlingRead intent.id clock _ (some intent.merchant))).run store = _
  rw [run_load_of_found hs hl]
  exact run_settlingRead_of_open hs clock _ _ hl hp hallowed
    (hfits.checkSettlement (hs.id_fits hl).2 payer)

/-- A transfer that pays an unpaid intent settles it, and shows it settled. -/
theorem Gateway.confirmTransfer_of_paidBy {gateway : Gateway} (hs : gateway.store.Sound)
    (hmem : intent ∈ gateway.store.intents) (hp : intent.paid = false)
    (hpays : intent.PaidBy transfer) (hpayer : Address.canonical? transfer.sender = some payer)
    (hvalue : 0 ≤ transfer.value) (hfits : block.Fits transfer) :
    confirmTransfer block transfer gateway
      = (.ok (some (.ofIntent (intent.settled (block.settlementOf transfer payer)) gateway.now)),
        { gateway with
          store := gateway.store.amend intent.id
            (·.settled (block.settlementOf transfer payer)) }) := by
  obtain ⟨payment, hpayment⟩ := Payment.ofTransfer?_of_paidBy block hpays
  have hrun := Operation.run_markPaid_of_paidBy hs hmem hp hpays hpayer hvalue hfits hpayment
    gateway.policy gateway.now
  have hperform : perform (.markPaid payment none) gateway
      = (.ok (.view (.ofIntent (intent.settled (block.settlementOf transfer payer)) gateway.now)),
        { gateway with
          store := gateway.store.amend intent.id
            (·.settled (block.settlementOf transfer payer)) }) := by
    rw [perform, run, call, hrun]
  simp only [confirmTransfer, hpayment, hperform]
  rfl

end PaidBy

/-! ## The fields of a transfer -/

/-- Ids of rows have at most twenty digits. -/
theorem Store.Sound.id_lt {store : Store} (hs : store.Sound) {intent : Intent}
    (hmem : intent ∈ store.intents) : intent.id < 10 ^ Marker.maxDigits := by
  have hid := hs.id_mem hmem
  have hlength := hs.length_le
  rw [maxId, columnLimit] at hlength
  rw [Marker.maxDigits]
  omega

section

variable [Nesting]

/-- The fields of a transfer name their intent. -/
theorem Marker.transferFields_int (merchant : Value) {amount : Int} {id : ℕ} (ha : 0 < amount)
    (hid : id < 10 ^ maxDigits) :
    ∃ data, transferFields merchant (.int amount) (.int id)
        = .ok { recipient := merchant, value := amount, data }
      ∧ ofData (.str data) = some id := by
  have hdigits : id < 10 ^ Numeral.digitLimit :=
    Nat.lt_of_lt_of_le hid (Nat.pow_le_pow_right (by omega) (by decide))
  -- the data is the last form of the marker: hexadecimal text behind `0x`
  have hform : .str (String.ofList ('0' :: 'x' :: Text.hexOfBytes (encode id)))
      ∈ forms (encode id) := by
    rw [forms]
    exact List.mem_cons_of_mem _ (List.mem_cons_of_mem _
      (List.mem_cons_of_mem _ List.mem_cons_self))
  refine ⟨String.ofList ('0' :: 'x' :: Text.hexOfBytes (encode id)), ?_, ?_⟩
  · rw [transferFields, if_neg (by omega), ofId_int hdigits]
    rfl
  · rw [ofData_of_mem_forms hform, decode_encode, if_pos hid]

/-- Whether a transfer carries the fields that have been made for it. -/
structure Remote.Transfer.Carries (transfer : Transfer) (fields : Marker.TransferFields) :
    Prop where
  recipient : .ofOption .str transfer.recipient = fields.recipient
  value : transfer.value = fields.value
  data : transfer.data = fields.data

/-- The fields that are made for an intent, with any spelling of its merchant, are those of
transfers that pay it. -/
theorem Intent.exists_transferFields {intent : Intent} (hw : intent.WellFormed)
    (hid : intent.id < 10 ^ Marker.maxDigits) {field : String} {spelled : Value}
    (hspelled : Address.normalize field spelled = .ok intent.merchant) :
    ∃ fields, Marker.transferFields spelled (.int intent.grossAmount) (.int intent.id) = .ok fields
      ∧ fields.value = intent.grossAmount
      ∧ ∀ transfer : Transfer, transfer.Carries fields →
        (Address.canonical? transfer.sender).isSome = true → intent.PaidBy transfer := by
  obtain ⟨data, hfields, hdata⟩ :=
    Marker.transferFields_int spelled hw.terms.gross_pos hid
  refine ⟨_, hfields, rfl, fun transfer hcarries hsender => ?_⟩
  obtain ⟨spelling, rfl, hcanonical⟩ := Address.normalize_eq_ok_iff.mp hspelled
  refine ⟨?_, ?_, hsender, hcarries.value.ge⟩
  · rw [hcarries.data, hdata]
  · have hrecipient := hcarries.recipient
    rcases htransfer : transfer.recipient with _ | recipient
    · rw [htransfer] at hrecipient
      cases hrecipient
    · rw [htransfer] at hrecipient
      cases hrecipient
      exact hcanonical

/-- A transfer with the fields made for an unpaid intent settles exactly that intent, whatever has
happened before, however the merchant is spelled, and from whichever address it comes. -/
theorem Gateway.transferFields_settle (policy : Policy) (clock : Rat) (events : List Event) :
    let gateway := (Gateway.fresh policy clock).after events
    ∀ intent ∈ gateway.store.intents, intent.paid = false →
      ∀ field spelled, Address.normalize field spelled = .ok intent.merchant →
        ∃ fields,
          Marker.transferFields spelled (.int intent.grossAmount) (.int intent.id) = .ok fields
          ∧ ∀ (block : Block) (transfer : Transfer) (payer : String),
            Store.fitsColumn block.number = true → Store.fitsColumn block.timestamp = true →
            transfer.Carries fields →
            Address.normalize "payer" (.str transfer.sender) = .ok payer →
              let settled := intent.settled
                { payer, amount := intent.grossAmount, txHash := some transfer.hash
                  blockNumber := some block.number, paidAt := block.timestamp }
              ∃ store, confirmTransfer block transfer gateway
                  = (.ok (some (.ofIntent settled gateway.now)), { gateway with store })
                ∧ store.lookup intent.id = some settled
                ∧ (∀ other : Int, other ≠ intent.id →
                  store.lookup other = gateway.store.lookup other)
                ∧ store.intents.length = gateway.store.intents.length
                ∧ store.balances = gateway.store.balances := by
  intro gateway intent hmem hp field spelled hspelled
  obtain ⟨hs, hw⟩ := intents_wellFormed_after policy clock events
  have hgross := (fitsColumns_after policy clock events intent hmem).gross
  obtain ⟨fields, hfields, hvalue, hpays⟩ :=
    Intent.exists_transferFields (hw intent hmem) (hs.id_lt hmem) hspelled
  refine ⟨fields, hfields, fun block transfer payer hnumber htime hcarries hpayer => ?_⟩
  obtain ⟨spelling, hsender, hcanonical⟩ := Address.normalize_eq_ok_iff.mp hpayer
  cases hsender
  have hpays := hpays transfer hcarries (by rw [hcanonical]; rfl)
  have hamount : transfer.value = intent.grossAmount := hcarries.value.trans hvalue
  have hpositive := (hw intent hmem).terms.gross_pos
  have hfits : block.Fits transfer := ⟨hnumber, htime, hamount ▸ hgross⟩
  have hconfirm := confirmTransfer_of_paidBy hs hmem hp hpays hcanonical (by omega) hfits
  rw [Block.settlementOf, hamount] at hconfirm
  refine ⟨_, hconfirm, ?_, fun other hother => ?_, ?_, rfl⟩
  · exact Store.lookup_settled (hs.lookup_of_mem hmem) _
  · exact Store.lookup_amend_of_ne (fun _ => rfl) hother
  · exact List.length_map _

end

/-- A spelling with blanks, in a transfer from an address without the marker `0x`, will do. -/
theorem Gateway.transferFields_settle_loose :
    let merchant := "0x1111111111111111111111111111111111111111"
    let gateway := (Gateway.fresh .standard 0).after
      [.perform (.create (.str merchant) (.int 5) (.str "GORR") .null .null none)]
    let block : Block := { number := 7, timestamp := 9, hash := none, transfers := [] }
    let transfer : Transfer :=
      { hash := "0xbb", sender := "2222222222222222222222222222222222222222"
        recipient := some " 0X1111111111111111111111111111111111111111", value := 5
        data := "0x474f52525f5041593a31" }
    ∃ fields store view,
      Marker.transferFields (.ofOption .str transfer.recipient) (.int 5) (.int 1) = .ok fields
        ∧ transfer.Carries fields
        ∧ confirmTransfer block transfer gateway = (.ok (some view), { gateway with store })
        ∧ view.payer = some "0x2222222222222222222222222222222222222222"
        ∧ (store.lookup 1).map (fun row => (row.paidAmount, row.txHash, row.blockNumber))
          = some (some 5, some "0xbb", some 7) := by
  intro merchant gateway block transfer
  let row : Intent :=
    .new { merchant, token := "GORR", grossAmount := 5, feeBps := 250, feeAmount := 0
           netAmount := 5, createdAt := 0, expiry := 900 } 1
  have hrow : gateway.store.intents = [row] := by decide +kernel
  have hspelled : Address.normalize "merchant" (.ofOption .str transfer.recipient) = .ok merchant :=
    Address.normalize_of_canonical? (by decide +kernel) _
  have hpayer : Address.normalize "payer" (.str transfer.sender)
      = .ok "0x2222222222222222222222222222222222222222" :=
    Address.normalize_of_canonical? (by decide +kernel) _
  obtain ⟨fields, hfields, hsettles⟩ := transferFields_settle .standard 0
    [.perform (.create (.str merchant) (.int 5) (.str "GORR") .null .null none)] row
    (by rw [hrow]; exact List.mem_singleton_self row) rfl "merchant" _ hspelled
  have hcarries : transfer.Carries fields := by
    have hmade : Marker.transferFields (.ofOption .str transfer.recipient) (.int 5) (.int 1)
        = .ok { recipient := .ofOption .str transfer.recipient, value := 5
                data := transfer.data } := rfl
    cases hfields.symm.trans hmade
    exact ⟨rfl, rfl, rfl⟩
  obtain ⟨store, hconfirm, hlookup, -, -, -⟩ :=
    hsettles block transfer _ (by decide) (by decide) hcarries hpayer
  refine ⟨fields, store, _, hfields, hcarries, hconfirm, rfl, ?_⟩
  have hid : ((row.id : ℕ) : Int) = 1 := rfl
  rw [← hid, hlookup]
  rfl

end IntentGateway
