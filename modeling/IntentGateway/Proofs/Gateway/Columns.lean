import IntentGateway.Proofs.Amount.Column
import IntentGateway.Proofs.Gateway.WellFormed
import IntentGateway.Proofs.Numeral.Decimal

/-! # Rows that fit their columns

Whatever is written has been checked against the columns before, and stays as it is from then on. So
in every store that a gateway comes to have, the amounts of a row can be written, and its times and
its block number have 64 bits.

A store holds integers where the table has columns of decimal texts. It refuses an amount exactly if
such a column does (`Store.checkColumns_eq_unwritableAmount_iff`), and each amount that it holds is
kept by a column as a text that is read as that amount (`Gateway.amounts_kept_after`).
-/

namespace IntentGateway

/-- A row whose parts fit their columns. -/
structure Intent.FitsColumns (intent : Intent) : Prop where
  id : Store.fitsColumn intent.id = true
  feeBps : Store.fitsColumn intent.feeBps = true
  gross : Numeral.fits intent.grossAmount = true
  fee : Numeral.fits intent.feeAmount = true
  net : Numeral.fits intent.netAmount = true
  createdAt : Store.fitsColumn intent.createdAt = true
  expiry : Store.fitsColumn intent.expiry = true
  amount : ∀ n, intent.paidAmount = some n → Numeral.fits n = true
  blockNumber : ∀ n, intent.blockNumber = some n → Store.fitsColumn n = true
  paidAt : ∀ n, intent.paidAt = some n → Store.fitsColumn n = true

/-- A new row fits its columns if its terms do. -/
theorem Intent.fitsColumns_new {terms : Terms} {id : ℕ}
    (hc : Store.checkColumns [terms.grossAmount, terms.feeAmount, terms.netAmount]
      [(id : Int), terms.createdAt, terms.expiry] = .ok ())
    (hbps : Store.fitsColumn terms.feeBps = true) : (Intent.new terms id).FitsColumns := by
  obtain ⟨hamounts, hintegers⟩ := Store.checkColumns_eq_ok hc
  exact {
    id := hintegers _ (by simp [Intent.new])
    feeBps := hbps
    gross := hamounts _ (by simp [Intent.new])
    fee := hamounts _ (by simp [Intent.new])
    net := hamounts _ (by simp [Intent.new])
    createdAt := hintegers _ (by simp [Intent.new])
    expiry := hintegers _ (by simp [Intent.new])
    amount := fun n hn => nomatch hn
    blockNumber := fun n hn => nomatch hn
    paidAt := fun n hn => nomatch hn }

/-- Recording a settlement that fits its columns keeps a row fitting. -/
theorem Intent.FitsColumns.settled {intent : Intent} (h : intent.FitsColumns) {id : Int}
    {settlement : Settlement} (hc : Store.checkSettlement id settlement = .ok ()) :
    (intent.settled settlement).FitsColumns := by
  obtain ⟨hamounts, hintegers⟩ := Store.checkColumns_eq_ok hc
  refine { h with amount := ?_, blockNumber := ?_, paidAt := ?_ }
  · rintro n ⟨⟩
    exact hamounts _ (by simp)
  · intro n hn
    have hblock : settlement.blockNumber = some n := hn
    exact hintegers n (by simp [hblock])
  · rintro n ⟨⟩
    exact hintegers _ (by simp)

theorem Intent.FitsColumns.withRefund {intent : Intent} (h : intent.FitsColumns) :
    intent.withRefund.FitsColumns :=
  ⟨h.id, h.feeBps, h.gross, h.fee, h.net, h.createdAt, h.expiry, h.amount, h.blockNumber, h.paidAt⟩

namespace Operation

variable [Nesting]

/-- A rate that is accepted is small. -/
theorem fitsColumn_feeBps_of_terms {policy : Policy} {merchant gross token feeBps lifetime : Value}
    {now : Int} {accepted : Terms}
    (h : terms policy merchant gross token feeBps lifetime now = .ok accepted) :
    Store.fitsColumn accepted.feeBps = true := by
  have hlow := (terms_wellFormed h).feeBps_nonneg
  have hhigh := (terms_wellFormed h).feeBps_le
  rw [Store.fitsColumn, Bool.and_eq_true, decide_eq_true_iff, decide_eq_true_iff,
    Store.columnLimit]
  omega

/-- Every row that an operation makes fits its columns. -/
theorem fitsColumns_of_made {store : Store} {operation : Operation} {made : Intent}
    (h : Made store operation made) (hrows : ∀ row ∈ store.intents, row.FitsColumns) :
    made.FitsColumns := by
  cases h with
  | created ht hc => exact Intent.fitsColumns_new hc (fitsColumn_feeBps_of_terms ht)
  | settled _ hl _ hc => exact (hrows _ (Store.mem_of_lookup hl)).settled hc
  | refunded hmem _ => exact (hrows _ hmem).withRefund

end Operation

/-! ## Amounts as texts -/

/-- The amounts in a row. -/
def Intent.amounts (intent : Intent) : List Int :=
  [intent.grossAmount, intent.feeAmount, intent.netAmount] ++ intent.paidAmount.toList

theorem Intent.FitsColumns.fits_of_mem_amounts {intent : Intent} (h : intent.FitsColumns) {n : Int}
    (hn : n ∈ intent.amounts) : Numeral.fits n = true := by
  simp only [amounts, List.cons_append, List.nil_append, List.mem_cons, Option.mem_toList] at hn
  rcases hn with rfl | rfl | rfl | hpaid
  · exact h.gross
  · exact h.fee
  · exact h.net
  · exact h.amount n hpaid

/-- A store refuses amounts exactly if a column of decimal texts refuses one of them. -/
theorem Store.checkColumns_eq_unwritableAmount_iff {amounts integers : List Int} :
    checkColumns amounts integers = .error .unwritableAmount
      ↔ ∃ n ∈ amounts, Amount.Column.text.bind (.int n) = .error (.numeral .tooLarge) := by
  have hall : (∃ n ∈ amounts, ¬ Numeral.fits n = true) ↔ ¬ amounts.all Numeral.fits = true := by
    simp only [List.all_eq_true, not_forall, exists_prop]
  simp only [Amount.Column.bind_text_eq_tooLarge_iff]
  rw [hall, checkColumns]
  cases amounts.all Numeral.fits with
  | false => exact iff_of_true rfl Bool.false_ne_true
  | true => cases integers.all fitsColumn <;> simp

variable [Nesting]

/-- The invariant of all stores that a gateway comes to have. -/
theorem Store.kept_fitsColumns :
    Kept fun store => store.Sound ∧ ∀ intent ∈ store.intents, intent.FitsColumns :=
  kept_of_made fun hrows hmade => Operation.fitsColumns_of_made hmade hrows

/-- Whatever has happened to a gateway that began without intents, its rows fit their columns. -/
theorem Gateway.fitsColumns_after (policy : Policy) (clock : Rat) (events : List Event) :
    ∀ intent ∈ ((Gateway.fresh policy clock).after events).store.intents, intent.FitsColumns :=
  (rows_after Store.kept_fitsColumns policy clock events).2

/-- Each amount in its rows is kept by a column of decimal texts, and read back as it is. -/
theorem Gateway.amounts_kept_after (policy : Policy) (clock : Rat) (events : List Event) :
    ∀ intent ∈ ((Gateway.fresh policy clock).after events).store.intents, ∀ n ∈ intent.amounts,
      ∃ cell, Amount.Column.text.bind (.int n) = .ok cell ∧ cell.read = .ok (some n) :=
  fun intent hmem _ hn =>
    have hfits := (fitsColumns_after policy clock events intent hmem).fits_of_mem_amounts hn
    ⟨_, Amount.Column.bind_text_of_fits hfits, Amount.Cell.read_text hfits⟩

end IntentGateway
