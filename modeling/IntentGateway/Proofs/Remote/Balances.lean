import IntentGateway.Proofs.Amount.Wire
import IntentGateway.Proofs.Remote.Intent

/-! # What a client receives of balances

Balances travel as quantities, one for each asset of the policy. A quantity that was written for an
amount is read as that amount, so a client that asks for the balances of an account receives what
the account holds of both assets, if the policy names both and no balance is negative
(`Remote.Balances.arrives`). Together with the decimal amounts of intents these are all texts of
amounts that a client takes (`Remote.Balances.amounts_of_texts`).
-/

namespace IntentGateway

/-! ## Balances on the wire -/

open Schema

/-- The hexadecimal text of an amount within its bounds is accepted. -/
theorem Amount.quantity_hexText {bounds : List Bound} {n : Int} (hn : 0 ≤ n)
    (hb : ∀ bound ∈ bounds, bound.fault? n = none) :
    quantity bounds (.str (Numeral.hexText n)) = .valid n := by
  simp only [quantity, readingText, Value.raw?,
    readQuantity_eq_ok_iff.mpr (denotesQuantity_hexText hn)]
  exact integerWithin_int hb

/-- Balances are shown as quantities under the assets of the policy. -/
def Outcome.ofHoldings (tokens : List String) (held : String → Int) : Outcome :=
  .holdings (tokens.map fun asset => (asset, Numeral.hexText (held asset)))

/-- What an account holds of an asset, at a gateway. -/
def Gateway.balance (gateway : Gateway) (account asset : String) : Int :=
  Operation.amountOf (gateway.store.holdings account) asset

/-- Asking for the balances of an account shows what it holds, and changes nothing. -/
theorem Gateway.perform_balances [Nesting] {gateway : Gateway} {address : Value} {account : String}
    (h : Address.normalize "address" address = .ok account) :
    perform (.balances address) gateway
      = (.ok (.ofHoldings gateway.policy.tokens (gateway.balance account)), gateway) := by
  rw [perform, run, call, Operation.call, h]
  rfl

namespace Outcome

variable {tokens : List String} {held : String → Int}

theorem toWire_ofHoldings (tokens : List String) (held : String → Int) :
    (ofHoldings tokens held).toWire = .map (Value.Entries.ofPairs
      (tokens.map fun asset => (.text asset, .str (Numeral.hexText (held asset))))) := by
  rw [ofHoldings, toWire, List.map_map]
  rfl

/-- Each asset is shown by a quantity, which is read as what is held of it. -/
theorem field?_ofHoldings {asset : String} (h : asset ∈ tokens) :
    (ofHoldings tokens held).toWire.field? asset = some (.str (Numeral.hexText (held asset))) := by
  rw [toWire_ofHoldings]
  exact Value.Entries.find?_ofPairs_map (fun asset => .str (Numeral.hexText (held asset))) h

/-- Balances come back from their text. -/
theorem faithful_ofHoldings (tokens : List String) (held : String → Int) (depth : ℕ) :
    (ofHoldings tokens held).toWire.Faithful (depth + 1) := by
  rw [toWire_ofHoldings]
  refine .map ?_ ?_ (Value.Entries.nodup_ofPairs _)
  · exact Value.Entries.forall_ofPairs (List.forall_mem_map.mpr fun asset _ => .str _)
  · exact Value.Entries.forall_ofPairs (List.forall_mem_map.mpr fun asset _ => ⟨asset, rfl⟩)

end Outcome

namespace Remote.Balances

/-- Balances as a client is to receive them. -/
def ofHeld (held : String → Int) : Balances where
  gorr := held "GORR"
  usdcc := held "USDCc"

/-- A client accepts balances of both assets that are not negative. -/
theorem decode_ofHoldings {tokens : List String} {held : String → Int}
    (hgorr : "GORR" ∈ tokens) (husdcc : "USDCc" ∈ tokens) (hg : 0 ≤ held "GORR")
    (hu : 0 ≤ held "USDCc") :
    decode (Outcome.ofHoldings tokens held).toWire = .valid (ofHeld held) := by
  have hfind {asset : String} (name : String) (h : asset ∈ tokens) :
      Field.find? ⟨asset, name⟩ (Value.Entries.ofPairs
        (tokens.map fun asset => (.text asset, .str (Numeral.hexText (held asset)))))
        = some (asset, .str (Numeral.hexText (held asset))) := by
    rw [Field.find?,
      Value.Entries.find?_ofPairs_map (fun asset => .str (Numeral.hexText (held asset))) h]
  rw [Outcome.toWire_ofHoldings, decode, record,
    required_of_find? (hfind "gorr" hgorr)
      (Amount.quantity_hexText hg (by simpa [Bound.fault?] using hg)),
    required_of_find? (hfind "usdcc" husdcc)
      (Amount.quantity_hexText hu (by simpa [Bound.fault?] using hu))]
  rfl

/-- What is held of both assets arrives, if it is not negative. -/
theorem arrives [Nesting] {tokens : List String} {held : String → Int} (hgorr : "GORR" ∈ tokens)
    (husdcc : "USDCc" ∈ tokens) (hg : 0 ≤ held "GORR") (hu : 0 ≤ held "USDCc") :
    (Outcome.ofHoldings tokens held).Arrives decode (ofHeld held) :=
  Outcome.arrives_of_faithful (Outcome.faithful_ofHoldings tokens held 7)
    (decode_ofHoldings hgorr husdcc hg hu)

/-- The texts that are written for amounts are taken as them: hexadecimal ones of any size, and
decimal ones of few enough digits. So every balance that is shown and is not negative is read back
from its text, and the balances of both assets arrive together. Of all texts exactly the runs of
decimal digits that are not too long are taken as decimal amounts, and exactly those behind a marker
that are read as integers in base sixteen as quantities; none of them gives a negative amount, and
every other one is refused in words. -/
theorem amounts_of_texts [Nesting] :
    (∀ n : Int, 0 ≤ n → Amount.quantity [] (.str (Numeral.hexText n)) = .valid n)
      ∧ (∀ n : Int, 0 ≤ n → n.natAbs < 10 ^ Numeral.digitLimit →
        Amount.decimal [] (.str (Numeral.decimalText n)) = .valid n)
      ∧ (∀ (gateway : Gateway) (address : Value) (account : String),
        Address.normalize "address" address = .ok account →
          ∃ outcome, Gateway.perform (.balances address) gateway = (.ok outcome, gateway)
            ∧ (∀ asset ∈ gateway.policy.tokens, 0 ≤ gateway.balance account asset →
              ∃ shown, outcome.toWire.field? asset = some shown
                ∧ Amount.quantity [.atLeast 0] shown = .valid (gateway.balance account asset))
            ∧ ("GORR" ∈ gateway.policy.tokens → "USDCc" ∈ gateway.policy.tokens →
              0 ≤ gateway.balance account "GORR" → 0 ≤ gateway.balance account "USDCc" →
                outcome.Arrives decode (ofHeld (gateway.balance account))))
      ∧ Amount.TakesExactly (Amount.decimal []) Amount.DenotesDecimal
      ∧ Amount.TakesExactly (Amount.quantity []) Amount.DenotesQuantity
      ∧ ∀ raw n, Amount.DenotesQuantity raw n ↔
        Text.hasHexMarker raw.chars = true ∧ Numeral.readRaw 16 raw = .ok n := by
  refine ⟨fun n hn => Amount.quantity_hexText hn nofun,
    fun n hn hfew => Amount.decimal_decimalText hn (Numeral.fits_iff.mpr hfew) nofun,
    fun gateway address account haccount => ⟨_, Gateway.perform_balances haccount, ?_, ?_⟩,
    Amount.takesExactly_decimal, Amount.takesExactly_quantity, fun raw n => ?_⟩
  · intro asset hasset hn
    exact ⟨_, Outcome.field?_ofHoldings hasset,
      Amount.quantity_hexText hn (by simpa [Bound.fault?] using hn)⟩
  · exact arrives
  · rw [Amount.denotesQuantity_iff]
    exact and_congr_right fun _ => Numeral.readAs_eq_ok_iff.symm

/-- An account that holds something of one asset, and of the other nothing that is recorded. -/
theorem amounts_of_texts_of_one_asset :
    let address := "0x1111111111111111111111111111111111111111"
    let gateway := (Gateway.fresh .standard 0).after [.credit ⟨address, "GORR", 255⟩]
    ∃ outcome, Gateway.perform (.balances (.str address)) gateway = (.ok outcome, gateway)
      ∧ outcome.Arrives decode ⟨255, 0⟩ := by
  intro address gateway
  have hheld : gateway.balance address "GORR" = 255 ∧ gateway.balance address "USDCc" = 0 := by
    decide +kernel
  have haccount : Address.normalize "address" (.str address) = .ok address :=
    Address.normalize_of_canonical? (by decide +kernel) _
  obtain ⟨outcome, hperform, -, harrives⟩ := amounts_of_texts.2.2.1 gateway _ _ haccount
  have hboth := harrives (by decide) (by decide) (by omega) (by omega)
  rw [ofHeld, hheld.1, hheld.2] at hboth
  exact ⟨outcome, hperform, hboth⟩

end Remote.Balances

end IntentGateway
