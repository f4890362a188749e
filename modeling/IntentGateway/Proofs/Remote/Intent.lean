import IntentGateway.Proofs.Gateway.Columns
import IntentGateway.Proofs.Gateway.WellFormed
import IntentGateway.Proofs.Json.RoundTrip
import IntentGateway.Proofs.Schema.Decoding
import IntentGateway.Remote.Intent

/-! # What a client receives of an intent

The view of an intent travels as JSON, amounts as decimal texts. The client takes it apart again
under other names and within ranges of its own. For every row that a gateway can have, the client
accepts what arrives, and has the fields of the row: no range of the client is narrower than what
the gateway keeps.
-/

namespace IntentGateway

open Schema

/-- An intent as a client is to receive it: the fields of the row, whether it has expired, and the
status that follows. -/
def Remote.Intent.ofRow (row : IntentGateway.Intent) (now : Int) : Remote.Intent where
  id := row.id
  merchant := row.merchant
  payer := row.payer
  token := row.token
  feeBps := row.feeBps
  grossAmount := row.grossAmount
  feeAmount := row.feeAmount
  netAmount := row.netAmount
  createdAt := row.createdAt
  expiry := row.expiry
  paid := row.paid
  refunded := row.refunded
  expired := decide (row.expiry < now)
  status := Status.derive row.paid row.refunded (decide (row.expiry < now))
  txHash := row.txHash
  blockNumber := row.blockNumber
  paidAt := row.paidAt

/-- Whether what an outcome gives arrives: it is written, read back, and taken apart to a value. -/
def Outcome.Arrives [Nesting] {α : Type} (outcome : Outcome) (decode : Decoder α) (a : α) : Prop :=
  ∃ text v, Json.write outcome.toWire = .ok text ∧ Json.read (Text.utf8Bytes text) = .ok v
    ∧ decode v = .valid a

/-! ## The amounts of a row -/

/-- No part of a gross amount is negative. -/
theorem Terms.WellFormed.parts_nonneg {terms : Terms} (h : terms.WellFormed) :
    0 ≤ terms.feeAmount ∧ 0 ≤ terms.netAmount := by
  have hgross := h.gross_pos
  have hlow := h.feeBps_nonneg
  have hhigh := h.feeBps_le
  have hsum := h.fee_add_net
  have hshare : (terms.grossAmount * terms.feeBps : ℚ) / 10000 ≤ terms.grossAmount := by
    have hbps : (terms.feeBps : ℚ) ≤ 10000 := by exact_mod_cast hhigh
    have hpos : (0 : ℚ) ≤ terms.grossAmount := by exact_mod_cast hgross.le
    rw [div_le_iff₀ (by norm_num)]
    exact mul_le_mul_of_nonneg_left hbps hpos
  have hfee : terms.feeAmount ≤ terms.grossAmount := by
    rw [h.fee_eq_floor]
    exact_mod_cast (Int.floor_le _).trans hshare
  refine ⟨?_, by omega⟩
  rw [h.fee_eq_floor]
  apply Int.floor_nonneg.mpr
  have hbps : (0 : ℚ) ≤ terms.feeBps := by exact_mod_cast hlow
  have hpos : (0 : ℚ) ≤ terms.grossAmount := by exact_mod_cast hgross.le
  positivity

/-- If a gross amount can be written, so can its parts. -/
theorem Terms.WellFormed.fits_amounts {terms : Terms} (h : terms.WellFormed)
    (hgross : Numeral.fits terms.grossAmount = true) :
    ∀ n ∈ [terms.grossAmount, terms.feeAmount, terms.netAmount], Numeral.fits n = true := by
  obtain ⟨hfee, hnet⟩ := h.parts_nonneg
  have hsum := h.fee_add_net
  simp only [List.forall_mem_cons]
  exact ⟨hgross, Numeral.fits_of_natAbs_le hgross (by omega),
    Numeral.fits_of_natAbs_le hgross (by omega), nofun⟩

/-! ## Writing a view -/

/-- What a view holds comes back from its text. -/
theorem View.faithful_toWire {row : Intent} (hc : row.FitsColumns) (now : Int) (depth : ℕ) :
    (View.ofIntent row now).toWire.Faithful (depth + 1) := by
  refine .map ?_ (by simp) (by simp)
  simp only [List.forall_mem_cons, View.ofIntent]
  refine ⟨.int (Numeral.fits_of_fitsColumn hc.id), .str _, .ofOption fun s _ => .str s, .str _,
    .str _, .int (Numeral.fits_of_fitsColumn hc.createdAt), .bool _, .bool _,
    .int (Numeral.fits_of_fitsColumn hc.feeBps), .str _, .str _, .str _,
    .int (Numeral.fits_of_fitsColumn hc.expiry), .bool _, .str _,
    .ofOption fun s _ => .str s,
    .ofOption fun n hn => .int (Numeral.fits_of_fitsColumn (hc.blockNumber n hn)),
    .ofOption fun n hn => .int (Numeral.fits_of_fitsColumn (hc.paidAt n hn)), by simp⟩

/-! ## Taking a view apart -/

/-- The decimal text of an amount within its bounds is accepted. -/
theorem Amount.decimal_decimalText {bounds : List Bound} {n : Int} (hn : 0 ≤ n)
    (h : Numeral.fits n = true) (hb : ∀ bound ∈ bounds, bound.fault? n = none) :
    decimal bounds (.str (Numeral.decimalText n)) = .valid n := by
  simp only [decimal, readingText, Value.raw?, readDecimal_decimalText hn h]
  exact integerWithin_int hb

theorem Status.among_name (status : Status) :
    among Status.named (.str status.name) = .valid status := by
  cases status <;> rfl

/-- A client accepts the view of a row, and has the fields of the row. -/
theorem Remote.Intent.decode_toWire {row : IntentGateway.Intent} (hw : row.WellFormed)
    (hc : row.FitsColumns) (now : Int) :
    decode (View.ofIntent row now).toWire = .valid (ofRow row now) := by
  obtain ⟨hfee, hnet⟩ := hw.terms.parts_nonneg
  have hgross := hw.terms.gross_pos
  have hlow := hw.terms.feeBps_nonneg
  have hhigh := hw.terms.feeBps_le
  rw [decode, View.toWire, record]
  rw [required_of_find? rfl (integerWithin_int (n := row.id) (by simp [Bound.fault?])),
    required_of_find? rfl (a := row.merchant) rfl,
    nullable_of_find? rfl (optional_str row.payer),
    required_of_find? rfl (a := row.token) rfl,
    required_of_find? rfl
      (integerWithin_int (n := row.feeBps) (by simp [Bound.fault?, hlow, hhigh])),
    required_of_find? rfl
      (Amount.decimal_decimalText hgross.le hc.gross (by simp [Bound.fault?, hgross])),
    required_of_find? rfl (Amount.decimal_decimalText hfee hc.fee (by simp [Bound.fault?, hfee])),
    required_of_find? rfl (Amount.decimal_decimalText hnet hc.net (by simp [Bound.fault?, hnet])),
    required_of_find? rfl (a := row.createdAt) rfl,
    required_of_find? rfl (a := row.expiry) rfl,
    required_of_find? rfl (a := row.paid) rfl,
    required_of_find? rfl (a := row.refunded) rfl,
    required_of_find? rfl (a := decide (row.expiry < now)) rfl,
    required_of_find? rfl (Status.among_name (row.statusAt now)),
    nullable_of_find? rfl (optional_str row.txHash),
    nullable_of_find? rfl (optional_int row.blockNumber),
    nullable_of_find? rfl (optional_int row.paidAt)]
  rfl

/-! ## From the row to the client -/

/-- A value that comes back from its text arrives as what the client makes of it. There is room for
what takes no more than eight levels. -/
theorem Outcome.arrives_of_faithful [Nesting] {α : Type} {outcome : Outcome}
    {decode : Decoder α} {a : α} (h : outcome.toWire.Faithful 8)
    (ha : decode outcome.toWire = .valid a) : outcome.Arrives decode a := by
  obtain ⟨text, hwrite, hread⟩ :=
    Json.exists_write_of_faithful h Nesting.eight_le_read Nesting.eight_le_written
  exact ⟨text, outcome.toWire, hwrite, hread, ha⟩

/-- For every row that a gateway can come to have and every time, a client that is sent the view of
the row receives the fields of the row, whether the intent has expired, and the status that follows;
so it does inside what creating an intent gives, and inside any list of views. -/
theorem Remote.Intent.arrives_after [Nesting] (policy : Policy) (clock : Rat) (events : List Event)
    (now : Int) :
    let store := ((Gateway.fresh policy clock).after events).store
    (∀ row ∈ store.intents,
        (Outcome.view (.ofIntent row now)).Arrives decode (ofRow row now)
          ∧ (Outcome.created row.id (.ofIntent row now)).Arrives CreatedIntent.decode
            ⟨row.id, ofRow row now⟩)
      ∧ ∀ rows : List IntentGateway.Intent, (∀ row ∈ rows, row ∈ store.intents) →
        (Outcome.views (rows.map (View.ofIntent · now))).Arrives (listOf decode)
          (rows.map (ofRow · now)) := by
  intro store
  -- the ranges of the client follow from what the terms of a row were checked for
  have hw := (Gateway.intents_wellFormed_after policy clock events).2
  have hc := Gateway.fitsColumns_after policy clock events
  refine ⟨fun row hmem => ⟨?_, ?_⟩, fun rows hrows => ?_⟩
  · exact Outcome.arrives_of_faithful (View.faithful_toWire (hc row hmem) now 7)
      (decode_toWire (hw row hmem) (hc row hmem) now)
  · have hentries : ((Outcome.created row.id (.ofIntent row now)).toWire).Faithful 8 := by
      refine .map ?_ (by simp) (by simp)
      simp only [List.forall_mem_cons]
      exact ⟨.int (Numeral.fits_of_fitsColumn (hc row hmem).id),
        View.faithful_toWire (hc row hmem) now 6, by simp⟩
    refine Outcome.arrives_of_faithful hentries ?_
    rw [CreatedIntent.decode, Outcome.toWire, record,
      required_of_find? rfl (integerWithin_int (n := row.id) (by simp [Bound.fault?])),
      required_of_find? rfl (decode_toWire (hw row hmem) (hc row hmem) now)]
    rfl
  · have hitems : ((Outcome.views (rows.map (View.ofIntent · now))).toWire).Faithful 8 := by
      refine .list fun item hitem => ?_
      simp only [List.map_map, List.mem_map, Function.comp_apply] at hitem
      obtain ⟨row, hmem, rfl⟩ := hitem
      exact View.faithful_toWire (hc row (hrows row hmem)) now 6
    refine Outcome.arrives_of_faithful hitems (listOf_eq_valid.mpr ⟨_, rfl, ?_⟩)
    simp only [List.map_map]
    refine List.map_congr_left fun row hmem => ?_
    exact decode_toWire (hw row (hrows row hmem)) (hc row (hrows row hmem)) now

end IntentGateway
