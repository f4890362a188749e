import IntentGateway.Proofs.Json.Reading
import IntentGateway.Proofs.Remote.Intent

/-! # What operations end with

An operation ends with an outcome that has a JSON form of two levels, or with a failure. If the
failure is a refusal, its words, its code and the keys of its details are texts. The values in its
details are shown as texts, as lists of them or as small numbers, except for those arguments of the
operation that are quoted as they were given. So a condition that all values with a JSON form of one
level meet, and those arguments, is met by everything that a refusal quotes.
-/

namespace IntentGateway

open Json (HasForm)

/-- A refusal whose words, code and keys are texts, and whose details meet a condition. -/
structure Refusal.Quotes (P : Value → Prop) (refusal : Refusal) : Prop where
  message : ∃ s, refusal.message = .text s
  code : ∃ s, refusal.code = .text s
  details : ∀ entry ∈ refusal.details, (∃ s, entry.1 = .text s) ∧ P entry.2

/-- Whether a failure quotes only what meets a condition. What is no refusal quotes nothing. -/
def Failure.Quotes (P : Value → Prop) : Failure → Prop
  | .refused refusal => refusal.Quotes P
  | _ => True

/-- Whether a check that fails quotes only what meets a condition. -/
abbrev Failure.QuotedBy {α : Type} (P : Value → Prop) (result : Except Failure α) : Prop :=
  Only (Quotes P) result

namespace Failure

variable {α β : Type} {P : Value → Prop}

theorem quotes_worded {reason : Reason} {message : String} {details : Value.Entries}
    (h : ∀ entry ∈ details, (∃ s, entry.1 = .text s) ∧ P entry.2) :
    (worded reason message details).Quotes P :=
  ⟨⟨_, rfl⟩, ⟨_, rfl⟩, h⟩

theorem quotes_plain {reason : Reason} {details : Value.Entries}
    (h : ∀ entry ∈ details, (∃ s, entry.1 = .text s) ∧ P entry.2) :
    (plain reason details).Quotes P :=
  quotes_worded h

/-- Two checks, one after the other. -/
theorem QuotedBy.bind {first : Except Failure α} {next : α → Except Failure β}
    (h : QuotedBy P first) (h' : ∀ a, first = .ok a → QuotedBy P (next a)) :
    QuotedBy P (first >>= next) :=
  only_bind.mpr ⟨h, h'⟩

variable [Nesting]

/-- A value that cannot be shown is no refusal. -/
theorem quotedBy_shown (v : Value) : QuotedBy P v.shown := by
  intro failure h
  rw [Value.shown] at h
  cases hv : v.quoted with
  | ok s =>
    rw [hv] at h
    cases h
  | error e =>
    rw [hv] at h
    cases h
    cases e <;> trivial

/-- A refusal that shows a value, whatever it is. -/
theorem quotedBy_shown_bind {v : Value} {refusal : String → Failure}
    (h : ∀ s, (refusal s).Quotes P) :
    QuotedBy P (v.shown >>= fun s => (.error (refusal s) : Except Failure α)) :=
  (quotedBy_shown v).bind fun s _ => only_error.mpr (h s)

end Failure

open Failure

section Checks

variable {P : Value → Prop} (hP : ∀ v, HasForm 1 v → P v)
include hP

variable [Nesting]

/-- A refusal whose details show a value, whatever it is. -/
theorem Failure.quotedBy_shown_worded {α : Type} {v : Value} {reason : Reason}
    {message : String → String} {key : String} :
    QuotedBy P (v.shown >>= fun s =>
      (.error (worded reason (message s) [(key, .str s)]) : Except Failure α)) :=
  quotedBy_shown_bind fun s => quotes_worded (by simpa using hP _ (Json.hasForm_str s))

theorem Failure.quotedBy_shown_plain {α : Type} {v : Value} {reason : Reason} {key : String} :
    QuotedBy P (v.shown >>= fun s =>
      (.error (plain reason [(key, .str s)]) : Except Failure α)) :=
  quotedBy_shown_worded hP

/-! ## Arguments -/

/-- Only an integer that is no rate is quoted as it is. -/
theorem Fee.quotedBy_rate {bps : Value} (h : ∀ n, bps = .int n → P (.int n)) :
    QuotedBy P (rate bps) := by
  rw [rate.eq_def]
  split
  · rename_i n
    split
    · exact only_ok _
    · exact only_error.mpr (quotes_plain (by simpa using h n rfl))
  · exact quotedBy_shown_plain hP

theorem Fee.quotedBy_grossAmount (gross : Value) : QuotedBy P (grossAmount gross) := by
  rw [grossAmount.eq_def]
  split
  · split
    · exact only_ok _
    · exact quotedBy_shown_plain hP
  · exact quotedBy_shown_plain hP

theorem Address.quotedBy_normalize (field : String) {value : Value} (h : P value) :
    QuotedBy P (normalize field value) := by
  rw [normalize]
  split
  · split
    · exact only_ok _
    · exact only_error.mpr (quotes_worded (by simpa using h))
  · exact quotedBy_shown_worded hP

namespace Operation

theorem quotedBy_checkToken (policy : Policy) {token : Value} (h : P token) :
    QuotedBy P (checkToken policy token) := by
  have hsupported : HasForm 1 (.list (policy.tokens.map .str)) :=
    Json.hasForm_list.mpr (by simp [Json.hasForm_str])
  have hrefuse (s : String) : (worded .unknownToken ("Unsupported token " ++ s)
      [("token", token), ("supported", .list (policy.tokens.map .str))]).Quotes P :=
    quotes_worded (by simpa using ⟨h, hP _ hsupported⟩)
  rw [checkToken.eq_def]
  dsimp only
  split
  · split
    · exact only_ok _
    · exact quotedBy_shown_bind hrefuse
  · exact quotedBy_shown_bind hrefuse

theorem quotedBy_checkLifetime (lifetime : Value) : QuotedBy P (checkLifetime lifetime) := by
  rw [checkLifetime.eq_def]
  dsimp only
  split
  · split
    · exact only_ok _
    · exact quotedBy_shown_plain hP
  · exact quotedBy_shown_plain hP

theorem quotedBy_checkConfirmed (amount : Value) : QuotedBy P (checkConfirmed amount) := by
  rw [checkConfirmed.eq_def]
  dsimp only
  split
  · split
    · exact only_ok _
    · exact quotedBy_shown_worded hP
  · exact quotedBy_shown_worded hP

/-- The terms of an intent quote the rate, the merchant and the asset. -/
theorem quotedBy_terms {policy : Policy} {merchant token feeBps : Value}
    (hrate : ∀ n, orPolicy feeBps policy.feeBps = .int n → P (.int n)) (hmerchant : P merchant)
    (htoken : P token) (gross lifetime : Value) (now : Int) :
    QuotedBy P (terms policy merchant gross token feeBps lifetime now) := by
  rw [terms]
  refine (Fee.quotedBy_rate hP hrate).bind fun bps _ => ?_
  refine (Fee.quotedBy_grossAmount hP gross).bind fun amount _ => ?_
  refine (Address.quotedBy_normalize hP "merchant" hmerchant).bind fun address _ => ?_
  refine (quotedBy_checkToken hP policy htoken).bind fun asset _ => ?_
  exact (quotedBy_checkLifetime hP _).bind fun seconds _ => only_ok _

theorem quotedBy_recipient {recipient : Option Value} (h : ∀ v, recipient = some v → P v) :
    QuotedBy P (recipient.mapM (Address.normalize "recipient")) := by
  cases recipient with
  | none => exact only_ok _
  | some v =>
    exact (Address.quotedBy_normalize hP "recipient" (h v rfl)).bind fun _ _ => only_ok _

omit [Nesting] in
/-- A refusal to settle quotes parts of the row. -/
theorem quotes_of_settleRefusal? {intent : Intent} (hc : intent.FitsColumns)
    {recipient : Option String} {confirmed : Option Int} {failure : Failure}
    (h : settleRefusal? intent recipient confirmed = some failure) : failure.Quotes P := by
  have hid : P (.int intent.id) :=
    hP _ (Json.hasForm_int.mpr (Numeral.fits_of_fitsColumn hc.id))
  have htext (s : String) : P (.str s) := hP _ (Json.hasForm_str s)
  rw [settleRefusal?] at h
  dsimp only at h
  split at h
  · cases h
    exact quotes_plain (by simpa using hid)
  · split at h
    · cases h
      exact quotes_plain (by simp [hid, htext])
    · obtain ⟨amount, _, rfl⟩ := Option.map_eq_some_iff.mp h
      exact quotes_worded (by simp [hid, htext])

end Operation

end Checks

/-! ## Calls -/

/-- Whether a result can be told: an outcome has a JSON form in which a list or a map may hold
others, and a failure quotes only what meets a condition. -/
def Outcome.Told (P : Value → Prop) : Except Failure Outcome → Prop
  | .ok outcome => HasForm 2 outcome.toWire
  | .error failure => failure.Quotes P

/-- Whether a call ends with a result that can be told, whatever rows it reads that fit their
columns. -/
def Call.Tells (P : Value → Prop) : Call Outcome → Prop
  | .done result => Outcome.Told P result
  | .find _ next =>
    ∀ found : Option Intent, (∀ intent ∈ found, intent.FitsColumns) → (next found).Tells P
  | .ofMerchant _ next =>
    ∀ intents : List Intent, (∀ intent ∈ intents, intent.FitsColumns) → (next intents).Tells P
  | .holdings _ next => ∀ balances, (next balances).Tells P
  | .insert terms next =>
    Store.fitsColumn terms.feeBps = true ∧
      ∀ intent : Intent, intent.FitsColumns → (next intent).Tells P
  | .settle _ _ next => ∀ effective, (next effective).Tells P
  | .refund _ next => ∀ effective, (next effective).Tells P

theorem Call.tells_checking {P : Value → Prop} {α : Type} {check : Except Failure α}
    {next : α → Call Outcome} (h : QuotedBy P check)
    (hnext : ∀ a, check = .ok a → (next a).Tells P) : (Call.checking check next).Tells P := by
  cases hcheck : check with
  | error failure => exact h failure hcheck
  | ok a => exact hnext a hcheck

/-! ### Statements that keep the rows fitting -/

namespace Store

variable {store store' : Store}

theorem forall_updateWhere {Q : Intent → Prop} {id : Int} {condition : Intent → Bool}
    {change : Intent → Intent} (h : ∀ row ∈ store.intents, Q row)
    (hchange : ∀ row ∈ store.intents, Q (change row)) :
    ∀ row ∈ (store.updateWhere id condition change).2.intents, Q row := by
  intro row hrow
  obtain ⟨old, hold, rfl⟩ := List.mem_map.mp hrow
  split
  · exact hchange old hold
  · exact h old hold

theorem fitsColumns_settle {id : Int} {settlement : Settlement} {effective : Bool}
    (h : ∀ row ∈ store.intents, row.FitsColumns)
    (hs : store.settle id settlement = .ok (effective, store')) :
    ∀ row ∈ store'.intents, row.FitsColumns := by
  cases hc : checkSettlement id settlement with
  | error e =>
    rw [settle_of_misfit hc] at hs
    cases hs
  | ok _ =>
    rw [settle_of_fit hc] at hs
    cases hs
    exact forall_updateWhere h fun row hrow => (h row hrow).settled hc

theorem fitsColumns_refund {id : Int} {effective : Bool}
    (h : ∀ row ∈ store.intents, row.FitsColumns)
    (hr : store.refund id = .ok (effective, store')) :
    ∀ row ∈ store'.intents, row.FitsColumns := by
  cases hfit : fitsColumn id with
  | false =>
    rw [refund_of_misfit hfit] at hr
    cases hr
  | true =>
    rw [refund_of_fit hfit] at hr
    cases hr
    exact forall_updateWhere h fun row hrow => (h row hrow).withRefund

theorem fitsColumns_insert {terms : Terms} {intent : Intent}
    (h : ∀ row ∈ store.intents, row.FitsColumns) (hbps : fitsColumn terms.feeBps = true)
    (hi : store.insert terms = .ok (intent, store')) :
    intent.FitsColumns ∧ ∀ row ∈ store'.intents, row.FitsColumns := by
  obtain ⟨hc, rfl, rfl⟩ := insert_eq_ok hi
  have hnew := Intent.fitsColumns_new hc hbps
  exact ⟨hnew, List.forall_mem_append.mpr ⟨h, List.forall_mem_singleton.mpr hnew⟩⟩

end Store

/-- A call that ends with a result that can be told does so in every store whose rows fit. -/
theorem Call.Tells.run {P : Value → Prop} {call : Call Outcome} (h : call.Tells P) {store : Store}
    (hrows : ∀ row ∈ store.intents, row.FitsColumns) : Outcome.Told P (call.run store).1 := by
  -- what is read fits, and what is written keeps the rows fitting for the rest of the call
  induction call generalizing store with
  | done result => exact h
  | ofMerchant merchant next ih =>
    exact ih _ (h _ fun intent hmem => hrows intent (List.mem_filter.mp hmem).1) hrows
  | holdings address next ih => exact ih _ (h _) hrows
  | find id next ih =>
    rw [Call.run, Store.find_eq]
    cases Store.fitsColumn id with
    | false => trivial
    | true => exact ih _ (h _ fun intent hmem => hrows intent (Store.mem_of_lookup hmem)) hrows
  | insert terms next ih =>
    rw [Call.run]
    cases hi : store.insert terms with
    | error e => trivial
    | ok result =>
      obtain ⟨hnew, hrows'⟩ := Store.fitsColumns_insert hrows h.1 hi
      exact ih _ (h.2 _ hnew) hrows'
  | settle id settlement next ih =>
    rw [Call.run]
    cases hs : store.settle id settlement with
    | error e => trivial
    | ok result => exact ih _ (h _) (Store.fitsColumns_settle hrows hs)
  | refund id next ih =>
    rw [Call.run]
    cases hr : store.refund id with
    | error e => trivial
    | ok result => exact ih _ (h _) (Store.fitsColumns_refund hrows hr)

/-! ## Operations -/

namespace Operation

/-- The arguments that a refusal of an operation may quote as they are. -/
def arguments (policy : Policy) : Operation → List Value
  | .create merchant _ token feeBps _ _ =>
    merchant :: token :: ((orPolicy feeBps policy.feeBps).int?.map Value.int).toList
  | .get id _ => [.int id]
  | .list merchant _ => [merchant]
  | .markPaid payment _ =>
    payment.payer :: payment.recipient.toList
      ++ ((Marker.ofData payment.data).map fun id => Value.int id).toList
  | .pay id payer _ => [.int id, payer]
  | .refund id _ => [.int id]
  | .balances address => [address]

section Calls

variable {P : Value → Prop}

theorem tells_showing {intent : Intent} (hc : intent.FitsColumns) (now : Int) :
    (showing intent now).Tells P :=
  (View.faithful_toWire hc now 1).hasForm

theorem quotes_notFound {id : Int} (hid : P (.int id)) : (notFound id).Quotes P :=
  quotes_plain (by simpa using hid)

theorem tells_load {id : Int} (hid : P (.int id)) {next : Intent → Call Outcome}
    (h : ∀ intent : Intent, intent.FitsColumns → (next intent).Tells P) :
    (load id next).Tells P := by
  rw [load]
  split
  · exact quotes_notFound hid
  · rintro (_ | intent) hfound
    · exact quotes_notFound hid
    · exact h intent (hfound intent rfl)

theorem tells_afterSettling {id : Int} (hid : P (.int id)) (now : Int) (effective : Bool) :
    (afterSettling id now effective).Tells P := by
  refine tells_load hid fun intent hc => ?_
  split
  · exact quotes_plain (by simpa using hid)
  · exact tells_showing hc now

theorem tells_refunding {id : Int} (hid : P (.int id)) (now : Int) :
    (refunding id now).Tells P := by
  refine tells_load hid fun intent hc => ?_
  rw [refundingRead]
  split
  · exact quotes_plain (by simpa using hid)
  · split
    · exact tells_showing hc now
    · exact fun _ => tells_load hid fun _ hc' => tells_showing hc' now

variable (hP : ∀ v, HasForm 1 v → P v)
include hP

theorem tells_settlingRead {id : Int} (hid : P (.int id)) (now : Int) (remittance : Remittance)
    (recipient : Option String) {intent : Intent} (hc : intent.FitsColumns) :
    (settlingRead id now remittance recipient intent).Tells P := by
  rw [settlingRead]
  split
  · exact tells_showing hc now
  · split
    · rename_i failure hrefusal
      exact quotes_of_settleRefusal? hP hc hrefusal
    · exact fun effective => tells_afterSettling hid now effective

variable [Nesting]

theorem tells_settling {id : Int} (hid : P (.int id)) (now : Int) (remittance : Remittance)
    {recipient : Option Value} (hrecipient : ∀ v, recipient = some v → P v) :
    (settling id now remittance recipient).Tells P :=
  Call.tells_checking (quotedBy_recipient hP hrecipient) fun recipient _ =>
    tells_load hid fun _ hc => tells_settlingRead hP hid now remittance recipient hc

theorem tells_correlating {payment : Payment} (hpayer : P payment.payer)
    (hrecipient : ∀ v, payment.recipient = some v → P v)
    (hid : ∀ id, Marker.ofData payment.data = some id → P (.int id)) (now : Int) :
    (correlating payment now).Tells P := by
  rw [correlating]
  split
  · exact Json.hasForm_null
  · rename_i id hmarker
    refine Call.tells_checking (quotedBy_checkConfirmed hP payment.amount) fun amount _ => ?_
    refine Call.tells_checking (Address.quotedBy_normalize hP "payer" hpayer) fun payer _ => ?_
    exact tells_settling hP (hid id hmarker) now _ hrecipient

/-- The call of an operation ends with a result that can be told, if its arguments can. -/
theorem tells_call {policy : Policy} {operation : Operation}
    (h : ∀ v ∈ operation.arguments policy, P v) (clock : Int) :
    (operation.call policy clock).Tells P := by
  cases operation with
  | create merchant gross token feeBps lifetime now =>
    have hrate (n : Int) (hn : orPolicy feeBps policy.feeBps = .int n) : P (.int n) :=
      h _ (by simp [arguments, hn, Value.int?])
    simp only [arguments, List.forall_mem_cons] at h
    obtain ⟨hmerchant, htoken, -⟩ := h
    refine Call.tells_checking (quotedBy_terms hP hrate hmerchant htoken gross lifetime _)
      fun accepted haccepted => ?_
    refine ⟨fitsColumn_feeBps_of_terms haccepted, fun intent hc => ?_⟩
    have hid : HasForm 1 (.int intent.id) :=
      Json.hasForm_int.mpr (Numeral.fits_of_fitsColumn hc.id)
    have hview := (View.faithful_toWire hc (now.getD clock) 0).hasForm
    exact Json.hasForm_map.mpr
      (by simpa using ⟨Json.entryHasForm_text hid, Json.entryHasForm_text hview⟩)
  | get id now => exact tells_load (h _ (by simp [arguments])) fun _ hc => tells_showing hc _
  | list merchant now =>
    refine Call.tells_checking
      (Address.quotedBy_normalize hP "merchant" (h _ (by simp [arguments])))
      fun address _ intents hrows => Json.hasForm_list.mpr ?_
    simp only [List.map_map, List.forall_mem_map]
    exact fun intent hmem => (View.faithful_toWire (hrows intent hmem) _ 0).hasForm
  | markPaid payment now =>
    refine tells_correlating hP (h _ (by simp [arguments])) (fun v hv => h v ?_)
      (fun id hid => h _ ?_) _
    · simp [arguments, hv]
    · simp [arguments, hid]
  | pay id payer now =>
    exact Call.tells_checking (Address.quotedBy_normalize hP "payer" (h _ (by simp [arguments])))
      fun payer _ => tells_settling hP (h _ (by simp [arguments])) _ _ fun _ hv => nomatch hv
  | refund id now => exact tells_refunding (h _ (by simp [arguments])) _
  | balances address =>
    refine Call.tells_checking
      (Address.quotedBy_normalize hP "address" (h _ (by simp [arguments])))
      fun address _ balances => Json.hasForm_map.mpr ?_
    refine Value.Entries.forall_ofPairs ?_
    simp [Json.entryHasForm_text, Json.hasForm_str]

end Calls

end Operation

variable [Nesting]

/-- What a gateway that began without intents answers an operation with can be told, whatever has
happened to it. -/
theorem Gateway.told_perform {P : Value → Prop} (hP : ∀ v, HasForm 1 v → P v) (policy : Policy)
    (clock : Rat) (events : List Event) (operation : Operation) :
    let gateway := (Gateway.fresh policy clock).after events
    (∀ v ∈ operation.arguments gateway.policy, P v) →
      Outcome.Told P (perform operation gateway).1 := by
  intro gateway h
  exact (Operation.tells_call hP h gateway.now).run (fitsColumns_after policy clock events)

end IntentGateway
