import IntentGateway.Proofs.Gateway.Event

/-! # Why operations are refused

An operation is refused for few reasons: something is wrong with one of its arguments, the intent is
not there, or its state does not allow the operation. No refusal of an operation is about the
request that asked for it.
-/

namespace IntentGateway

/-! ## Reasons of failures -/

namespace Failure

/-- Whether a failure, if it is a refusal, is one for a reason of a list. -/
def IsFor (reasons : List Reason) (failure : Failure) : Prop :=
  ∀ reason, failure.reason? = some reason → reason ∈ reasons

/-- Whether a result, if it is a refusal, is one for a reason of a list. -/
abbrev OnlyFor {α : Type} (reasons : List Reason) (result : Except Failure α) : Prop :=
  Only (IsFor reasons) result

variable {α : Type} {reasons : List Reason}

theorem isFor_of_reason?_eq_none {failure : Failure} (h : failure.reason? = none) :
    failure.IsFor reasons := by
  intro reason hreason
  rw [h] at hreason
  cases hreason

theorem isFor_worded {reason : Reason} (h : reason ∈ reasons) (message : RawText)
    (details : Value.Entries) : (worded reason message details).IsFor reasons := by
  rintro _ ⟨⟩
  exact h

theorem isFor_plain {reason : Reason} (h : reason ∈ reasons) (details : Value.Entries) :
    (plain reason details).IsFor reasons :=
  isFor_worded h _ details

theorem IsFor.of_subset {more : List Reason} {failure : Failure} (h : failure.IsFor reasons)
    (hsub : reasons ⊆ more) : failure.IsFor more :=
  fun reason hreason => hsub (h reason hreason)

variable [Nesting]

/-- A value that cannot be shown is no refusal. -/
theorem onlyFor_shown (v : Value) : OnlyFor reasons v.shown := by
  intro failure h
  rw [Value.shown] at h
  cases hv : v.quoted with
  | ok s =>
    rw [hv] at h
    cases h
  | error e =>
    rw [hv] at h
    cases h
    cases e <;> exact isFor_of_reason?_eq_none rfl

/-- A refusal that shows a value, whatever it is. -/
theorem onlyFor_shown_bind {reason : Reason} (h : reason ∈ reasons) (v : Value)
    (message : String → RawText) (details : String → Value.Entries) :
    OnlyFor reasons (v.shown >>= fun s =>
      (.error (worded reason (message s) (details s)) : Except Failure α)) :=
  only_bind.mpr ⟨onlyFor_shown v, fun _ _ => only_error.mpr (isFor_worded h _ _)⟩

end Failure

open Failure (OnlyFor IsFor isFor_worded isFor_plain isFor_of_reason?_eq_none onlyFor_shown_bind
  only_ok only_error only_bind)

/-! ## Calls -/

namespace Call

variable {α : Type} {reasons : List Reason}

/-- Whether a call, if it is refused, is refused for a reason of a list, whatever it reads. -/
def FailsFor (reasons : List Reason) : Call α → Prop
  | .done result => OnlyFor reasons result
  | .find _ next => ∀ found, (next found).FailsFor reasons
  | .ofMerchant _ next => ∀ intents, (next intents).FailsFor reasons
  | .holdings _ next => ∀ balances, (next balances).FailsFor reasons
  | .insert _ next => ∀ intent, (next intent).FailsFor reasons
  | .settle _ _ next => ∀ effective, (next effective).FailsFor reasons
  | .refund _ next => ∀ effective, (next effective).FailsFor reasons

theorem failsFor_answer (a : α) : (answer a).FailsFor reasons :=
  only_ok a

theorem failsFor_fail {failure : Failure} (h : failure.IsFor reasons) :
    (fail failure : Call α).FailsFor reasons :=
  only_error.mpr h

theorem failsFor_checking {β : Type} {check : Except Failure β} {next : β → Call α}
    (h : OnlyFor reasons check) (hnext : ∀ b, (next b).FailsFor reasons) :
    (checking check next).FailsFor reasons := by
  unfold checking
  split
  · exact hnext _
  · exact only_error.mpr (h _ rfl)

/-- What the store does not take is no refusal, so a run is refused as its call is. -/
theorem FailsFor.run {call : Call α} (h : call.FailsFor reasons) (store : Store) :
    OnlyFor reasons (call.run store).1 := by
  have hstorage (e : StorageError) : OnlyFor reasons (.error (.storage e) : Except Failure α) :=
    only_error.mpr (isFor_of_reason?_eq_none rfl)
  induction call generalizing store with
  | done result => exact h
  | ofMerchant merchant next ih => exact ih _ (h _) store
  | holdings address next ih => exact ih _ (h _) store
  | find id next ih =>
    unfold Call.run
    split
    · exact ih _ (h _) store
    · exact hstorage _
  | insert terms next ih =>
    unfold Call.run
    split
    · exact ih _ (h _) _
    · exact hstorage _
  | settle id settlement next ih =>
    unfold Call.run
    split
    · exact ih _ (h _) _
    · exact hstorage _
  | refund id next ih =>
    unfold Call.run
    split
    · exact ih _ (h _) _
    · exact hstorage _

end Call

/-! ## Operations -/

/-- The reasons that an operation is refused for. -/
def Operation.reasons : List Reason :=
  [.invalidFeeRate, .invalidAmount, .invalidAddress, .unknownToken, .invalidLifetime,
    .intentNotFound, .alreadyRefunded, .merchantMismatch, .insufficientAmount, .notPaid]

variable [Nesting]

theorem Fee.onlyFor_rate (bps : Value) : OnlyFor Operation.reasons (rate bps) := by
  unfold rate
  split
  · split
    · exact only_ok _
    · exact only_error.mpr (isFor_plain (by decide) _)
  · exact onlyFor_shown_bind (by decide) _ _ _

theorem Fee.onlyFor_grossAmount (gross : Value) :
    OnlyFor Operation.reasons (grossAmount gross) := by
  unfold grossAmount
  split
  · split
    · exact only_ok _
    · exact onlyFor_shown_bind (by decide) _ _ _
  · exact onlyFor_shown_bind (by decide) _ _ _

theorem Address.onlyFor_normalize (field : String) (value : Value) :
    OnlyFor Operation.reasons (normalize field value) := by
  unfold normalize
  split
  · split
    · exact only_ok _
    · exact only_error.mpr (isFor_worded (by decide) _ _)
  · exact onlyFor_shown_bind (by decide) _ _ _

namespace Operation

theorem onlyFor_checkToken (policy : Policy) (token : Value) :
    OnlyFor reasons (checkToken policy token) := by
  unfold checkToken
  dsimp only
  split
  · split
    · exact only_ok _
    · exact onlyFor_shown_bind (by decide) _ _ _
  · exact onlyFor_shown_bind (by decide) _ _ _

theorem onlyFor_checkLifetime (lifetime : Value) : OnlyFor reasons (checkLifetime lifetime) := by
  unfold checkLifetime
  dsimp only
  split
  · split
    · exact only_ok _
    · exact onlyFor_shown_bind (by decide) _ _ _
  · exact onlyFor_shown_bind (by decide) _ _ _

theorem onlyFor_checkConfirmed (amount : Value) : OnlyFor reasons (checkConfirmed amount) := by
  unfold checkConfirmed
  dsimp only
  split
  · split
    · exact only_ok _
    · exact onlyFor_shown_bind (by decide) _ _ _
  · exact onlyFor_shown_bind (by decide) _ _ _

theorem onlyFor_terms (policy : Policy) (merchant gross token feeBps lifetime : Value) (now : Int) :
    OnlyFor reasons (terms policy merchant gross token feeBps lifetime now) := by
  unfold terms
  refine only_bind.mpr ⟨Fee.onlyFor_rate _, fun bps _ => ?_⟩
  refine only_bind.mpr ⟨Fee.onlyFor_grossAmount gross, fun amount _ => ?_⟩
  refine only_bind.mpr ⟨Address.onlyFor_normalize "merchant" merchant, fun address _ => ?_⟩
  refine only_bind.mpr ⟨onlyFor_checkToken policy token, fun asset _ => ?_⟩
  exact only_bind.mpr ⟨onlyFor_checkLifetime _, fun seconds _ => only_ok _⟩

theorem onlyFor_recipient (recipient : Option Value) :
    OnlyFor reasons (recipient.mapM (Address.normalize "recipient")) := by
  cases recipient with
  | none => exact only_ok _
  | some v =>
    exact only_bind.mpr ⟨Address.onlyFor_normalize "recipient" v, fun _ _ => only_ok _⟩

omit [Nesting] in
theorem isFor_of_settleRefusal? {intent : Intent} {recipient : Option String}
    {confirmed : Option Int} {failure : Failure}
    (h : settleRefusal? intent recipient confirmed = some failure) : failure.IsFor reasons := by
  unfold settleRefusal? at h
  dsimp only at h
  split at h
  · cases h
    exact isFor_plain (by decide) _
  · split at h
    · cases h
      exact isFor_plain (by decide) _
    · obtain ⟨amount, _, rfl⟩ := Option.map_eq_some_iff.mp h
      exact isFor_worded (by decide) _ _

omit [Nesting] in
theorem failsFor_load (id : Int) {next : Intent → Call Outcome}
    (h : ∀ intent, (next intent).FailsFor reasons) : (load id next).FailsFor reasons := by
  have hmissing : (Call.fail (notFound id) : Call Outcome).FailsFor reasons :=
    Call.failsFor_fail (isFor_plain (by decide) _)
  unfold load
  split
  · exact hmissing
  · rintro (_ | intent)
    · exact hmissing
    · exact h intent

omit [Nesting] in
theorem failsFor_showing (id : Int) (now : Int) :
    (load id fun intent => showing intent now).FailsFor reasons :=
  failsFor_load id fun _ => Call.failsFor_answer _

theorem failsFor_settling (id now : Int) (remittance : Remittance) (recipient : Option Value) :
    (settling id now remittance recipient).FailsFor reasons := by
  refine Call.failsFor_checking (onlyFor_recipient recipient) fun recipient => ?_
  refine failsFor_load id fun intent => ?_
  unfold settlingRead
  split
  · exact Call.failsFor_answer _
  · split
    · rename_i hrefusal
      exact Call.failsFor_fail (isFor_of_settleRefusal? hrefusal)
    · refine fun effective => failsFor_load id fun intent => ?_
      split
      · exact Call.failsFor_fail (isFor_plain (by decide) _)
      · exact Call.failsFor_answer _

omit [Nesting] in
theorem failsFor_refunding (id now : Int) : (refunding id now).FailsFor reasons := by
  refine failsFor_load id fun intent => ?_
  unfold refundingRead
  split
  · exact Call.failsFor_fail (isFor_plain (by decide) _)
  · split
    · exact Call.failsFor_answer _
    · exact fun _ => failsFor_showing id now

theorem failsFor_correlating (payment : Payment) (now : Int) :
    (correlating payment now).FailsFor reasons := by
  unfold correlating
  split
  · exact Call.failsFor_answer _
  · refine Call.failsFor_checking (onlyFor_checkConfirmed _) fun amount => ?_
    refine Call.failsFor_checking (Address.onlyFor_normalize _ _) fun payer => ?_
    exact failsFor_settling _ _ _ _

/-- The call of an operation is refused for one of the reasons. -/
theorem failsFor_call (policy : Policy) (clock : Int) (operation : Operation) :
    (operation.call policy clock).FailsFor reasons := by
  cases operation with
  | create merchant gross token feeBps lifetime now =>
    exact Call.failsFor_checking (onlyFor_terms policy _ _ _ _ _ _)
      fun _ _ => Call.failsFor_answer _
  | get id now => exact failsFor_showing id _
  | list merchant now =>
    exact Call.failsFor_checking (Address.onlyFor_normalize _ _) fun _ _ => Call.failsFor_answer _
  | markPaid payment now => exact failsFor_correlating payment _
  | pay id payer now =>
    exact Call.failsFor_checking (Address.onlyFor_normalize _ _) fun _ => failsFor_settling _ _ _ _
  | refund id now => exact failsFor_refunding _ _
  | balances address =>
    exact Call.failsFor_checking (Address.onlyFor_normalize _ _) fun _ _ => Call.failsFor_answer _

end Operation

/-- An operation of a gateway is refused for one of the reasons. -/
theorem Gateway.onlyFor_perform (operation : Operation) (gateway : Gateway) :
    OnlyFor Operation.reasons (perform operation gateway).1 :=
  (operation.failsFor_call gateway.policy gateway.now).run gateway.store

end IntentGateway
