import IntentGateway.Proofs.Gateway.Errand
import IntentGateway.Proofs.Store.Race

/-! # The phases of an errand in a race

An errand reads its intent, updates it, and reads it again; other calls may update the intent in
between. There is one step of the errand at which it could as well be run as a whole: the update, if
that has an effect; the last reading, if another call has settled the intent first; and the first
reading, if the errand ends there or its settlement fits no column. A phase says how far the errand
has come, and what it relies on in the store. Other calls do not disturb a phase, since rows only
evolve.
-/

namespace IntentGateway

/-- Two ways for a call to end that a caller takes for the same: with the same result, or with views
that differ in what has happened since. -/
inductive EndsAlike : Except Failure Outcome → Except Failure Outcome → Prop where
  | same (result : Except Failure Outcome) : EndsAlike result result
  | views (view view' : View) : EndsAlike (.ok (.view view)) (.ok (.view view'))

namespace Operation

open Store (checkSettlement)

/-- Whether an errand is to refund. -/
def Errand.refunds : Errand → Bool
  | .settle .. => false
  | .refund .. => true

/-- An outcome shows the row of an errand as it has been after it was paid, and for a refund after
it was refunded. -/
def Errand.Shows (errand : Errand) (store : Store) (outcome : Outcome) : Prop :=
  ∃ shown now row, outcome = .view (.ofIntent shown now) ∧ store.lookup errand.id = some row
    ∧ shown.Evolves row ∧ shown.paid = true ∧ (errand.refunds = true → shown.refunded = true)

/-- How far the call of an errand has come, and what the call that is run as a whole in its place
has come to. -/
inductive Phase (store : Store) : Errand → Call Outcome → Call Outcome → Prop where
  /-- The intent has not been read. -/
  | unread (errand : Errand) (h : errand.id ≤ Store.maxId) :
      Phase store errand errand.call errand.call
  /-- The intent was open when it was read. -/
  | settling {id now : Int} {remittance : Remittance} {recipient : Option String} {intent : Intent}
      (h : store.lookup id = some intent)
      (hallow : intent.toTerms.Allow recipient remittance.confirmed)
      (hc : checkSettlement id (remittance.settlementOf intent.grossAmount) = .ok ()) :
      Phase store (.settle id now remittance recipient)
        (.settle id (remittance.settlementOf intent.grossAmount) (afterSettling id now))
        (Errand.call (.settle id now remittance recipient))
  /-- The settlement fits no column. -/
  | misfit {id now : Int} {remittance : Remittance} {recipient : Option String} {gross : Int}
      {e : StorageError} (hc : checkSettlement id (remittance.settlementOf gross) = .error e) :
      Phase store (.settle id now remittance recipient)
        (.settle id (remittance.settlementOf gross) (afterSettling id now))
        (.done (.error (.storage e)))
  /-- Another call has settled the intent first. -/
  | overtaken {id now : Int} {remittance : Remittance} {recipient : Option String}
      {intent : Intent} (h : store.lookup id = some intent) (hp : intent.paid = true) :
      Phase store (.settle id now remittance recipient) (afterSettling id now false)
        (Errand.call (.settle id now remittance recipient))
  /-- The intent has been settled. -/
  | settled {id now : Int} {remittance : Remittance} {recipient : Option String} {intent : Intent}
      (h : store.lookup id = some intent) (hp : intent.paid = true) (view : View) :
      Phase store (.settle id now remittance recipient) (afterSettling id now true)
        (.done (.ok (.view view)))
  /-- The intent was paid and not refunded when it was read. -/
  | refunding {id now : Int} {intent : Intent} (h : store.lookup id = some intent)
      (hp : intent.paid = true) :
      Phase store (.refund id now) (.refund id fun _ => load id fun intent => showing intent now)
        (Errand.call (.refund id now))
  /-- The intent has been refunded, by this call or another one. -/
  | refunded {id now : Int} {intent : Intent} (h : store.lookup id = some intent)
      (hp : intent.paid = true) (hr : intent.refunded = true) (view : View) :
      Phase store (.refund id now) (load id fun intent => showing intent now)
        (.done (.ok (.view view)))
  /-- The call has ended. -/
  | ended {errand : Errand} {result result' : Except Failure Outcome} (h : EndsAlike result result')
      (hshows : ∀ outcome, result = .ok outcome → errand.Shows store outcome) :
      Phase store errand (.done result) (.done result')

/-! ## Other calls -/

/-- What has been shown stays true while rows evolve. -/
theorem Errand.Shows.stable {errand : Errand} {store store' : Store} {outcome : Outcome}
    (h : errand.Shows store outcome) (he : store.Evolves store') : errand.Shows store' outcome := by
  obtain ⟨shown, now, row, houtcome, hl, hrow, hp, hr⟩ := h
  obtain ⟨row', hl', hrow'⟩ := he errand.id row hl
  exact ⟨shown, now, row', houtcome, hl', hrow.trans hrow', hp, hr⟩

/-- Other calls do not disturb a phase. -/
theorem Phase.stable {errand : Errand} {store store' : Store} {call serial : Call Outcome}
    (h : Phase store errand call serial) (he : store.Evolves store') :
    Phase store' errand call serial := by
  -- a phase relies on the terms and the flags of one row, and on nothing else
  cases h with
  | unread _ hid => exact .unread errand hid
  | settling hl hallow hc =>
    obtain ⟨later, hl', hlater⟩ := he _ _ hl
    rw [← hlater.grossAmount] at hc ⊢
    exact .settling hl' (hlater.terms ▸ hallow) hc
  | misfit hc => exact .misfit hc
  | overtaken hl hp =>
    obtain ⟨later, hl', hlater⟩ := he _ _ hl
    exact .overtaken hl' (hlater.paid hp)
  | settled hl hp view =>
    obtain ⟨later, hl', hlater⟩ := he _ _ hl
    exact .settled hl' (hlater.paid hp) view
  | refunding hl hp =>
    obtain ⟨later, hl', hlater⟩ := he _ _ hl
    exact .refunding hl' (hlater.paid hp)
  | refunded hl hp hr view =>
    obtain ⟨later, hl', hlater⟩ := he _ _ hl
    exact .refunded hl' (hlater.paid hp) (hlater.refunded hr) view
  | ended hends hshows =>
    exact .ended hends fun outcome houtcome => (hshows outcome houtcome).stable he

/-! ## The steps of an errand -/

section Steps

variable {store : Store} (hs : store.Sound) {id : Int} {intent : Intent}

theorem outcome?_load (h : id ≤ Store.maxId) (next : Intent → Call Outcome) :
    (load id next).outcome? = none := by
  rw [load, if_neg (Int.not_lt.mpr h)]
  rfl

/-- A call that ends with a failure shows nothing. -/
theorem Phase.failed (errand : Errand) (failure : Failure) :
    Phase store errand (.done (.error failure)) (.done (.error failure)) :=
  .ended (.same _) fun _ h => nomatch h

include hs

variable {now : Int} {remittance : Remittance} {recipient : Option String}

/-- The first reading of an errand that is to settle. -/
theorem matched_unread_settle (hid : id ≤ Store.maxId) :
    Race.Matched (fun store => Phase store (.settle id now remittance recipient)) store
      (Errand.call (.settle id now remittance recipient))
      (Errand.call (.settle id now remittance recipient)) := by
  have hopen := outcome?_load hid (settlingRead id now remittance recipient)
  cases hl : store.lookup id with
  | none =>
    obtain ⟨failure, hstep⟩ :=
      step_load_of_missing hl (settlingRead id now remittance recipient)
    exact .run hopen hstep (Call.run_of_step hstep) (.failed _ failure)
  | some intent =>
    have hstep := step_load_of_found hs hl (settlingRead id now remittance recipient)
    rcases settlingRead_cases now remittance recipient id intent with
      ⟨hp, _, hread⟩ | ⟨failure, hread⟩ | ⟨hp, hf⟩
    · rw [hread] at hstep
      refine .run hopen hstep (Call.run_of_step hstep) (.ended (.same _) ?_)
      rintro _ ⟨⟩
      exact ⟨intent, now, intent, rfl, hl, .refl intent, hp, nofun⟩
    · rw [hread] at hstep
      exact .run hopen hstep (Call.run_of_step hstep) (.failed _ failure)
    · rw [settlingRead_of_unpaid now remittance recipient hp hf] at hstep
      cases hc : checkSettlement id (remittance.settlementOf intent.grossAmount) with
      | error e =>
        -- at its update this call fails whatever the row is then, so it is run now, while a call
        -- run as a whole would fail too
        refine .run hopen hstep ?_ (.misfit hc)
        rw [Errand.call, Errand.id, Errand.read, run_load_of_found hs hl]
        exact run_settlingRead_of_misfit now remittance recipient hp hf hc
      | ok _ => exact .still hstep (.settling hl (settleRefusal?_eq_none_iff.mp hf).2 hc)

/-- The update of an errand that is to settle. -/
theorem matched_settling (hl : store.lookup id = some intent)
    (hallow : intent.toTerms.Allow recipient remittance.confirmed)
    (hc : checkSettlement id (remittance.settlementOf intent.grossAmount) = .ok ()) :
    Race.Matched (fun store => Phase store (.settle id now remittance recipient)) store
      (.settle id (remittance.settlementOf intent.grossAmount) (afterSettling id now))
      (Errand.call (.settle id now remittance recipient)) := by
  cases hp : intent.paid with
  | true =>
    -- another call came first: what this one ends with is decided when it reads again
    have hsettle := hs.settle_of_paid hc fun row hrow => by
      rw [hl, Option.some.injEq] at hrow
      rw [← hrow, hp]
    refine .still ?_ (.overtaken hl hp)
    rw [Call.step, hsettle]
    rfl
  | false =>
    -- the row has not been paid since it was read, and the terms that were checked have stayed
    have hf := settleRefusal?_eq_none_iff.mpr ⟨hs.refunded_of_lookup hl hp, hallow⟩
    have hrun := run_settlingRead_of_open hs now remittance recipient hl hp hf hc
    rw [← run_load_of_found hs hl] at hrun
    refine .run (outcome?_load (hs.id_fits hl).1 _) ?_ hrun
      (.settled (Store.lookup_settled hl _) rfl _)
    rw [Call.step, hs.settle_of_unpaid hc hl hp]
    rfl

/-- The second reading of an errand that has settled nothing. -/
theorem matched_overtaken (hl : store.lookup id = some intent) (hp : intent.paid = true) :
    Race.Matched (fun store => Phase store (.settle id now remittance recipient)) store
      (afterSettling id now false) (Errand.call (.settle id now remittance recipient)) := by
  have hopen := outcome?_load (hs.id_fits hl).1 (settlingRead id now remittance recipient)
  have hrun := run_load_of_found hs hl (settlingRead id now remittance recipient)
  have hstep : (afterSettling id now false).step store = _ := step_load_of_found hs hl _
  cases hr : intent.refunded with
  | false =>
    rw [settlingRead_of_paid now remittance recipient hp hr] at hrun
    rw [hr] at hstep
    refine .run hopen hstep hrun (.ended (.same _) ?_)
    rintro _ ⟨⟩
    exact ⟨intent, now, intent, rfl, hl, .refl intent, hp, nofun⟩
  | true =>
    -- the refund is checked before the terms, so the refusal is the same in both calls
    have hf : settleRefusal? intent recipient remittance.confirmed
        = some (.plain .alreadyRefunded [("id", .int id)]) := by
      rw [settleRefusal?, if_pos hr, Store.id_of_lookup hl]
    rw [settlingRead_of_refusal now remittance recipient (Or.inr hr) hf] at hrun
    rw [hr] at hstep
    exact .run hopen hstep hrun (.failed _ _)

/-- The second reading of an errand that has settled its intent. -/
theorem matched_settled (hl : store.lookup id = some intent) (hp : intent.paid = true)
    (view : View) :
    Race.Matched (fun store => Phase store (.settle id now remittance recipient)) store
      (afterSettling id now true) (.done (.ok (.view view))) := by
  have hstep : (afterSettling id now true).step store = _ := step_load_of_found hs hl _
  refine .still hstep (.ended (.views _ view) ?_)
  rintro _ ⟨⟩
  exact ⟨intent, now, intent, rfl, hl, .refl intent, hp, nofun⟩

omit remittance recipient

/-- The first reading of an errand that is to refund. -/
theorem matched_unread_refund (hid : id ≤ Store.maxId) :
    Race.Matched (fun store => Phase store (.refund id now)) store
      (Errand.call (.refund id now)) (Errand.call (.refund id now)) := by
  have hopen := outcome?_load hid (refundingRead id now)
  cases hl : store.lookup id with
  | none =>
    obtain ⟨failure, hstep⟩ := step_load_of_missing hl (refundingRead id now)
    exact .run hopen hstep (Call.run_of_step hstep) (.failed _ failure)
  | some intent =>
    have hstep := step_load_of_found hs hl (refundingRead id now)
    cases hp : intent.paid with
    | false =>
      rw [refundingRead_of_unpaid now hp] at hstep
      exact .run hopen hstep (Call.run_of_step hstep) (.failed _ _)
    | true =>
      cases hr : intent.refunded with
      | true =>
        rw [refundingRead_of_refunded now hp hr] at hstep
        refine .run hopen hstep (Call.run_of_step hstep) (.ended (.same _) ?_)
        rintro _ ⟨⟩
        exact ⟨intent, now, intent, rfl, hl, .refl intent, hp, fun _ => hr⟩
      | false =>
        rw [refundingRead_of_unrefunded now hp hr] at hstep
        exact .still hstep (.refunding hl hp)

/-- The update of an errand that is to refund. -/
theorem matched_refunding (hl : store.lookup id = some intent) (hp : intent.paid = true) :
    Race.Matched (fun store => Phase store (.refund id now)) store
      (.refund id fun _ => load id fun intent => showing intent now)
      (Errand.call (.refund id now)) := by
  have hopen := outcome?_load (hs.id_fits hl).1 (refundingRead id now)
  cases hr : intent.refunded with
  | true =>
    have hrun := run_load_of_found hs hl (refundingRead id now)
    rw [refundingRead_of_refunded now hp hr] at hrun
    have hrefund := hs.refund_of_refunded (hs.id_fits hl).2 fun row hrow _ => by
      rw [hl, Option.some.injEq] at hrow
      rw [← hrow, hr]
    refine .run hopen ?_ hrun (.refunded hl hp hr _)
    rw [Call.step, hrefund]
    rfl
  | false =>
    have hrun := run_refundingRead_of_unrefunded hs now hl hp hr
    rw [← run_load_of_found hs hl] at hrun
    refine .run hopen ?_ hrun (.refunded (Store.lookup_withRefund hl) hp rfl _)
    rw [Call.step, hs.refund_of_unrefunded hl hp hr]
    rfl

/-- The second reading of an errand that is to refund. -/
theorem matched_refunded (hl : store.lookup id = some intent) (hp : intent.paid = true)
    (hr : intent.refunded = true) (view : View) :
    Race.Matched (fun store => Phase store (.refund id now)) store
      (load id fun intent => showing intent now) (.done (.ok (.view view))) := by
  have hstep := step_load_of_found hs hl fun intent => showing intent now
  refine .still hstep (.ended (.views _ view) ?_)
  rintro _ ⟨⟩
  exact ⟨intent, now, intent, rfl, hl, .refl intent, hp, fun _ => hr⟩

/-- Each step of an errand is matched. -/
theorem Phase.matched {errand : Errand} {call serial : Call Outcome}
    (h : Phase store errand call serial) (hopen : call.outcome? = none) :
    Race.Matched (fun store => Phase store errand) store call serial := by
  cases h with
  | unread _ hid =>
    cases errand with
    | settle id now remittance recipient => exact matched_unread_settle hs hid
    | refund id now => exact matched_unread_refund hs hid
  | settling hl hallow hc => exact matched_settling hs hl hallow hc
  | misfit hc =>
    refine .still ?_ (.failed _ _)
    rw [Call.step, Store.settle_of_misfit hc]
    rfl
  | overtaken hl hp => exact matched_overtaken hs hl hp
  | settled hl hp view => exact matched_settled hs hl hp view
  | refunding hl hp => exact matched_refunding hs hl hp
  | refunded hl hp hr view => exact matched_refunded hs hl hp hr view
  | ended _ _ => cases hopen

/-- An errand that has ended, ends as the call that is run in its place. -/
theorem Phase.of_ended {errand : Errand} {result : Except Failure Outcome} {serial : Call Outcome}
    (h : Phase store errand (.done result) serial) :
    ∃ result', serial = .done result' ∧ EndsAlike result result'
      ∧ ∀ outcome, result = .ok outcome → errand.Shows store outcome := by
  -- in every other phase the next step of the call is a statement
  generalize hcall : Call.done result = call at h
  have houtcome : call.outcome? = some result := by
    rw [← hcall]
    rfl
  cases h with
  | unread _ hid =>
    rw [Errand.call, outcome?_load hid] at houtcome
    cases houtcome
  | overtaken hl _ =>
    rw [afterSettling, outcome?_load (hs.id_fits hl).1] at houtcome
    cases houtcome
  | settled hl _ _ =>
    rw [afterSettling, outcome?_load (hs.id_fits hl).1] at houtcome
    cases houtcome
  | refunded hl _ _ _ =>
    rw [outcome?_load (hs.id_fits hl).1] at houtcome
    cases houtcome
  | ended hends hshows =>
    cases houtcome
    exact ⟨_, rfl, hends, hshows⟩
  | _ => cases houtcome

end Steps

end Operation

end IntentGateway
