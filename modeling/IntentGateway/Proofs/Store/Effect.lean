import IntentGateway.Proofs.Store.Lookup
import IntentGateway.Store.Call

/-! # What statements do to the store

Every statement of a call has one of four effects: none, a new row at the end, a settlement recorded
on an unpaid row, or a refund recorded on a paid one. Those who maintain the balances add to them.
All that holds of every run of every call is derived from this list.
-/

namespace IntentGateway

namespace Store

/-! ## The statements -/

/-- Whether a settlement of an intent fits its columns. This does not depend on the rows. -/
def checkSettlement (id : Int) (settlement : Settlement) : Except StorageError Unit :=
  checkColumns [settlement.amount] ([id, settlement.paidAt] ++ settlement.blockNumber.toList)

theorem settle_of_misfit {id : Int} {settlement : Settlement} {e : StorageError}
    (h : checkSettlement id settlement = .error e) (store : Store) :
    store.settle id settlement = .error e := by
  rw [checkSettlement] at h
  rw [settle, h]
  rfl

theorem settle_of_fit {id : Int} {settlement : Settlement}
    (h : checkSettlement id settlement = .ok ()) (store : Store) :
    store.settle id settlement = .ok (store.updateWhere id
      (fun intent => !intent.paid && !intent.refunded) (·.settled settlement)) := by
  rw [checkSettlement] at h
  rw [settle, h]
  rfl

/-- An unpaid intent is settled. -/
theorem Sound.settle_of_unpaid {store : Store} (hs : store.Sound) {id : Int} {intent : Intent}
    {settlement : Settlement} (hfit : checkSettlement id settlement = .ok ())
    (h : store.lookup id = some intent) (hp : intent.paid = false) :
    store.settle id settlement = .ok (true, store.amend id (·.settled settlement)) := by
  have hr := hs.refunded_of_lookup h hp
  rw [settle_of_fit hfit, updateWhere_of hs h (by simp [hp, hr])]

/-- Settling anything but an unpaid intent changes nothing. -/
theorem Sound.settle_of_paid {store : Store} (hs : store.Sound) {id : Int}
    {settlement : Settlement} (hfit : checkSettlement id settlement = .ok ())
    (h : ∀ intent, store.lookup id = some intent → intent.paid = true) :
    store.settle id settlement = .ok (false, store) := by
  rw [settle_of_fit hfit, updateWhere_of_not hs fun intent hi => by simp [h intent hi]]

theorem refund_of_misfit {id : Int} (h : fitsColumn id = false) (store : Store) :
    store.refund id = .error .outOfRange := by
  simp [refund, checkColumns, h, bind, Except.bind]

theorem refund_of_fit {id : Int} (h : fitsColumn id = true) (store : Store) :
    store.refund id = .ok (store.updateWhere id
      (fun intent => intent.paid && !intent.refunded) Intent.withRefund) := by
  simp only [refund, checkColumns, List.all_nil, List.all_cons, h]
  rfl

/-- A paid intent that has not been refunded is. -/
theorem Sound.refund_of_unrefunded {store : Store} (hs : store.Sound) {id : Int} {intent : Intent}
    (h : store.lookup id = some intent) (hp : intent.paid = true) (hr : intent.refunded = false) :
    store.refund id = .ok (true, store.amend id Intent.withRefund) := by
  rw [refund_of_fit (hs.id_fits h).2, updateWhere_of hs h (by simp [hp, hr])]

/-- Refunding anything else changes nothing. -/
theorem Sound.refund_of_refunded {store : Store} (hs : store.Sound) {id : Int}
    (hfit : fitsColumn id = true)
    (h : ∀ intent, store.lookup id = some intent → intent.paid = true → intent.refunded = true) :
    store.refund id = .ok (false, store) := by
  rw [refund_of_fit hfit, updateWhere_of_not hs]
  intro intent hi
  cases hp : intent.paid <;> simp [h intent hi, hp]

/-- What an insertion that succeeds has checked, and what it leaves. -/
theorem insert_eq_ok {store store' : Store} {terms : Terms} {intent : Intent}
    (h : store.insert terms = .ok (intent, store')) :
    checkColumns [terms.grossAmount, terms.feeAmount, terms.netAmount]
        [(store.nextId : Int), terms.createdAt, terms.expiry] = .ok ()
      ∧ intent = Intent.new terms store.nextId
      ∧ store' = { store with intents := store.intents ++ [intent] } := by
  rw [insert] at h
  cases hc : checkColumns [terms.grossAmount, terms.feeAmount, terms.netAmount]
      [(store.nextId : Int), terms.createdAt, terms.expiry] with
  | error e =>
    rw [hc] at h
    cases h
  | ok _ =>
    rw [hc] at h
    cases h
    exact ⟨rfl, rfl, rfl⟩

/-- Adding a balance leaves the rows of intents alone. -/
theorem intents_of_addBalance {store store' : Store} {balance : Balance}
    (h : store.addBalance balance = .ok store') : store'.intents = store.intents := by
  rw [addBalance] at h
  cases hc : checkColumns [balance.amount] [] with
  | error e =>
    rw [hc] at h
    cases h
  | ok _ =>
    rw [hc] at h
    simp only [bind, Except.bind] at h
    split at h
    · cases h
    · cases h
      rfl

/-- Columns take what has passed the check. -/
theorem checkColumns_eq_ok {amounts integers : List Int}
    (h : checkColumns amounts integers = .ok ()) :
    (∀ n ∈ amounts, Numeral.fits n = true) ∧ ∀ n ∈ integers, fitsColumn n = true := by
  rw [checkColumns] at h
  split at h
  · cases h
  · rename_i ha
    split at h
    · cases h
    · rename_i hi
      exact ⟨by simpa using ha, by simpa using hi⟩

theorem checkColumns_eq_ok_iff {amounts integers : List Int} :
    checkColumns amounts integers = .ok () ↔
      (∀ n ∈ amounts, Numeral.fits n = true) ∧ ∀ n ∈ integers, fitsColumn n = true := by
  refine ⟨checkColumns_eq_ok, fun ⟨hamounts, hintegers⟩ => ?_⟩
  rw [checkColumns, if_neg (by simpa using hamounts), if_neg (by simpa using hintegers)]

/-- The next id fits its column as long as there are ids. -/
theorem fitsColumn_nextId_iff {store : Store} :
    fitsColumn store.nextId = true ↔ (store.intents.length : Int) < maxId := by
  rw [fitsColumn, Bool.and_eq_true, decide_eq_true_iff, decide_eq_true_iff]
  simp only [nextId, maxId, columnLimit]
  omega

/-- Whether terms fit their columns. This does not depend on the rows. -/
def checkTerms (terms : Terms) : Except StorageError Unit :=
  checkColumns [terms.grossAmount, terms.feeAmount, terms.netAmount]
    [terms.createdAt, terms.expiry]

/-- Terms that fit are added under the next id as long as there are ids. -/
theorem insert_of_fit {terms : Terms} (hfit : checkTerms terms = .ok ()) (store : Store)
    (hid : (store.intents.length : Int) < maxId) :
    store.insert terms = .ok (Intent.new terms store.nextId,
      { store with intents := store.intents ++ [Intent.new terms store.nextId] }) := by
  obtain ⟨hamounts, hintegers⟩ := checkColumns_eq_ok hfit
  have hcolumns : checkColumns [terms.grossAmount, terms.feeAmount, terms.netAmount]
      [(store.nextId : Int), terms.createdAt, terms.expiry] = .ok () :=
    checkColumns_eq_ok_iff.mpr
      ⟨hamounts, List.forall_mem_cons.mpr ⟨fitsColumn_nextId_iff.mpr hid, hintegers⟩⟩
  rw [insert, hcolumns]
  rfl

/-- Nothing is added once the ids are used up, and no terms that do not fit. -/
theorem insert_of_misfit {terms : Terms} (store : Store)
    (h : checkTerms terms ≠ .ok () ∨ maxId ≤ store.intents.length) :
    ∃ e, store.insert terms = .error e := by
  cases hinsert : store.insert terms with
  | error e => exact ⟨e, rfl⟩
  | ok result =>
    obtain ⟨intent, store'⟩ := result
    obtain ⟨hcolumns, _⟩ := insert_eq_ok hinsert
    obtain ⟨hamounts, hintegers⟩ := checkColumns_eq_ok hcolumns
    obtain ⟨hid, hterms⟩ := List.forall_mem_cons.mp hintegers
    rcases h with h | h
    · exact absurd (checkColumns_eq_ok_iff.mpr ⟨hamounts, hterms⟩) h
    · have hlt := fitsColumn_nextId_iff.mp hid
      omega

/-! ## Effects -/

/-- What one statement can make of a store. -/
inductive Effect (store : Store) : Store → Prop where
  | none : Effect store store
  | insert {terms : Terms} {intent : Intent} {store' : Store}
      (h : store.insert terms = .ok (intent, store')) : Effect store store'
  | settle {id : Int} {intent : Intent} (settlement : Settlement)
      (h : store.lookup id = some intent) (hp : intent.paid = false) :
      Effect store (store.amend id (·.settled settlement))
  | refund {id : Int} {intent : Intent} (h : store.lookup id = some intent)
      (hp : intent.paid = true) (hr : intent.refunded = false) :
      Effect store (store.amend id Intent.withRefund)
  | credit {balance : Balance} {store' : Store} (h : store.addBalance balance = .ok store') :
      Effect store store'

/-- A settlement is recorded on an unpaid intent, or nowhere. -/
theorem Sound.settle_eq_ok {store store' : Store} (hs : store.Sound) {id : Int}
    {settlement : Settlement} {effective : Bool}
    (h : store.settle id settlement = .ok (effective, store')) :
    (∃ intent, store.lookup id = some intent ∧ intent.paid = false ∧ effective = true
        ∧ store' = store.amend id (·.settled settlement))
      ∨ effective = false ∧ store' = store := by
  cases hfit : checkSettlement id settlement with
  | error e =>
    rw [settle_of_misfit hfit] at h
    cases h
  | ok _ =>
    by_cases hex : ∃ intent, store.lookup id = some intent ∧ intent.paid = false
    · obtain ⟨intent, hi, hp⟩ := hex
      rw [hs.settle_of_unpaid hfit hi hp] at h
      cases h
      exact Or.inl ⟨intent, hi, hp, rfl, rfl⟩
    · rw [hs.settle_of_paid hfit fun intent hi => by
        cases hp : intent.paid with
        | true => rfl
        | false => exact absurd ⟨intent, hi, hp⟩ hex] at h
      cases h
      exact Or.inr ⟨rfl, rfl⟩

theorem Sound.effect_settle {store store' : Store} (hs : store.Sound) {id : Int}
    {settlement : Settlement} {effective : Bool}
    (h : store.settle id settlement = .ok (effective, store')) : Effect store store' := by
  rcases hs.settle_eq_ok h with ⟨intent, hi, hp, _, rfl⟩ | ⟨_, rfl⟩
  · exact .settle settlement hi hp
  · exact .none

theorem Sound.effect_refund {store store' : Store} (hs : store.Sound) {id : Int}
    {effective : Bool} (h : store.refund id = .ok (effective, store')) : Effect store store' := by
  cases hfit : fitsColumn id with
  | false =>
    rw [refund_of_misfit hfit] at h
    cases h
  | true =>
    by_cases hex : ∃ intent, store.lookup id = some intent ∧ intent.paid = true
        ∧ intent.refunded = false
    · obtain ⟨intent, hi, hp, hr⟩ := hex
      rw [hs.refund_of_unrefunded hi hp hr] at h
      cases h
      exact .refund hi hp hr
    · rw [hs.refund_of_refunded hfit fun intent hi hp => by
        cases hr : intent.refunded with
        | true => rfl
        | false => exact absurd ⟨intent, hi, hp, hr⟩ hex] at h
      cases h
      exact .none

/-- The effects keep a store sound. -/
theorem Effect.sound {store store' : Store} (h : Effect store store') (hs : store.Sound) :
    store'.Sound := by
  cases h with
  | none => exact hs
  | settle settlement hl _ => exact hs.amend hl (fun _ => rfl) fun _ => rfl
  | refund hl hp _ => exact hs.amend hl (fun _ => rfl) fun _ => hp
  | credit hb =>
    have heq := intents_of_addBalance hb
    exact ⟨heq ▸ hs.ids, heq ▸ hs.length_le, heq ▸ hs.paid_of_refunded⟩
  | insert hi =>
    obtain ⟨hc, rfl, rfl⟩ := insert_eq_ok hi
    have hid := (checkColumns_eq_ok hc).2 store.nextId (by simp)
    refine ⟨?_, ?_, ?_⟩
    · simp only [List.map_append, List.map_cons, List.map_nil, hs.ids, List.length_append,
        List.length_cons, List.length_nil, Intent.new, nextId]
      rw [List.range'_concat, Nat.one_mul, Nat.add_comm 1]
    · rw [fitsColumn, Bool.and_eq_true, decide_eq_true_iff, decide_eq_true_iff] at hid
      simp only [nextId, List.length_append, List.length_cons, List.length_nil, maxId] at hid ⊢
      omega
    · intro intent hmem hr
      rcases List.mem_append.mp hmem with hold | hnew
      · exact hs.paid_of_refunded intent hold hr
      · rw [List.mem_singleton] at hnew
        subst hnew
        exact absurd hr (by simp [Intent.new])

end Store

namespace Call

open Store (Effect)

variable {α : Type}

/-- A step of a call has one of the effects. -/
theorem effect_step {store : Store} (hs : store.Sound) (call : Call α) :
    Effect store (call.step store).2 := by
  cases call with
  | done outcome => exact .none
  | find id next =>
    rw [step]
    cases store.find id <;> exact .none
  | ofMerchant merchant next => exact .none
  | holdings address next => exact .none
  | insert terms next =>
    rw [step]
    cases h : store.insert terms with
    | error e => exact .none
    | ok result => exact .insert h
  | settle id settlement next =>
    rw [step]
    cases h : store.settle id settlement with
    | error e => exact .none
    | ok result => exact hs.effect_settle h
  | refund id next =>
    rw [step]
    cases h : store.refund id with
    | error e => exact .none
    | ok result => exact hs.effect_refund h

/-- What every effect keeps is kept by a call that runs to its end. -/
theorem run_keeps {P : Store → Prop}
    (hP : ∀ {before after : Store}, before.Sound → P before → Effect before after → P after)
    (call : Call α) {store : Store} (hs : store.Sound) (h : P store) :
    (call.run store).2.Sound ∧ P (call.run store).2 := by
  induction call generalizing store with
  | done outcome => exact ⟨hs, h⟩
  | ofMerchant merchant next ih => exact ih _ hs h
  | holdings address next ih => exact ih _ hs h
  | find id next ih =>
    rw [run]
    cases store.find id with
    | error e => exact ⟨hs, h⟩
    | ok found => exact ih found hs h
  | insert terms next ih =>
    rw [run]
    cases hi : store.insert terms with
    | error e => exact ⟨hs, h⟩
    | ok result =>
      have heffect : Effect store result.2 := .insert hi
      exact ih result.1 (heffect.sound hs) (hP hs h heffect)
  | settle id settlement next ih =>
    rw [run]
    cases hi : store.settle id settlement with
    | error e => exact ⟨hs, h⟩
    | ok result =>
      have heffect : Effect store result.2 := hs.effect_settle hi
      exact ih result.1 (heffect.sound hs) (hP hs h heffect)
  | refund id next ih =>
    rw [run]
    cases hi : store.refund id with
    | error e => exact ⟨hs, h⟩
    | ok result =>
      have heffect : Effect store result.2 := hs.effect_refund hi
      exact ih result.1 (heffect.sound hs) (hP hs h heffect)

/-- Running a call to its end is taking its next step and running what follows. -/
theorem run_step (call : Call α) (store : Store) :
    (call.step store).1.run (call.step store).2 = call.run store := by
  cases call with
  | done outcome => rfl
  | find id next =>
    simp only [step, run]
    cases store.find id <;> rfl
  | ofMerchant merchant next => rfl
  | holdings address next => rfl
  | insert terms next =>
    simp only [step, run]
    cases store.insert terms <;> rfl
  | settle id settlement next =>
    simp only [step, run]
    cases store.settle id settlement <;> rfl
  | refund id next =>
    simp only [step, run]
    cases store.refund id <;> rfl

/-- What a call comes to that ends with its next step. -/
theorem run_of_step {call : Call α} {store store' : Store} {result : Except Failure α}
    (h : call.step store = (.done result, store')) : call.run store = (result, store') := by
  rw [← run_step, h]
  rfl

end Call

end IntentGateway
