import IntentGateway.Proofs.Store.Effect

/-! # How rows evolve

The terms of an intent are fixed when it is created, a settlement is recorded once, and a refund is
never taken back. A store evolves into another one if each of its rows is still there and has
evolved so; every effect of a statement is of this kind.
-/

namespace IntentGateway

/-- What an intent can become. -/
structure Intent.Evolves (earlier later : Intent) : Prop where
  terms : later.toTerms = earlier.toTerms
  id : later.id = earlier.id
  payment : earlier.paid = true → later.toPaymentColumns = earlier.toPaymentColumns
  refunded : earlier.refunded = true → later.refunded = true

namespace Intent.Evolves

variable {first second third : Intent}

theorem refl (intent : Intent) : intent.Evolves intent :=
  ⟨rfl, rfl, fun _ => rfl, fun h => h⟩

/-- A paid intent stays paid. -/
theorem paid (h : first.Evolves second) (hp : first.paid = true) : second.paid = true :=
  (congrArg PaymentColumns.paid (h.payment hp)).trans hp

theorem trans (h : first.Evolves second) (h' : second.Evolves third) : first.Evolves third :=
  ⟨h'.terms.trans h.terms, h'.id.trans h.id,
    fun hp => (h'.payment (h.paid hp)).trans (h.payment hp),
    fun hr => h'.refunded (h.refunded hr)⟩

theorem merchant (h : first.Evolves second) : second.merchant = first.merchant := by
  rw [h.terms]

theorem grossAmount (h : first.Evolves second) : second.grossAmount = first.grossAmount := by
  rw [h.terms]

end Intent.Evolves

namespace Store

/-- Each row of the earlier store is still in the later one, as it has evolved. -/
def Evolves (earlier later : Store) : Prop :=
  ∀ id intent, earlier.lookup id = some intent →
    ∃ intent', later.lookup id = some intent' ∧ intent.Evolves intent'

theorem Evolves.refl (store : Store) : store.Evolves store :=
  fun _ intent h => ⟨intent, h, .refl intent⟩

theorem Evolves.trans {first second third : Store} (h : first.Evolves second)
    (h' : second.Evolves third) : first.Evolves third := by
  intro id intent hi
  obtain ⟨intent', hi', he⟩ := h id intent hi
  obtain ⟨intent'', hi'', he'⟩ := h' id intent' hi'
  exact ⟨intent'', hi'', he.trans he'⟩

/-- A row that evolves makes its store evolve. -/
theorem evolves_amend {store : Store} {id : Int} {change : Intent → Intent}
    (hid : ∀ intent, (change intent).id = intent.id)
    (h : ∀ intent, store.lookup id = some intent → intent.Evolves (change intent)) :
    store.Evolves (store.amend id change) := by
  intro other intent hi
  rw [lookup_amend hid]
  by_cases ho : other = id
  · subst ho
    rw [if_pos rfl, hi]
    exact ⟨change intent, rfl, h intent hi⟩
  · rw [if_neg ho]
    exact ⟨intent, hi, .refl intent⟩

/-- A new row hides no row that is there. -/
theorem lookup_append {store : Store} {id : Int} {intent : Intent}
    (h : store.lookup id = some intent) (more : List Intent) :
    { store with intents := store.intents ++ more }.lookup id = some intent := by
  rw [lookup, intentWith?, List.find?_append]
  rw [lookup, intentWith?] at h
  rw [h]
  rfl

/-- Every effect of a statement makes its store evolve. -/
theorem Effect.evolves {before after : Store} (h : Effect before after) :
    before.Evolves after := by
  cases h with
  | none => exact .refl before
  | insert hi =>
    obtain ⟨_, _, rfl⟩ := insert_eq_ok hi
    exact fun _ intent hl => ⟨intent, lookup_append hl _, .refl intent⟩
  | settle settlement hl hp =>
    refine evolves_amend (fun _ => rfl) fun intent hi => ⟨rfl, rfl, fun hpaid => ?_, fun hr => hr⟩
    -- the row was unpaid, so no settlement is lost
    rw [hl, Option.some.injEq] at hi
    rw [← hi, hp] at hpaid
    cases hpaid
  | refund _ _ _ =>
    exact evolves_amend (fun _ => rfl) fun intent _ => ⟨rfl, rfl, fun _ => rfl, fun _ => rfl⟩
  | credit hb =>
    intro id intent hl
    refine ⟨intent, ?_, .refl intent⟩
    rw [lookup, intents_of_addBalance hb]
    exact hl

end Store

end IntentGateway
