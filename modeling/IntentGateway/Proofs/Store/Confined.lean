import IntentGateway.Proofs.Store.Effect

/-! # Calls about one row

A call whose statements all name one id can neither see nor change any other row. Said for
whatever may be done with a store: it acts on a row if the row alone decides what it gives and how
the row is changed (`Store.ActsOn`). Conditional updates do, acting on a row composes, and so, by
induction over its statements, does a call that is confined to the id (`Call.ConfinedTo.actsOn`).

What acts on different rows commutes (`Store.ActsOn.comm`): each finds its own row as if the other
had not been there, and changes of different rows can be made in either order.
-/

namespace IntentGateway

namespace Store

variable {β γ : Type} {store : Store} {id other : Int}

/-! ## Changes of rows -/

theorem amend_id (store : Store) (id : Int) : store.amend id (fun intent => intent) = store := by
  simp [amend]

/-- Two changes of a row are one. -/
theorem amend_amend {first second : Intent → Intent}
    (hid : ∀ intent, (first intent).id = intent.id) :
    (store.amend id first).amend id second =
      store.amend id fun intent => second (first intent) := by
  simp only [amend, List.map_map, Store.mk.injEq, and_true]
  refine List.map_congr_left fun intent _ => ?_
  by_cases h : (intent.id : Int) = id <;> simp [h, hid]

/-- Changes of different rows can be made in either order. -/
theorem amend_comm (h : other ≠ id) {first second : Intent → Intent}
    (hfirst : ∀ intent, (first intent).id = intent.id)
    (hsecond : ∀ intent, (second intent).id = intent.id) :
    (store.amend id first).amend other second = (store.amend other second).amend id first := by
  simp only [amend, List.map_map, Store.mk.injEq, and_true]
  refine List.map_congr_left fun intent _ => ?_
  by_cases hid : (intent.id : Int) = id
  · simp [hid, hfirst, h.symm]
  · by_cases hother : (intent.id : Int) = other <;> simp [hid, hother, hsecond, h]

/-! ## Acting on one row -/

/-- Whether what is done with a store gives a result and changes a row as that row alone decides. It
keeps the store sound. -/
def ActsOn (id : Int) (act : Store → β × Store) : Prop :=
  ∀ found : Option Intent, ∃ result change, (∀ intent, (change intent).id = intent.id)
    ∧ ∀ store : Store, store.Sound → store.lookup id = found →
      act store = (result, store.amend id change) ∧ (store.amend id change).Sound

theorem ActsOn.congr {act act' : Store → β × Store} (h : ActsOn id act)
    (heq : ∀ store, act' store = act store) : ActsOn id act' :=
  funext heq ▸ h

/-- What leaves every store as it is acts on any row. -/
theorem actsOn_of_still (id : Int) (act : Store → β × Store)
    (h : ∀ found, ∃ result, ∀ store : Store, store.lookup id = found →
      act store = (result, store)) : ActsOn id act := by
  intro found
  obtain ⟨result, hact⟩ := h found
  refine ⟨result, fun intent => intent, fun _ => rfl, fun store hs hl => ?_⟩
  rw [amend_id]
  exact ⟨hact store hl, hs⟩

/-- What acts on a row, and then acts on it again. -/
theorem ActsOn.andThen {act : Store → β × Store} {next : β → Store → γ × Store}
    (h : ActsOn id act) (hnext : ∀ result, ActsOn id (next result)) :
    ActsOn id fun store => next (act store).1 (act store).2 := by
  intro found
  obtain ⟨result, change, hid, hact⟩ := h found
  -- what follows finds the row as it has been changed
  obtain ⟨result', change', hid', hact'⟩ := hnext result (found.map change)
  refine ⟨result', fun intent => change' (change intent), fun intent => ?_, fun store hs hl => ?_⟩
  · rw [hid', hid]
  · obtain ⟨heq, hs'⟩ := hact store hs hl
    have hl' : (store.amend id change).lookup id = found.map change := by
      rw [lookup_amend hid, if_pos rfl, hl]
    show next (act store).1 (act store).2 = _ ∧ _
    rw [heq, ← amend_amend hid]
    exact hact' _ hs' hl'

/-- A conditional update acts on the row that it names. -/
theorem actsOn_updateWhere (id : Int) (condition : Intent → Bool) (change : Intent → Intent)
    (hid : ∀ intent, (change intent).id = intent.id)
    (hpaid : ∀ intent, condition intent = true → (change intent).paid = true) :
    ActsOn id fun store => store.updateWhere id condition change := by
  intro found
  by_cases hmet : ∃ intent, found = some intent ∧ condition intent = true
  · obtain ⟨intent, rfl, hc⟩ := hmet
    exact ⟨true, change, hid, fun store hs hl =>
      ⟨updateWhere_of hs hl hc, hs.amend hl hid fun _ => hpaid intent hc⟩⟩
  · refine ⟨false, fun intent => intent, fun _ => rfl, fun store hs hl => ?_⟩
    rw [amend_id]
    refine ⟨updateWhere_of_not hs fun intent hi => ?_, hs⟩
    exact Bool.eq_false_iff.mpr fun hc => hmet ⟨intent, hl ▸ hi, hc⟩

/-- What acts on different rows commutes: neither notices the other. -/
theorem ActsOn.comm {first : Store → β × Store} {second : Store → γ × Store} (hne : other ≠ id)
    (hfirst : ActsOn id first) (hsecond : ActsOn other second) (hs : store.Sound) :
    (second (first store).2).1 = (second store).1
      ∧ (first (second store).2).1 = (first store).1
      ∧ (second (first store).2).2 = (first (second store).2).2 := by
  obtain ⟨result, change, hid, hact⟩ := hfirst (store.lookup id)
  obtain ⟨result', change', hid', hact'⟩ := hsecond (store.lookup other)
  obtain ⟨heq, hs₁⟩ := hact store hs rfl
  obtain ⟨heq', hs₂⟩ := hact' store hs rfl
  have hlater := (hact' _ hs₁ (lookup_amend_of_ne hid hne)).1
  have hearlier := (hact _ hs₂ (lookup_amend_of_ne hid' hne.symm)).1
  rw [heq, heq', hlater, hearlier]
  exact ⟨rfl, rfl, amend_comm hne hid hid'⟩

end Store

namespace Call

open Store (ActsOn actsOn_of_still actsOn_updateWhere checkSettlement)

variable {α : Type} {id : Int}

/-- Whether all statements of a call name one id. -/
inductive ConfinedTo (id : Int) : Call α → Prop where
  | done (outcome : Except Failure α) : ConfinedTo id (.done outcome)
  | find {next : Option Intent → Call α} (h : ∀ found, ConfinedTo id (next found)) :
      ConfinedTo id (.find id next)
  | settle (settlement : Settlement) {next : Bool → Call α}
      (h : ∀ effective, ConfinedTo id (next effective)) : ConfinedTo id (.settle id settlement next)
  | refund {next : Bool → Call α} (h : ∀ effective, ConfinedTo id (next effective)) :
      ConfinedTo id (.refund id next)

/-- A call that is confined to an id acts on the row of that id. -/
theorem ConfinedTo.actsOn {call : Call α} (h : call.ConfinedTo id) : ActsOn id call.run := by
  induction h with
  | done outcome => exact actsOn_of_still id _ fun _ => ⟨outcome, fun _ _ => rfl⟩
  | @find next _ ih =>
    cases hfit : Store.fitsColumn id with
    | false =>
      refine actsOn_of_still id _ fun _ => ⟨.error (.storage .outOfRange), fun store _ => ?_⟩
      rw [run, Store.find_eq, hfit]
      rfl
    | true =>
      intro found
      obtain ⟨result, change, hid, hact⟩ := ih found found
      refine ⟨result, change, hid, fun store hs hl => ?_⟩
      rw [run, Store.find_eq, hfit, if_pos rfl, hl]
      exact hact store hs hl
  | @settle settlement next _ ih =>
    cases hfit : checkSettlement id settlement with
    | error e =>
      refine actsOn_of_still id _ fun _ => ⟨.error (.storage e), fun store _ => ?_⟩
      rw [run, Store.settle_of_misfit hfit]
    | ok _ =>
      have hupdate : ActsOn id fun store =>
          store.updateWhere id (fun intent => !intent.paid && !intent.refunded)
            (·.settled settlement) :=
        actsOn_updateWhere id _ _ (fun _ => rfl) fun _ _ => rfl
      refine (hupdate.andThen ih).congr fun store => ?_
      rw [run, Store.settle_of_fit hfit]
  | @refund next _ ih =>
    cases hfit : Store.fitsColumn id with
    | false =>
      refine actsOn_of_still id _ fun _ => ⟨.error (.storage .outOfRange), fun store _ => ?_⟩
      rw [run, Store.refund_of_misfit hfit]
    | true =>
      have hupdate : ActsOn id fun store =>
          store.updateWhere id (fun intent => intent.paid && !intent.refunded) Intent.withRefund :=
        actsOn_updateWhere id _ _ (fun _ => rfl) fun _ hc => (Bool.and_eq_true_iff.mp hc).1
      refine (hupdate.andThen ih).congr fun store => ?_
      rw [run, Store.refund_of_fit hfit]

end Call

end IntentGateway
