import IntentGateway.Store.Basic
import Mathlib.Data.List.Nodup

/-! # Rows and statements of the store

What each statement of the store does, said in terms of the row that an id names. A store is *sound*
if its ids are the numbers from one on and only paid intents are refunded; there a conditional
update either changes exactly the row that is named, or nothing.
-/

namespace IntentGateway

namespace Store

/-- The intent that an id names. -/
def lookup (store : Store) (id : Int) : Option Intent :=
  intentWith? store.intents id

/-- The store with the intent of an id changed. -/
def amend (store : Store) (id : Int) (change : Intent → Intent) : Store :=
  { store with intents := store.intents.map fun intent =>
      if (intent.id : Int) = id then change intent else intent }

/-- What every store satisfies, whichever calls have used it: ids are the numbers from one on, each
fits its column, and what is refunded has been paid. -/
structure Sound (store : Store) : Prop where
  ids : store.intents.map (·.id) = List.range' 1 store.intents.length
  length_le : (store.intents.length : Int) ≤ maxId
  paid_of_refunded : ∀ intent ∈ store.intents, intent.refunded = true → intent.paid = true

theorem Sound.empty : Sound .empty :=
  ⟨rfl, by decide, by simp [Store.empty]⟩

/-! ## Looking up -/

theorem mem_of_lookup {store : Store} {id : Int} {intent : Intent}
    (h : store.lookup id = some intent) : intent ∈ store.intents :=
  List.mem_of_find?_eq_some h

theorem id_of_lookup {store : Store} {id : Int} {intent : Intent}
    (h : store.lookup id = some intent) : (intent.id : Int) = id := by
  simpa using List.find?_some h

/-- In a sound store no two rows share an id, so a row is what its id names. -/
theorem Sound.lookup_of_mem {store : Store} (hs : store.Sound) {intent : Intent}
    (h : intent ∈ store.intents) : store.lookup intent.id = some intent := by
  have hnodup : (store.intents.map (·.id)).Nodup := by
    rw [hs.ids]
    exact List.nodup_range'
  have hsome : (store.lookup intent.id).isSome := by
    rw [lookup, intentWith?, List.find?_isSome]
    exact ⟨intent, h, by simp⟩
  obtain ⟨found, hfound⟩ := Option.isSome_iff_exists.mp hsome
  have hid : found.id = intent.id := by exact_mod_cast id_of_lookup hfound
  -- the row that is found has the same id, and ids do not repeat
  rw [hfound, List.inj_on_of_nodup_map hnodup (mem_of_lookup hfound) h hid]

/-- There is one row with an id at most. -/
theorem Sound.eq_of_id {store : Store} (hs : store.Sound) {id : Int} {row intent : Intent}
    (hl : store.lookup id = some intent) (hrow : row ∈ store.intents) (hid : (row.id : Int) = id) :
    row = intent := by
  have hfound := hs.lookup_of_mem hrow
  rw [hid, hl, Option.some.injEq] at hfound
  exact hfound.symm

theorem Sound.id_mem {store : Store} (hs : store.Sound) {intent : Intent}
    (h : intent ∈ store.intents) : 1 ≤ intent.id ∧ intent.id ≤ store.intents.length := by
  have hmem : intent.id ∈ store.intents.map (·.id) := List.mem_map_of_mem h
  rw [hs.ids, List.mem_range'_1] at hmem
  omega

/-- The id of a row fits its column. -/
theorem Sound.id_fits {store : Store} (hs : store.Sound) {id : Int} {intent : Intent}
    (h : store.lookup id = some intent) : id ≤ maxId ∧ fitsColumn id = true := by
  have hid := id_of_lookup h
  have hmem := hs.id_mem (mem_of_lookup h)
  have hle := hs.length_le
  have hmax : id ≤ maxId := by omega
  refine ⟨hmax, ?_⟩
  rw [fitsColumn, Bool.and_eq_true, decide_eq_true_iff, decide_eq_true_iff]
  simp only [maxId, columnLimit] at hmax ⊢
  omega

theorem Sound.paid_of_lookup {store : Store} (hs : store.Sound) {id : Int} {intent : Intent}
    (h : store.lookup id = some intent) (hr : intent.refunded = true) : intent.paid = true :=
  hs.paid_of_refunded intent (mem_of_lookup h) hr

theorem Sound.refunded_of_lookup {store : Store} (hs : store.Sound) {id : Int} {intent : Intent}
    (h : store.lookup id = some intent) (hp : intent.paid = false) : intent.refunded = false := by
  cases hr : intent.refunded with
  | false => rfl
  | true => exact absurd (hs.paid_of_lookup h hr) (by simp [hp])

/-- Looking an id up fails only if the id fits no column. -/
theorem find_eq (store : Store) (id : Int) :
    store.find id = if fitsColumn id then .ok (store.lookup id) else .error .outOfRange := by
  cases h : fitsColumn id <;> simp [find, checkColumns, h, bind, Except.bind, lookup]

/-! ## Changing one row -/

theorem lookup_amend {store : Store} {id : Int} {change : Intent → Intent}
    (hid : ∀ intent, (change intent).id = intent.id) (other : Int) :
    (store.amend id change).lookup other
      = if other = id then (store.lookup other).map change else store.lookup other := by
  simp only [lookup, amend, intentWith?, List.find?_map]
  have hcomp : ((fun intent : Intent => decide ((intent.id : Int) = other))
        ∘ fun intent => if (intent.id : Int) = id then change intent else intent)
      = fun intent => decide ((intent.id : Int) = other) := by
    funext intent
    by_cases h : (intent.id : Int) = id <;> simp [h, hid]
  rw [hcomp]
  cases hfound : store.intents.find? fun intent => decide ((intent.id : Int) = other) with
  | none => simp
  | some found =>
    have hother : (found.id : Int) = other := by simpa using List.find?_some hfound
    by_cases h : other = id <;> simp [hother, h]

/-- A row that is changed is found as it has been changed. -/
theorem lookup_amend_self {store : Store} {id : Int} {intent : Intent}
    {change : Intent → Intent} (hid : ∀ intent, (change intent).id = intent.id)
    (h : store.lookup id = some intent) :
    (store.amend id change).lookup id = some (change intent) := by
  rw [lookup_amend hid, if_pos rfl, h]
  rfl

theorem lookup_settled {store : Store} {id : Int} {intent : Intent}
    (h : store.lookup id = some intent) (settlement : Settlement) :
    (store.amend id (·.settled settlement)).lookup id = some (intent.settled settlement) :=
  lookup_amend_self (fun _ => rfl) h

theorem lookup_withRefund {store : Store} {id : Int} {intent : Intent}
    (h : store.lookup id = some intent) :
    (store.amend id Intent.withRefund).lookup id = some intent.withRefund :=
  lookup_amend_self (fun _ => rfl) h

/-- The other rows are found as they were. -/
theorem lookup_amend_of_ne {store : Store} {id other : Int} {change : Intent → Intent}
    (hid : ∀ intent, (change intent).id = intent.id) (h : other ≠ id) :
    (store.amend id change).lookup other = store.lookup other := by
  rw [lookup_amend hid, if_neg h]

/-- A row that is found after a change is the changed one, or it was found before. -/
theorem lookup_amend_cases {store : Store} {id other : Int} {before row : Intent}
    {change : Intent → Intent} (h : (store.amend id change).lookup other = some row)
    (hbefore : store.lookup id = some before)
    (hid : ∀ intent, (change intent).id = intent.id) :
    (other = id ∧ row = change before) ∨ store.lookup other = some row := by
  by_cases ho : other = id
  · subst ho
    rw [lookup_amend_self hid hbefore, Option.some.injEq] at h
    exact Or.inl ⟨rfl, h.symm⟩
  · rw [lookup_amend_of_ne hid ho] at h
    exact Or.inr h

/-- When the row of an id is changed, any row is the changed one or was there before. -/
theorem Sound.mem_amend {store : Store} (hs : store.Sound) {id : Int} {intent after : Intent}
    {change : Intent → Intent} (hl : store.lookup id = some intent)
    (h : after ∈ (store.amend id change).intents) :
    after ∈ store.intents ∨ after = change intent := by
  obtain ⟨before, hbefore, rfl⟩ := List.mem_map.mp h
  by_cases hid : (before.id : Int) = id
  · rw [if_pos hid, hs.eq_of_id hl hbefore hid]
    exact Or.inr rfl
  · rw [if_neg hid]
    exact Or.inl hbefore

/-- A change that keeps the id, and leaves no refund without a payment, keeps a store sound. -/
theorem Sound.amend {store : Store} (hs : store.Sound) {id : Int} {change : Intent → Intent}
    {intent : Intent} (hl : store.lookup id = some intent)
    (hid : ∀ intent, (change intent).id = intent.id)
    (hpaid : (change intent).refunded = true → (change intent).paid = true) :
    (store.amend id change).Sound := by
  refine ⟨?_, ?_, ?_⟩
  · have hmap : (store.amend id change).intents.map (·.id) = store.intents.map (·.id) := by
      simp only [Store.amend, List.map_map]
      apply List.map_congr_left
      intro intent _
      by_cases h : (intent.id : Int) = id <;> simp [h, hid]
    rw [hmap, hs.ids]
    simp [Store.amend]
  · simpa [Store.amend] using hs.length_le
  · intro after hmem hr
    rcases hs.mem_amend hl hmem with hold | rfl
    · exact hs.paid_of_refunded after hold hr
    · exact hpaid hr

/-- A conditional update that meets no row changes nothing. -/
theorem updateWhere_of_not {store : Store} (hs : store.Sound) {id : Int}
    {condition : Intent → Bool} {change : Intent → Intent}
    (h : ∀ intent, store.lookup id = some intent → condition intent = false) :
    store.updateWhere id condition change = (false, store) := by
  have hrow : ∀ row ∈ store.intents, ¬ ((row.id : Int) = id ∧ condition row = true) := by
    rintro row hrow ⟨hid, hcond⟩
    rw [h row (hid ▸ hs.lookup_of_mem hrow)] at hcond
    exact absurd hcond (by simp)
  have hmap : store.intents.map (fun i =>
      if (decide ((i.id : Int) = id) && condition i) = true then change i else i)
        = store.intents := by
    conv_rhs => rw [← List.map_id store.intents]
    apply List.map_congr_left
    intro row hmem
    rw [if_neg (by simpa using hrow row hmem)]
    rfl
  have hany : (store.intents.any fun i => decide ((i.id : Int) = id) && condition i) = false := by
    rw [List.any_eq_false]
    intro row hmem
    simpa using hrow row hmem
  simp only [updateWhere, hmap, hany]

/-- A conditional update that meets the row of its id changes that row. -/
theorem updateWhere_of {store : Store} (hs : store.Sound) {id : Int} {intent : Intent}
    {condition : Intent → Bool} {change : Intent → Intent}
    (h : store.lookup id = some intent) (hc : condition intent = true) :
    store.updateWhere id condition change = (true, store.amend id change) := by
  have hmap : store.intents.map (fun i =>
      if (decide ((i.id : Int) = id) && condition i) = true then change i else i)
        = store.intents.map fun i => if (i.id : Int) = id then change i else i := by
    apply List.map_congr_left
    intro row hmem
    by_cases hid : (row.id : Int) = id
    · -- there is one row with the id, and it meets the condition
      have hrow := hs.eq_of_id h hmem hid
      simp [hrow, hc]
    · simp [hid]
  have hany : (store.intents.any fun i => decide ((i.id : Int) = id) && condition i) = true := by
    rw [List.any_eq_true]
    exact ⟨intent, mem_of_lookup h, by simp [id_of_lookup h, hc]⟩
  simp only [updateWhere, hmap, hany, Store.amend]

end Store

end IntentGateway
