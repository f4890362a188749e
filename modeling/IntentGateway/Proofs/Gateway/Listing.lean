import IntentGateway.Proofs.Address.Spelling
import IntentGateway.Proofs.Gateway.Readback
import IntentGateway.Proofs.Watcher.Scan

/-! # Listing the intents of an account

Merchants are given in any spelling, when an intent is created and when intents are listed. A run
creates intents one after the other, each with the id it gets and the merchant as it was spelled
(`Gateway.creations`). Settling and refunding keep both, so the rows that a run leaves are its
creations in their order, each under the canonical spelling of its merchant
(`Gateway.merchants_after`). A listing asks for a canonical spelling too, and thereby for an
account: it shows the intents that were created for the account, whichever way that was spelled
(`Gateway.lists_account`).
-/

namespace IntentGateway

/-! ## What a run creates -/

/-- The operation that an event performs as the gateway is asked to. -/
def Event.operation? [Nesting] : Event → Option Operation
  | .perform operation => some operation
  | .serve request => request.operation?
  | _ => none

/-- An intent that has been created: its id, and the merchant as it was spelled. -/
structure Creation where
  id : Int
  merchant : String
  deriving DecidableEq

/-- The merchant that an operation is given for a new intent. -/
def Operation.newMerchant? : Operation → Option String
  | .create (.str merchant) .. => some merchant
  | _ => none

/-- What an operation has created, by its result. -/
def Operation.creation? (operation : Operation) : Except Failure Outcome → Option Creation
  | .ok (.created id _) => operation.newMerchant?.map fun merchant => ⟨id, merchant⟩
  | _ => none

/-- What an event creates at a gateway. -/
def Event.creation? [Nesting] (gateway : Gateway) (event : Event) : Option Creation :=
  event.operation?.bind fun operation =>
    operation.creation? (Gateway.perform operation gateway).1

/-- What is created by events, one after the other. -/
def Gateway.creations [Nesting] : Gateway → List Event → List Creation
  | _, [] => []
  | gateway, event :: events =>
    (event.creation? gateway).toList ++ (event.apply gateway).creations events

/-- The id of a new intent and the canonical spelling of its merchant. -/
def Creation.registered (creation : Creation) : Int × Option String :=
  (creation.id, Address.canonical? creation.merchant)

/-! ## Rows and their merchants -/

/-- The ids of all rows with their merchants. -/
def Store.merchants (store : Store) : List (Int × Option String) :=
  store.intents.map fun row => ((row.id : Int), some row.merchant)

/-- A change that keeps ids and merchants keeps the list of both. -/
theorem Store.merchants_of_map {store store' : Store} {change : Intent → Intent}
    (h : store'.intents = store.intents.map change)
    (hchange : ∀ row, (change row).id = row.id ∧ (change row).merchant = row.merchant) :
    store'.merchants = store.merchants := by
  rw [merchants, merchants, h, List.map_map]
  refine List.map_congr_left fun row _ => ?_
  simp only [Function.comp, (hchange row).1, (hchange row).2]

theorem Store.merchants_amend (store : Store) (id : Int) (change : Intent → Intent)
    (hchange : ∀ row, (change row).id = row.id ∧ (change row).merchant = row.merchant) :
    (store.amend id change).merchants = store.merchants := by
  refine merchants_of_map rfl fun row => ?_
  split
  · exact hchange row
  · exact ⟨rfl, rfl⟩

/-- The rows of a merchant are those that are listed with it. -/
theorem Store.ids_ofMerchant (store : Store) (merchant : String) :
    (store.ofMerchant merchant).map (fun row => (row.id : Int))
      = (store.merchants.filter fun entry => entry.2 = some merchant).map (·.1) := by
  rw [ofMerchant, merchants, List.filter_map, List.map_map]
  simp [Function.comp_def]

/-- What an operation leaves is what was there, and behind it what it has created. -/
theorem Operation.Ends.merchants [Nesting] {policy : Policy} {clock : Int} {store : Store}
    {operation : Operation} {result : Except Failure Outcome × Store}
    (h : Ends policy clock store operation result) :
    result.2.merchants
      = store.merchants ++ (operation.creation? result.1).toList.map Creation.registered := by
  cases h with
  | failed failure => exact (List.append_nil _).symm
  | told outcome hnone =>
    cases outcome with
    | created id shown => cases hnone
    | _ => exact (List.append_nil _).symm
  | shown hl => exact (List.append_nil _).symm
  | created hterms hinsert =>
    obtain ⟨spelling, rfl, hcanonical⟩ :=
      Address.normalize_eq_ok_iff.mp (terms_eq_ok_iff.mp hterms).merchant
    obtain ⟨_, rfl, rfl⟩ := Store.insert_eq_ok hinsert
    have hregistered : Creation.registered ⟨store.nextId, spelling⟩
        = ((store.nextId : Int), some _) := congrArg (Prod.mk _) hcanonical
    rw [Store.merchants, List.map_append]
    exact congrArg (store.merchants ++ [·]) hregistered.symm
  | settled _ _ _ =>
    exact (store.merchants_amend _ (·.settled _) fun _ => ⟨rfl, rfl⟩).trans
      (List.append_nil _).symm
  | refunded _ _ _ _ =>
    exact (store.merchants_amend _ Intent.withRefund fun _ => ⟨rfl, rfl⟩).trans
      (List.append_nil _).symm

namespace Gateway

variable {gateway : Gateway}

theorem merchants_perform [Nesting] (hs : gateway.store.Sound) (operation : Operation) :
    (perform operation gateway).2.store.merchants
      = gateway.store.merchants
        ++ (operation.creation? (perform operation gateway).1).toList.map Creation.registered :=
  (Operation.ends_run gateway.policy gateway.now operation hs).merchants

/-- So it is with an event; the transfers that it may take in create nothing. -/
theorem merchants_apply [Nesting] (hg : gateway.Steady) (event : Event) :
    (event.apply gateway).store.merchants
      = gateway.store.merchants ++ (event.creation? gateway).toList.map Creation.registered := by
  have hsettled (rule : Intent → Option Settlement) :
      (gateway.settledBy rule).store.merchants = gateway.store.merchants ++ [] := by
    rw [List.append_nil]
    exact Store.merchants_of_map rfl fun _ => ⟨rfl, rfl⟩
  cases event with
  | tick clock => exact (List.append_nil _).symm
  | configure policy => exact (List.append_nil _).symm
  | credit balance =>
    rw [Event.apply]
    cases hb : gateway.store.addBalance balance with
    | error e => exact (List.append_nil _).symm
    | ok store =>
      refine Eq.trans ?_ (List.append_nil _).symm
      dsimp only
      rw [Store.merchants, Store.intents_of_addBalance hb, Store.merchants]
  | perform operation => exact merchants_perform hg.1 operation
  | serve request =>
    rw [Event.apply, serve_snd, Event.creation?, Event.operation?]
    cases request.operation? with
    | none => exact (List.append_nil _).symm
    | some operation => exact merchants_perform hg.1 operation
  | confirm block =>
    rw [Event.apply, confirmBlock_snd hg]
    exact hsettled _
  | poll node nextBlock connection =>
    rw [apply_poll hg]
    exact hsettled _

/-- The rows after some events are those that were there, and what the events have created. -/
theorem merchants_after [Nesting] (hg : gateway.Steady) (events : List Event) :
    (gateway.after events).store.merchants
      = gateway.store.merchants ++ (gateway.creations events).map Creation.registered := by
  induction events generalizing gateway with
  | nil => exact (List.append_nil _).symm
  | cons event events ih =>
    calc ((event.apply gateway).after events).store.merchants
        = (event.apply gateway).store.merchants
            ++ ((event.apply gateway).creations events).map Creation.registered :=
          ih (Store.kept_wellFormed.apply event hg)
      _ = gateway.store.merchants
          ++ (gateway.creations (event :: events)).map Creation.registered := by
          rw [merchants_apply hg, creations, List.map_append, List.append_assoc]

end Gateway

/-! ## Listings -/

/-- Ids ascend in the order of the rows. -/
theorem Store.Sound.pairwise_merchants {store : Store} (hs : store.Sound) :
    (store.merchants.map (·.1)).Pairwise (· < ·) := by
  have hids : store.merchants.map (·.1)
      = (List.range' 1 store.intents.length).map Int.ofNat := by
    rw [← hs.ids, merchants, List.map_map, List.map_map]
    rfl
  rw [hids, List.pairwise_map]
  exact (List.pairwise_lt_range' 1).imp Int.ofNat_lt.mpr

/-- The refusal of a merchant that is no address. -/
theorem Address.normalize_of_not_spells [Nesting] {raw : RawText}
    (h : ∀ spelling account, raw = .text spelling → ¬ Spells spelling account) (field : String) :
    normalize field (.ofRaw raw)
      = .error (.worded .invalidAddress (field ++ " is not a valid address")
        [(field, .ofRaw raw)]) := by
  have hnone : raw.text?.bind canonical? = none := by
    cases raw with
    | text spelling =>
      refine Option.not_isSome_iff_eq_none.mp fun hsome => ?_
      obtain ⟨account, hspells⟩ := canonical?_isSome_iff.mp hsome
      exact h spelling account rfl hspells
    | illFormed points => rfl
  simp only [normalize, Value.raw?_ofRaw, hnone]

namespace Gateway

/-- What events create for an account, in the order of creation. -/
def createdFor [Nesting] (gateway : Gateway) (events : List Event) (account : List ℕ) :
    List Creation :=
  (gateway.creations events).filter fun creation => Address.Spells creation.merchant account

section Run

variable (policy : Policy) (clock : Rat) (events : List Event)

/-- The rows of a run are its creations. -/
theorem merchants_run [Nesting] :
    ((fresh policy clock).after events).store.merchants
      = ((fresh policy clock).creations events).map Creation.registered :=
  merchants_after (intents_wellFormed_after policy clock []) events

/-- The rows under the canonical spelling of an account are those that the run has created for it.
-/
theorem ids_createdFor [Nesting] {spelling merchant : String} {account : List ℕ}
    (h : Address.Spells spelling account)
    (hmerchant : Address.canonical? spelling = some merchant) :
    (((fresh policy clock).after events).store.ofMerchant merchant).map (fun row => (row.id : Int))
      = ((fresh policy clock).createdFor events account).map (·.id) := by
  have hsame (creation : Creation) : creation.registered.2 = some merchant
      ↔ Address.Spells creation.merchant account := by
    rw [← hmerchant]
    exact Address.canonical?_eq_iff h creation.merchant
  rw [Store.ids_ofMerchant, merchants_run, List.filter_map, List.map_map, createdFor]
  simp only [Function.comp_def, hsame]
  rfl

/-- A listing for any spelling of an account shows exactly what the run has created for the account,
whichever way that was spelled: each intent once, by ascending ids, which is the order of creation,
and as a reader of that intent finds it at the same time. For a text that spells no account there is
a refusal. -/
theorem lists_account [Nesting] (now : Option Int) :
    let start := fresh policy clock
    let gateway := start.after events
    ((start.creations events).map (·.id)).Pairwise (· < ·)
      ∧ (∀ spelling account, Address.Spells spelling account →
        ∃ views, perform (.list (.str spelling) now) gateway = (.ok (.views views), gateway)
          ∧ views.map (·.id) = (start.createdFor events account).map (·.id)
          ∧ (views.map (·.id)).Pairwise (· < ·)
          ∧ ∀ view ∈ views, perform (.get view.id now) gateway = (.ok (.view view), gateway))
      ∧ ∀ raw : RawText,
        (∀ spelling account, raw = .text spelling → ¬ Address.Spells spelling account) →
          perform (.list (.ofRaw raw) now) gateway
            = (.error (.worded .invalidAddress "merchant is not a valid address"
              [("merchant", .ofRaw raw)]), gateway) := by
  intro start gateway
  have hs : gateway.store.Sound := sound_after policy clock events
  have hascend : ((start.creations events).map (·.id)).Pairwise (· < ·) := by
    have hids := hs.pairwise_merchants
    rwa [merchants_run policy clock events, List.map_map] at hids
  refine ⟨hascend, fun spelling account hspells => ?_, fun raw hraw => ?_⟩
  · obtain ⟨merchant, hmerchant⟩ := Option.isSome_iff_exists.mp
      (Address.canonical?_isSome_iff.mpr ⟨account, hspells⟩)
    have hids : ((gateway.store.ofMerchant merchant).map fun row =>
        View.ofIntent row (now.getD gateway.now)).map (·.id)
          = (start.createdFor events account).map (·.id) := by
      rw [List.map_map]
      exact ids_createdFor policy clock events hspells hmerchant
    refine ⟨_, perform_list (Address.normalize_of_canonical? hmerchant "merchant") now, hids,
      ?_, ?_⟩
    · rw [hids]
      exact hascend.sublist (List.filter_sublist.map _)
    · intro view hview
      obtain ⟨row, hrow, rfl⟩ := List.mem_map.mp hview
      exact perform_get hs (hs.lookup_of_mem (List.mem_of_mem_filter hrow)) now
  · rw [perform, run, call, Operation.call, Address.normalize_of_not_spells hraw]
    rfl

end Run

/-- Of three intents two are of one account, given with and without a marker, and in another case.
-/
theorem lists_account_of_three :
    let create (merchant : String) : Event :=
      .perform (.create (.str merchant) (.int 5) (.str "GORR") .null .null none)
    let events : List Event :=
      [create "  0Xabababababababababababababababababababab ",
        create "0x1111111111111111111111111111111111111111",
        create "ABABABABABABABABABABABABABABABABABABABAB\t"]
    ∃ views, perform (.list (.str "0xaBaBaBaBaBaBaBaBaBaBaBaBaBaBaBaBaBaBaBaB") none)
        ((fresh .standard 0).after events) = (.ok (.views views), (fresh .standard 0).after events)
      ∧ views.map (·.id) = [1, 3] := by
  intro create events
  have hspells : Address.Spells "0xaBaBaBaBaBaBaBaBaBaBaBaBaBaBaBaBaBaBaBaB"
      (List.replicate 20 [10, 11]).flatten := by decide +kernel
  obtain ⟨views, hlist, hids, _⟩ := (lists_account .standard 0 events none).2.1 _ _ hspells
  refine ⟨views, hlist, hids.trans ?_⟩
  decide +kernel

end Gateway

end IntentGateway
