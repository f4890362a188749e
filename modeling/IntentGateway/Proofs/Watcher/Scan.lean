import IntentGateway.Proofs.Client.Wire
import IntentGateway.Proofs.Watcher.Poll
import Mathlib.Tactic.Linarith

/-! # Which transfer settles an intent

A watcher looks at the rows that are there when it takes in a transfer, not at the times of the
block and of the intent. Each row of a run of creations and polls is as its creation has left it,
settled by the first transfer that pays it among those that have been taken in since. Ids are
foreseeable and blocks are taken in some time after theirs, or once more after a restart, so that
transfer may be older than the intent.

A block may be taken in in part, if one of its transfers fails; `Gateway.taken` keeps the part that
is taken in, so that one account holds of all blocks (`confirmBlock_snd`) and polls (`apply_poll`):
they settle each unpaid row by the first transfer in it that pays the row. The run is then followed
from its first event on (`Timely.row_cases`), and the times are compared at the end.
-/

namespace IntentGateway

open Remote (Block Transfer)

/-! ## What is taken in -/

/-- The transfers of a block that are taken in: all of them, or those before one that fails. -/
def Gateway.taken [Nesting] (block : Block) : List Transfer → Gateway → List Transfer
  | [], _ => []
  | transfer :: transfers, gateway =>
    match confirmTransfer block transfer gateway with
    | (.ok _, gateway') => transfer :: taken block transfers gateway'
    | (.error _, _) => []

/-- A block with only those of its transfers that are taken in. -/
def Gateway.scan [Nesting] (gateway : Gateway) (block : Block) : Block :=
  { block with transfers := gateway.taken block block.transfers }

/-- The blocks that a watcher takes in of those that are due, the last one perhaps in part. -/
def Watcher.scanned [Nesting] {σ τ : Type} [Seconds τ] (node : Client.Endpoint σ τ) :
    ℕ → Watcher σ → List Block
  | 0, _ => []
  | due + 1, watcher =>
    match query (Client.getBlock node (.int watcher.nextBlock) (.bool true)) watcher with
    | (.error _, _) => []
    | (.ok block, asked) =>
      asked.gateway.scan block ::
        match takeIn block asked with
        | (.error _, _) => []
        | (.ok _, next) => scanned node due next

/-- The blocks that an event takes in. -/
def Event.scanned [Nesting] (gateway : Gateway) : Event → List Block
  | .confirm block => [gateway.scan block]
  | @Event.poll _ _ _ node nextBlock connection =>
    match Watcher.query (Client.headNumber node) { nextBlock, connection, gateway } with
    | (.error _, _) => []
    | (.ok head, asked) => Watcher.scanned node (asked.blocksDue head) asked
  | _ => []

/-- The blocks that events take in, one after the other. -/
def Gateway.scanned [Nesting] : Gateway → List Event → List Block
  | _, [] => []
  | gateway, event :: events => event.scanned gateway ++ (event.apply gateway).scanned events

/-- A run of creations and polls with one clock, which does not go back: an intent is created at the
time that it shows, and no block is taken in before its own time. -/
inductive Timely [Nesting] : Gateway → List Event → Prop
  | nil (gateway : Gateway) : Timely gateway []
  | tick {gateway : Gateway} {clock : Rat} {events : List Event} (h : gateway.clock ≤ clock)
      (rest : Timely (Event.apply gateway (.tick clock)) events) :
      Timely gateway (.tick clock :: events)
  | create {gateway : Gateway} (merchant gross token feeBps lifetime : Value)
      {events : List Event}
      (rest : Timely (Event.apply gateway
        (.perform (.create merchant gross token feeBps lifetime none))) events) :
      Timely gateway (.perform (.create merchant gross token feeBps lifetime none) :: events)
  | poll {σ τ : Type} [Seconds τ] {gateway : Gateway} (node : Client.Endpoint σ τ)
      (nextBlock : Int) (connection : Connection σ) {events : List Event}
      (h : ∀ block ∈ Event.scanned gateway (.poll node nextBlock connection),
        block.timestamp ≤ gateway.now)
      (rest : Timely (Event.apply gateway (.poll node nextBlock connection)) events) :
      Timely gateway (.poll node nextBlock connection :: events)

/-! ## The effect of what is taken in -/

namespace Intent

variable {intent : Intent}

theorem firstSettlement?_append (earlier later : List Block) :
    intent.firstSettlement? (earlier ++ later)
      = (intent.firstSettlement? earlier).or (intent.firstSettlement? later) :=
  List.findSome?_append

/-- What settles an intent first is a transfer that pays it. -/
theorem exists_firstPaidBy {blocks : List Block} {settlement : Settlement}
    (h : intent.firstSettlement? blocks = some settlement) :
    ∃ block transfer, intent.FirstPaidBy blocks block transfer
      ∧ intent.settlementBy? block transfer = some settlement := by
  obtain ⟨before, block, after, rfl, hblock, hbefore⟩ := List.findSome?_eq_some_iff.mp h
  obtain ⟨earlier, transfer, later, htransfers, htransfer, hearlier⟩ :=
    List.findSome?_eq_some_iff.mp hblock
  have hnot : ∀ {block : Block} {other : Transfer}, intent.settlementBy? block other = none →
      ¬ intent.PaidBy other := by
    intro block other hnone hpays
    have hsome : (intent.settlementBy? block other).isSome = true := isSome_settlementBy?.mpr hpays
    rw [hnone] at hsome
    cases hsome
  refine ⟨block, transfer, ⟨before, after, earlier, later, rfl, htransfers, ?_, ?_, ?_⟩, htransfer⟩
  · intro other hother t ht
    exact hnot (List.findSome?_eq_none_iff.mp (hbefore other hother) t ht)
  · intro other hother
    exact hnot (hearlier other hother)
  · exact isSome_settlementBy?.mp (by rw [htransfer]; rfl)

/-- The payment is recorded with the time of the block. -/
theorem paidAt_of_settlementBy? {block : Block} {transfer : Transfer} {settlement : Settlement}
    (h : intent.settlementBy? block transfer = some settlement) :
    settlement.paidAt = block.timestamp := by
  rw [settlementBy?] at h
  split at h
  · obtain ⟨payer, _, rfl⟩ := Option.map_eq_some_iff.mp h
    rfl
  · cases h

end Intent

namespace Gateway

variable {gateway : Gateway}

/-- Transfers settle what those pay that are taken in. -/
theorem confirmTransfers_snd [Nesting] (hg : gateway.Steady) (block : Block)
    (transfers : List Transfer) :
    (confirmTransfers block transfers gateway).2 = gateway.settledBy fun intent =>
      (gateway.taken block transfers).findSome? (intent.settlementBy? block) := by
  induction transfers generalizing gateway with
  | nil => exact gateway.settledBy_none.symm
  | cons transfer transfers ih =>
    have hkept := Store.kept_wellFormed.confirmTransfer block transfer hg
    rw [confirmTransfers, taken]
    rcases confirmTransfer_cases hg.1 hg.2 block transfer with ⟨view, hrun⟩ | ⟨_, failure, hrun⟩
    · rw [hrun] at hkept ⊢
      dsimp only
      rw [Action.map_snd, ih hkept, settledBy_settledBy _ fun _ _ => rfl]
      simp only [findSome?_cons_eq_or]
    · rw [hrun]
      exact gateway.settledBy_none.symm

theorem confirmBlock_snd [Nesting] (hg : gateway.Steady) (block : Block) :
    (confirmBlock block gateway).2
      = gateway.settledBy (·.firstSettlement? [gateway.scan block]) := by
  rw [confirmBlock, confirmTransfers_snd hg]
  simp only [Intent.firstSettlement?, findSome?_cons_eq_or, List.findSome?_nil, Option.or_none]
  rfl

/-- Settling by some blocks and then by others is settling by all of them. -/
theorem settledBy_append (earlier later : List Block) :
    (gateway.settledBy (·.firstSettlement? earlier)).settledBy (·.firstSettlement? later)
      = gateway.settledBy (·.firstSettlement? (earlier ++ later)) := by
  rw [settledBy_settledBy _ fun _ _ => rfl]
  simp only [Intent.firstSettlement?_append]

end Gateway

namespace Watcher

variable {σ τ : Type} [Seconds τ]

theorem gateway_of_query {α : Type} {action : Action (Connection σ) α} {watcher asked : Watcher σ}
    {result : Except Failure α} (h : query action watcher = (result, asked)) :
    asked.gateway = watcher.gateway :=
  (congrArg (fun outcome => outcome.2.gateway) h).symm

/-- Catching up settles what the blocks pay that are taken in. -/
theorem catchUp_gateway [Nesting] (node : Client.Endpoint σ τ) (due : ℕ) {watcher : Watcher σ}
    (hg : watcher.gateway.Steady) :
    (catchUp node due watcher).2.gateway
      = watcher.gateway.settledBy (·.firstSettlement? (scanned node due watcher)) := by
  induction due generalizing watcher with
  | zero => exact watcher.gateway.settledBy_none.symm
  | succ due ih =>
    rw [catchUp, Action.andThen, scanned, step, Action.andThen]
    rcases hquery : query (Client.getBlock node (.int watcher.nextBlock) (.bool true)) watcher with
      ⟨failure | block, asked⟩
    · exact (gateway_of_query hquery).trans watcher.gateway.settledBy_none.symm
    · rw [← gateway_of_query hquery] at hg ⊢
      have hkept := Store.kept_wellFormed.takeIn block hg
      have hblock := Gateway.confirmBlock_snd hg block
      dsimp only
      rw [takeIn] at hkept ⊢
      rcases hrun : asked.gateway.confirmBlock block with ⟨failure | count, gateway⟩
      · rw [hrun] at hblock
        exact hblock
      · rw [hrun] at hblock hkept
        dsimp only at hblock hkept ⊢
        rw [Action.map_snd, ih hkept]
        dsimp only
        rw [hblock, Gateway.settledBy_append]
        rfl

end Watcher

namespace Gateway

variable {gateway : Gateway}

/-- A poll settles what the blocks pay that it takes in. -/
theorem apply_poll [Nesting] {σ τ : Type} [Seconds τ] (hg : gateway.Steady)
    (node : Client.Endpoint σ τ) (nextBlock : Int) (connection : Connection σ) :
    Event.apply gateway (.poll node nextBlock connection)
      = gateway.settledBy
          (·.firstSettlement? (Event.scanned gateway (.poll node nextBlock connection))) := by
  rw [Event.apply, Event.scanned, Watcher.poll, Action.andThen]
  rcases hquery : Watcher.query (Client.headNumber node) { nextBlock, connection, gateway } with
    ⟨failure | head, asked⟩
  · exact (Watcher.gateway_of_query hquery).trans gateway.settledBy_none.symm
  · have hasked : asked.gateway = gateway := Watcher.gateway_of_query hquery
    have hsteady : asked.gateway.Steady := by rwa [hasked]
    have hcatch := Watcher.catchUp_gateway node (asked.blocksDue head) hsteady
    rw [hasked] at hcatch
    exact hcatch

theorem after_concat [Nesting] (gateway : Gateway) (events : List Event) (event : Event) :
    gateway.after (events ++ [event]) = event.apply (gateway.after events) := by
  rw [after, List.foldl_append]
  rfl

/-! ## The clock -/

theorem now_apply_poll [Nesting] {σ τ : Type} [Seconds τ] (hg : gateway.Steady)
    (node : Client.Endpoint σ τ) (nextBlock : Int) (connection : Connection σ) :
    (Event.apply gateway (.poll node nextBlock connection)).now = gateway.now := by
  rw [apply_poll hg]
  rfl

/-- What a rational number is when its fraction is dropped, if it is not negative. -/
theorem tdiv_of_nonneg {q : ℚ} (h : 0 ≤ q) : q.num.tdiv q.den = ⌊q⌋ := by
  rw [Int.tdiv_eq_ediv_of_nonneg (Rat.num_nonneg.mpr h), ← Rat.floor_intCast_div_natCast,
    Rat.num_div_den]

/-- Dropping fractions keeps the order. -/
theorem tdiv_le_tdiv_of_le {p q : ℚ} (h : p ≤ q) : p.num.tdiv p.den ≤ q.num.tdiv q.den := by
  have hneg : ∀ r : ℚ, r.num.tdiv r.den = - (-r).num.tdiv (-r).den := by
    intro r
    rw [Rat.num_neg_eq_neg_num, Rat.den_neg_eq_den, Int.neg_tdiv, neg_neg]
  rcases le_or_gt 0 p with hp | hp
  · rw [tdiv_of_nonneg hp, tdiv_of_nonneg (hp.trans h)]
    exact Int.floor_mono h
  · rw [hneg p, tdiv_of_nonneg (by linarith : 0 ≤ -p)]
    rcases le_or_gt 0 q with hq | hq
    · rw [tdiv_of_nonneg hq]
      have hlow : 0 ≤ ⌊-p⌋ := Int.floor_nonneg.mpr (by linarith)
      have hhigh : 0 ≤ ⌊q⌋ := Int.floor_nonneg.mpr hq
      omega
    · rw [hneg q, tdiv_of_nonneg (by linarith : 0 ≤ -q)]
      exact neg_le_neg (Int.floor_mono (neg_le_neg h))

end Gateway

namespace Timely

variable {gateway : Gateway} {events : List Event}

/-- In such a run it does not get earlier. -/
theorem now_le [Nesting] (h : Timely gateway events) (hg : gateway.Steady) :
    gateway.now ≤ (gateway.after events).now := by
  induction h with
  | nil gateway => exact le_refl _
  | tick hclock rest ih => exact (Gateway.tdiv_le_tdiv_of_le hclock).trans (ih hg)
  | create _ _ _ _ _ rest ih => exact ih (Store.kept_wellFormed.apply _ hg)
  | poll node nextBlock connection _ rest ih =>
    exact (Gateway.now_apply_poll hg node nextBlock connection).ge.trans
      (ih (Store.kept_wellFormed.apply _ hg))

/-- What is left of such a run is one. -/
theorem of_append [Nesting] {earlier later : List Event} (h : Timely gateway (earlier ++ later)) :
    Timely (gateway.after earlier) later := by
  induction earlier generalizing gateway with
  | nil => exact h
  | cons event earlier ih =>
    cases h with
    | tick _ rest => exact ih rest
    | create _ _ _ _ _ rest => exact ih rest
    | poll _ _ _ _ rest => exact ih rest

/-- No block is taken in that is newer than the clock at the end. -/
theorem timestamp_le [Nesting] (h : Timely gateway events) (hg : gateway.Steady) :
    ∀ block ∈ gateway.scanned events, block.timestamp ≤ (gateway.after events).now := by
  induction h with
  | nil gateway =>
    intro block hblock
    cases hblock
  | tick _ rest ih => exact ih hg
  | create _ _ _ _ _ rest ih => exact ih (Store.kept_wellFormed.apply _ hg)
  | @poll _ _ _ gateway node nextBlock connection events htime rest ih =>
    have hkept := Store.kept_wellFormed.apply (.poll node nextBlock connection) hg
    intro block hblock
    rcases List.mem_append.mp hblock with hfirst | hlater
    · have hnow := (Gateway.now_apply_poll hg node nextBlock connection).ge.trans
        (rest.now_le hkept)
      exact (htime block hfirst).trans hnow
    · exact ih hkept block hlater

end Timely

/-! ## Where the rows of a run come from -/

/-- How a row of a run has come about: an event adds it, unpaid and at the time of the clock, and
the blocks that are taken in after that settle it. -/
structure Intent.CreatedIn [Nesting] (row : Intent) (gateway : Gateway)
    (events earlier later : List Event) (creation : Event) (created : Intent) : Prop where
  split : events = earlier ++ creation :: later
  added : (creation.apply (gateway.after earlier)).store.intents
    = (gateway.after earlier).store.intents ++ [created]
  createdAt : created.createdAt = (gateway.after earlier).now
  unpaid : created.toPaymentColumns = .unpaid
  row_eq : row = created.confirmedBy ((creation.apply (gateway.after earlier)).scanned later)

namespace Intent

theorem confirmedBy_nil (intent : Intent) : intent.confirmedBy [] = intent :=
  confirmedBy_of_not (by simp)

theorem confirmedBy_confirmedBy (intent : Intent) (earlier later : List Block) :
    (intent.confirmedBy earlier).confirmedBy later = intent.confirmedBy (earlier ++ later) := by
  rw [confirmedBy, confirmedBy, confirmedBy, firstSettlement?_append]
  exact intent.orSettled_orSettled _ _

/-- An unpaid intent has been paid then when the settlement says. -/
theorem paidAt_orSettled {intent : Intent} (h : intent.toPaymentColumns = .unpaid)
    (settlement : Option Settlement) :
    (intent.orSettled settlement).paidAt = settlement.map (·.paidAt) := by
  rw [orSettled, h]
  cases settlement <;> rfl

theorem CreatedIn.cons [Nesting] {row created : Intent} {gateway : Gateway} {event creation : Event}
    {events earlier later : List Event}
    (h : row.CreatedIn (event.apply gateway) events earlier later creation created) :
    row.CreatedIn gateway (event :: events) (event :: earlier) later creation created :=
  ⟨congrArg (event :: ·) h.split, h.added, h.createdAt, h.unpaid, h.row_eq⟩

end Intent

/-- A creation adds no row, or one that is unpaid and was made at the time of the clock. -/
theorem Gateway.apply_create [Nesting] (gateway : Gateway)
    (merchant gross token feeBps lifetime : Value) :
    let after := Event.apply gateway
      (.perform (.create merchant gross token feeBps lifetime none))
    after.store.intents = gateway.store.intents
      ∨ ∃ created, after.store.intents = gateway.store.intents ++ [created]
        ∧ created.createdAt = gateway.now ∧ created.toPaymentColumns = .unpaid := by
  intro after
  have hafter : after.store = (((Operation.create merchant gross token feeBps lifetime none).call
      gateway.policy gateway.now).run gateway.store).2 := rfl
  rcases Operation.run_create merchant gross token feeBps lifetime none gateway.policy gateway.now
    gateway.store with ⟨failure, hrun⟩ | ⟨accepted, created, store', hterms, hinsert, hrun⟩
  · rw [hafter, hrun]
    exact Or.inl rfl
  · obtain ⟨_, rfl, rfl⟩ := Store.insert_eq_ok hinsert
    rw [hafter, hrun]
    exact Or.inr ⟨_, rfl, Operation.createdAt_of_terms hterms, rfl⟩

/-- Each row of a run was there before and is settled by the blocks that are taken in, or it has
been created in the run. -/
theorem Timely.row_cases [Nesting] {gateway : Gateway} {events : List Event}
    (h : Timely gateway events) (hg : gateway.Steady) :
    ∀ row ∈ (gateway.after events).store.intents,
      (∃ origin ∈ gateway.store.intents, row = origin.confirmedBy (gateway.scanned events))
        ∨ ∃ earlier later creation created,
          row.CreatedIn gateway events earlier later creation created := by
  induction h with
  | nil gateway =>
    intro row hrow
    exact Or.inl ⟨row, hrow, row.confirmedBy_nil.symm⟩
  | tick _ rest ih =>
    intro row hrow
    rcases ih hg row hrow with hold | ⟨earlier, later, creation, created, hcreated⟩
    · exact Or.inl hold
    · exact Or.inr ⟨_, later, creation, created, hcreated.cons⟩
  | @create gateway merchant gross token feeBps lifetime events rest ih =>
    intro row hrow
    rcases ih (Store.kept_wellFormed.apply _ hg) row hrow with
      ⟨origin, horigin, hsettled⟩ | ⟨earlier, later, creation, created, hcreated⟩
    · -- what was there after the creation was there before it, or is the row that it adds
      rcases gateway.apply_create merchant gross token feeBps lifetime with
        hsame | ⟨created, hadded, htime, hunpaid⟩
      · rw [hsame] at horigin
        exact Or.inl ⟨origin, horigin, hsettled⟩
      · rw [hadded] at horigin
        rcases List.mem_append.mp horigin with hold | hnew
        · exact Or.inl ⟨origin, hold, hsettled⟩
        · obtain rfl := List.mem_singleton.mp hnew
          exact Or.inr ⟨[], events, _, origin, ⟨rfl, hadded, htime, hunpaid, hsettled⟩⟩
    · exact Or.inr ⟨_, later, creation, created, hcreated.cons⟩
  | @poll _ _ _ gateway node nextBlock connection events _ rest ih =>
    intro row hrow
    rcases ih (Store.kept_wellFormed.apply _ hg) row hrow with
      ⟨settled, hsettled, rfl⟩ | ⟨earlier, later, creation, created, hcreated⟩
    · -- the blocks of the poll come before those of the rest
      have hrows := congrArg (·.store.intents) (Gateway.apply_poll hg node nextBlock connection)
      rw [show _ = _ from hrows] at hsettled
      obtain ⟨origin, horigin, rfl⟩ := List.mem_map.mp hsettled
      exact Or.inl ⟨origin, horigin, origin.confirmedBy_confirmedBy _ _⟩
    · exact Or.inr ⟨_, later, creation, created, hcreated.cons⟩

/-! ## A node with one block -/

namespace Client

/-- A scripted reply that answers the call of an id with a result. -/
def answer [Nesting] (id : ℕ) (result : Value) : Link.ScriptedReply ℚ where
  elapsed := none
  answer _ := .ok ⟨200, Link.Wire.bytesOf (.map [("id", .int id), ("result", result)])⟩

/-- The body of an answer is read as the result of the call. -/
theorem interpret_answer [Nesting] (method : String) {id : ℕ} (hid : Numeral.fits id = true)
    {result : Value} (hresult : result.Faithful 7) :
    interpret method id (Link.Wire.bytesOf (.map [("id", .int id), ("result", result)]))
      = .ok result := by
  have hfaithful : (Value.map [("id", .int id), ("result", result)]).Faithful 8 := by
    refine .map ?_ ?_ (by simp)
    · simp only [List.forall_mem_cons]
      exact ⟨.int hid, hresult, nofun⟩
    · simp
  obtain ⟨body, hwrite, hread⟩ := Json.exists_write_of_faithful hfaithful Nesting.eight_le_read
    Nesting.eight_le_written
  have hsame : (Value.int id).equalsInt id = true := decide_eq_true rfl
  rw [Link.Wire.bytesOf, hwrite, interpret, hread]
  simp only [resultOf]
  rw [show Value.Entries.find? [("id", .int id), ("result", result)] "id" = some (.int id) from rfl,
    Option.getD_some, hsame]
  rfl

/-- The body of a request can be written if its id and its parameters can. -/
theorem writable_requestBody [Nesting] (method : String) (params : List Value) {id : ℕ}
    (hid : Numeral.fits id = true) (hparams : ∀ param ∈ params, Json.HasForm 6 param) :
    Json.Writable (requestBody method params id) := by
  have hform : Json.HasForm 8 (requestBody method params id) := by
    simp only [requestBody, Json.hasForm_map, List.forall_mem_cons]
    exact ⟨Json.entryHasForm_text (Json.hasForm_str _), Json.entryHasForm_text (Json.hasForm_str _),
      Json.entryHasForm_text (Json.hasForm_list.mpr hparams),
      Json.entryHasForm_text (Json.hasForm_int.mpr hid), nofun⟩
  exact hform.mono Nesting.eight_le_written

/-- A call that is answered with a result gives it, and no time passes. -/
theorem call_eq_of_answer [Nesting] (connection : Connection (Link.Script ℚ)) (result : Value)
    (replies : List (Link.ScriptedReply ℚ)) {method : String} {params : List Value}
    (hopen : connection.isClosed = false)
    (hreplies : connection.surroundings.replies = answer (connection.lastId + 1) result :: replies)
    (hform : Json.Writable (requestBody method params (connection.lastId + 1)))
    (hresult : result.Faithful 7) :
    call ⟨Link.Script.link, .standard 0⟩ method params connection
      = (.ok result,
        { connection with
          lastId := connection.lastId + 1
          surroundings :=
            { connection.surroundings with
              replies
              requests := connection.surroundings.requests
                ++ [requestBody method params (connection.lastId + 1)] } }) := by
  have hid : Numeral.fits ((connection.lastId + 1 : ℕ) : Int) = true :=
    Json.hasForm_int.mp (@Json.HasForm.of_mem_map _ _ (Json.writable_iff.mp hform)
      ("id", .int (connection.lastId + 1 : ℕ)) (by simp))
  obtain ⟨text, hwritten⟩ := hform
  have htransmit : transmit Link.Script.link connection.isClosed
      (requestBody method params (connection.lastId + 1)) connection.surroundings
        = (.ok ⟨200, Link.Wire.bytesOf
            (.map [("id", .int (connection.lastId + 1 : ℕ)), ("result", result)])⟩,
          { connection.surroundings with
            replies
            requests := connection.surroundings.requests
              ++ [requestBody method params (connection.lastId + 1)] }) := by
    rw [transmit, hwritten, hopen]
    simp only [Bool.false_eq_true, if_false, exchange, Link.Script.link, Link.Script.send, hreplies,
      answer]
    rfl
  have hrun : (Retry.standard 0).run Link.Script.link (transmit Link.Script.link
      connection.isClosed (requestBody method params (connection.lastId + 1)))
        connection.surroundings = _ :=
    htransmit
  rw [call_eq]
  simp only [hrun, concluded, interpret_answer method hid hresult]

/-- A call that is answered with a result gives it. -/
theorem call_of_answer [Nesting] (connection : Connection (Link.Script ℚ)) (result : Value)
    (replies : List (Link.ScriptedReply ℚ)) {method : String} {params : List Value}
    (hopen : connection.isClosed = false)
    (hreplies : connection.surroundings.replies = answer (connection.lastId + 1) result :: replies)
    (hform : Json.Writable (requestBody method params (connection.lastId + 1)))
    (hresult : result.Faithful 7) :
    ∃ connection', call ⟨Link.Script.link, .standard 0⟩ method params connection
        = (.ok result, connection')
      ∧ connection'.isClosed = false ∧ connection'.lastId = connection.lastId + 1
      ∧ connection'.surroundings.replies = replies :=
  ⟨_, call_eq_of_answer connection result replies hopen hreplies hform hresult, hopen, rfl, rfl⟩

end Client

namespace Watcher

/-- A node that tells the number of its latest block and gives a block. -/
def oneBlock [Nesting] (head block : Value) : Connection (Link.Script ℚ) :=
  .open (.start [Client.answer 1 head, Client.answer 2 block] [])

/-- A poll takes in the one block that is due. -/
theorem scanned_oneBlock [Nesting] (gateway : Gateway) {number : Int} {head : Value}
    {shown : Value.Entries} {block : Block} (hhead : head.Faithful 7)
    (hshown : (Value.map shown).Faithful 7)
    (hnumber : Amount.quantity [] head = .valid number)
    (hblock : Block.decode (.map shown) = .valid block) :
    Event.scanned gateway
        (.poll ⟨Link.Script.link, .standard 0⟩ number (oneBlock head (.map shown)))
      = [gateway.scan block] := by
  have hone : Numeral.fits ((1 : ℕ) : Int) = true := by decide
  have htwo : Numeral.fits ((2 : ℕ) : Int) = true := by decide
  obtain ⟨first, hcall, hopen, hlast, hreplies⟩ :=
    Client.call_of_answer (oneBlock head (.map shown)) head [Client.answer 2 (.map shown)] rfl rfl
      (Client.writable_requestBody "eth_blockNumber" [] hone nofun) hhead
  have hfirst : Client.headNumber ⟨Link.Script.link, .standard 0⟩ (oneBlock head (.map shown))
      = (.ok number, first) := by
    rw [Client.headNumber, Client.ask, Client.callThen, hcall]
    simp only [Client.checked, hnumber]
  have hparams : ∀ param ∈ [Value.str (Numeral.hexText number), .bool true],
      Json.HasForm 6 param := by
    simp only [List.forall_mem_cons]
    exact ⟨Json.hasForm_str _, Json.hasForm_bool _, nofun⟩
  obtain ⟨second, hcall', -⟩ :=
    Client.call_of_answer first (.map shown) [] hopen
      (by rw [hreplies, hlast]; rfl)
      (Client.writable_requestBody "eth_getBlockByNumber" _ (by rw [hlast]; exact htwo) hparams)
      hshown
  have hsecond : Client.getBlock ⟨Link.Script.link, .standard 0⟩ (.int number) (.bool true) first
      = (.ok block, second) := by
    rw [Client.getBlock]
    show Client.callThen _ _ _ _ _ = _
    rw [Client.callThen, hcall']
    simp only [Client.checked, hblock]
  have hdue : blocksDue { nextBlock := number, connection := first, gateway } number = 1 := by
    show (number + 1 - number).toNat = 1
    omega
  rw [Event.scanned, query]
  simp only [hfirst, hdue, scanned, query, hsecond]
  rcases takeIn block { nextBlock := number, connection := second, gateway } with
    ⟨failure | count, next⟩ <;> rfl

end Watcher

/-! ## The transfer that settles a row -/

/-- A created row is paid at the time of the block of the first transfer that pays it among those
that are taken in after its creation. -/
theorem Intent.CreatedIn.paidAt_eq_some_iff [Nesting] {row created : Intent} {gateway : Gateway}
    {events earlier later : List Event} {creation : Event}
    (h : row.CreatedIn gateway events earlier later creation created) {time : Int} :
    row.paidAt = some time ↔ ∃ block transfer,
      row.FirstPaidBy ((creation.apply (gateway.after earlier)).scanned later) block transfer
        ∧ block.timestamp = time := by
  have hsettled : row.paidAt
      = (row.firstSettlement? ((creation.apply (gateway.after earlier)).scanned later)).map
        (·.paidAt) := by
    rw [h.row_eq]
    exact paidAt_orSettled h.unpaid _
  rw [hsettled, Option.map_eq_some_iff]
  constructor
  · rintro ⟨settlement, hfirst, rfl⟩
    obtain ⟨block, transfer, hpays, hsettles⟩ := exists_firstPaidBy hfirst
    exact ⟨block, transfer, hpays, (paidAt_of_settlementBy? hsettles).symm⟩
  · rintro ⟨block, transfer, hpays, rfl⟩
    have hfirst := firstSettlement?_of_first hpays
    obtain ⟨_, _, _, _, _, _, _, _, hpaid⟩ := hpays
    have hsome : (row.settlementBy? block transfer).isSome = true := isSome_settlementBy?.mpr hpaid
    obtain ⟨settlement, hsettles⟩ := Option.isSome_iff_exists.mp hsome
    exact ⟨settlement, hfirst.trans hsettles, paidAt_of_settlementBy? hsettles⟩

/-- In every run of creations and polls, whatever the order and wherever the polls begin, each row
has been created at the time that the clock then showed, and has been settled by the first transfer
that pays it among those that were taken in after that; both times have come. It was paid after it
was created exactly if the block of that transfer is not older than the row, which nothing in the
gateway looks at. -/
theorem Timely.settled_by_first_scanned [Nesting] {policy : Policy} {clock : Rat}
    {events : List Event} (h : Timely (Gateway.fresh policy clock) events) :
    let gateway := Gateway.fresh policy clock
    let after := gateway.after events
    ∀ row ∈ after.store.intents, ∃ earlier later creation created,
      row.CreatedIn gateway events earlier later creation created
        ∧ row.createdAt ≤ after.now
        ∧ (∀ time, row.paidAt = some time → time ≤ after.now)
        ∧ ((∀ time, row.paidAt = some time → row.createdAt ≤ time) ↔
          ∀ block transfer,
            row.FirstPaidBy ((creation.apply (gateway.after earlier)).scanned later) block
                transfer → row.createdAt ≤ block.timestamp) := by
  intro gateway after row hrow
  have hg : gateway.Steady := Gateway.intents_wellFormed_after policy clock []
  rcases h.row_cases hg row hrow with
    ⟨origin, horigin, _⟩ | ⟨earlier, later, creation, created, hcreated⟩
  · cases horigin
  · have hsplit := hcreated.split
    subst hsplit
    have hrest : Timely (gateway.after earlier) (creation :: later) := h.of_append
    have hbefore : (gateway.after earlier).Steady := Store.kept_wellFormed.after earlier hg
    have hend : (gateway.after earlier).after (creation :: later) = after :=
      (List.foldl_append).symm
    have htimes := hrest.timestamp_le hbefore
    rw [hend] at htimes
    have hnow := hrest.now_le hbefore
    rw [hend] at hnow
    refine ⟨earlier, later, creation, created, hcreated, ?_, ?_, ?_⟩
    · have hrowtime : row.createdAt = created.createdAt := by
        rw [hcreated.row_eq]
        rfl
      rw [hrowtime, hcreated.createdAt]
      exact hnow
    · intro time htime
      obtain ⟨block, transfer, hpays, rfl⟩ := hcreated.paidAt_eq_some_iff.mp htime
      obtain ⟨before, behind, _, _, hblocks, _⟩ := hpays
      refine htimes block (List.mem_append_right _ ?_)
      rw [hblocks]
      simp
    · -- the row is paid by that one transfer, at the time of its block
      constructor
      · intro hlaw block transfer hpays
        exact hlaw _ (hcreated.paidAt_eq_some_iff.mpr ⟨block, transfer, hpays, rfl⟩)
      · rintro hblocks time htime
        obtain ⟨block, transfer, hpays, rfl⟩ := hcreated.paidAt_eq_some_iff.mp htime
        exact hblocks block transfer hpays

namespace Timely

/-- A block of the time 100 that carries a transfer with the marker of the intent 1. -/
def markedBlock : Block where
  number := 0
  timestamp := 100
  hash := none
  transfers :=
    [{ hash := "0xaa", sender := "0x1111111111111111111111111111111111111111"
       recipient := some "0x1111111111111111111111111111111111111111", value := 5
       data := "0x474f52525f5041593a31" }]

/-- A poll of a node that has this block only. -/
def pollOfMarkedBlock : Event :=
  let address := "0x1111111111111111111111111111111111111111"
  let transfer : Value := .map [("hash", .str "0xaa"), ("from", .str address), ("to", .str address),
    ("value", .str "0x5"), ("input", .str "0x474f52525f5041593a31")]
  let block : Value := .map [("number", .str "0x0"), ("timestamp", .str "0x64"),
    ("transactions", .list [transfer])]
  .poll ⟨Link.Script.link, .standard 0⟩ 0 (Watcher.oneBlock (.str "0x0") block)

/-- The creation of the intent 1. -/
def creationOfMarked : List Event :=
  [.perform (.create (.str "0x1111111111111111111111111111111111111111") (.int 5) (.str "GORR")
    .null .null none)]

/-- The intent 1 is created, and then a watcher begins with the block that names it already. -/
def foreseen : List Event :=
  creationOfMarked ++ [pollOfMarkedBlock]

set_option maxRecDepth 4000 in
theorem scanned_pollOfMarkedBlock (gateway : Gateway) :
    Event.scanned gateway pollOfMarkedBlock = [gateway.scan markedBlock] := by
  refine Watcher.scanned_oneBlock gateway (.str _) (.map ?_ ?_ (by simp)) rfl rfl
  · simp only [List.forall_mem_cons]
    refine ⟨.str _, .str _, .list ?_, nofun⟩
    simp only [List.forall_mem_singleton]
    refine .map ?_ ?_ (by simp)
    · simp only [List.forall_mem_cons]
      exact ⟨.str _, .str _, .str _, .str _, .str _, nofun⟩
    · simp
  · simp

/-- That poll takes in the block. -/
theorem apply_pollOfMarkedBlock {gateway : Gateway} (hg : gateway.Steady) :
    Event.apply gateway pollOfMarkedBlock = (gateway.confirmBlock markedBlock).2 := by
  rw [Gateway.confirmBlock_snd hg, ← scanned_pollOfMarkedBlock, pollOfMarkedBlock]
  exact Gateway.apply_poll hg _ _ _

/-- In this run the block is not taken in before its time. -/
theorem timely_foreseen : Timely (Gateway.fresh .standard 200) foreseen := by
  refine .create _ _ _ _ _ (.poll _ _ _ ?_ (.nil _))
  intro block hblock
  obtain rfl := List.mem_singleton.mp ((scanned_pollOfMarkedBlock _) ▸ hblock)
  show (100 : Int) ≤ _
  decide +kernel

/-- A row that is paid before it is created. -/
theorem not_paid_after_created : ¬ ∀ (policy : Policy) (clock : Rat) (events : List Event),
    Timely (Gateway.fresh policy clock) events →
      ∀ row ∈ ((Gateway.fresh policy clock).after events).store.intents, ∀ time,
        row.paidAt = some time → row.createdAt ≤ time := by
  intro hlaw
  have hg := Gateway.intents_wellFormed_after .standard 200 creationOfMarked
  have hrows : ((Gateway.fresh .standard 200).after foreseen).store.intents.map
      (fun row => (row.createdAt, row.paidAt)) = [(200, some 100)] := by
    rw [foreseen, Gateway.after_concat, apply_pollOfMarkedBlock hg]
    decide +kernel
  have hmem : ((200 : Int), some (100 : Int)) ∈ ((Gateway.fresh .standard 200).after
      foreseen).store.intents.map (fun row => (row.createdAt, row.paidAt)) := by
    rw [hrows]
    exact List.mem_singleton_self _
  obtain ⟨row, hrow, htimes⟩ := List.mem_map.mp hmem
  obtain ⟨hcreated, hpaid⟩ := Prod.mk.inj htimes
  have hle := hlaw .standard 200 foreseen timely_foreseen row hrow 100 hpaid
  omega

/-- The row of this run is settled by a transfer that was taken in after its creation. -/
theorem settled_by_first_scanned_foreseen :
    Timely (Gateway.fresh .standard 200) foreseen
      ∧ ∀ row ∈ ((Gateway.fresh .standard 200).after foreseen).store.intents,
        ∃ earlier later creation created,
          row.CreatedIn (Gateway.fresh .standard 200) foreseen earlier later creation created := by
  refine ⟨timely_foreseen, fun row hrow => ?_⟩
  obtain ⟨earlier, later, creation, created, hcreated, -⟩ :=
    timely_foreseen.settled_by_first_scanned row hrow
  exact ⟨earlier, later, creation, created, hcreated⟩

end Timely

end IntentGateway
