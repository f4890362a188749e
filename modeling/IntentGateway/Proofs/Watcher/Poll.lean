import IntentGateway.Proofs.Client.Call
import IntentGateway.Proofs.Gateway.Confirmation
import IntentGateway.Proofs.Gateway.Origin
import IntentGateway.Proofs.Remote.Block
import IntentGateway.Watcher

/-! # What a poll takes in

A poll asks for the number of the latest block, and then for the blocks that are due one after the
other, each once. It counts a block only when all of its transfers are taken in, so what it leaves
is the gateway after the counted blocks, and perhaps after the first transfers of one more. It fails
only if the node gives no answer that can be used, or if a block cannot be recorded; no transfer
makes it fail by anything else than an amount of 2^256 or more.
-/

namespace IntentGateway

open Remote (Block Transfer)

namespace Gateway

/-- A gateway whose store is sound and whose intents are well-formed, as they are in every gateway
that began without intents. -/
abbrev Steady (gateway : Gateway) : Prop :=
  gateway.store.Sound ∧ ∀ intent ∈ gateway.store.intents, intent.WellFormed

variable [Nesting]

/-- Transfers that cannot all be taken in are taken in up to one that changes nothing. -/
theorem confirmTransfers_of_error {block : Block} {transfers : List Transfer} {failure : Failure}
    {gateway gateway' : Gateway} (hg : gateway.Steady)
    (h : confirmTransfers block transfers gateway = (.error failure, gateway')) :
    ∃ taken failing later count, transfers = taken ++ failing :: later
      ∧ confirmTransfers block taken gateway = (.ok count, gateway')
      ∧ confirmTransfer block failing gateway' = (.error failure, gateway') := by
  induction transfers generalizing gateway with
  | nil => cases h
  | cons transfer transfers ih =>
    have hkept := Store.kept_wellFormed.confirmTransfer block transfer hg
    rw [confirmTransfers] at h
    split at h
    · rename_i hfirst
      obtain rfl := confirmTransfer_of_error hg.1 hfirst
      cases h
      exact ⟨[], transfer, transfers, 0, rfl, rfl, hfirst⟩
    · rename_i view middle hfirst
      rw [hfirst] at hkept
      cases hrest : confirmTransfers block transfers middle with
      | mk result last =>
        cases result with
        | ok count =>
          rw [Action.map, hrest] at h
          cases h
        | error failure' =>
          rw [Action.map, hrest] at h
          cases h
          obtain ⟨taken, failing, later, count, rfl, htaken, hfailing⟩ := ih hkept hrest
          refine ⟨transfer :: taken, failing, later, view.toList.length + count, rfl, ?_, hfailing⟩
          rw [confirmTransfers, hfirst]
          simp only [Action.map, htaken]

end Gateway

namespace Watcher

section

variable {σ τ : Type} [Seconds τ]

variable [Nesting]

/-- Blocks that a node has given one after the other, each asked for once, by the number that was
due. -/
inductive Fetched (node : Client.Endpoint σ τ) :
    Connection σ → Int → List Block → Connection σ → Prop where
  | none (connection : Connection σ) (number : Int) : Fetched node connection number [] connection
  | more {connection middle last : Connection σ} {number : Int} {block : Block}
      {blocks : List Block}
      (h : Client.getBlock node (.int number) (.bool true) connection = (.ok block, middle))
      (rest : Fetched node middle (number + 1) blocks last) :
      Fetched node connection number (block :: blocks) last

/-- Whether a watcher has fetched blocks and taken them in completely, one after the other. -/
structure TookIn (node : Client.Endpoint σ τ) (before : Watcher σ) (blocks : List Block)
    (after : Watcher σ) : Prop where
  fetched : Fetched node before.connection before.nextBlock blocks after.connection
  nextBlock : after.nextBlock = before.nextBlock + blocks.length
  gateway : ∃ count, Gateway.confirmBlocks blocks before.gateway = (.ok count, after.gateway)

/-- How the block that is due is not taken in. -/
inductive StepFailed (node : Client.Endpoint σ τ) (watcher : Watcher σ) (failure : Failure) :
    Watcher σ → Prop where
  /-- The node does not give it. -/
  | fetch {connection : Connection σ}
      (h : Client.getBlock node (.int watcher.nextBlock) (.bool true) watcher.connection
        = (.error failure, connection)) :
      StepFailed node watcher failure { watcher with connection }
  /-- It cannot be recorded. The transfers before one that fails are taken in. -/
  | record {connection : Connection σ} {block : Block} {taken later : List Transfer}
      {failing : Transfer} {count : ℕ} {gateway : Gateway}
      (h : Client.getBlock node (.int watcher.nextBlock) (.bool true) watcher.connection
        = (.ok block, connection))
      (hsplit : block.transfers = taken ++ failing :: later)
      (htaken : Gateway.confirmTransfers block taken watcher.gateway = (.ok count, gateway))
      (hfailing : Gateway.confirmTransfer block failing gateway = (.error failure, gateway))
      (hblock : Store.fitsColumn block.number = false ∨ Store.fitsColumn block.timestamp = false
        ∨ ∃ transfer ∈ block.transfers, 2 ^ 256 ≤ transfer.value) :
      StepFailed node watcher failure { watcher with connection, gateway }

variable {node : Client.Endpoint σ τ} {watcher : Watcher σ}

/-- The amounts of a block that a node has given are not below all that can be written. -/
theorem lt_value_of_getBlock {connection middle : Connection σ} {number : Int} {full : Value}
    {block : Block}
    (h : Client.getBlock node (.int number) full connection = (.ok block, middle)) :
    ∀ transfer ∈ block.transfers, -10 ^ Numeral.digitLimit < transfer.value := by
  obtain ⟨result, hcall, huse⟩ := Client.callThen_eq_ok h
  have hreadable := Client.readable_of_call hcall
  have hdecode : Block.decode result = .valid block := by
    split at huse
    · obtain ⟨_, _, huse⟩ := Failure.bind_eq_ok huse
      cases huse
    · rw [Client.checked] at huse
      split at huse
      · cases huse
        assumption
      · cases huse
  exact Block.lt_value_of_decode hreadable hdecode

/-- A block that cannot be taken in cannot be recorded. -/
theorem misfit_of_confirmTransfers {block : Block} {gateway gateway' : Gateway}
    (hg : gateway.Steady)
    (hlow : ∀ transfer ∈ block.transfers, -10 ^ Numeral.digitLimit < transfer.value)
    {failure : Failure}
    (h : Gateway.confirmTransfers block block.transfers gateway = (.error failure, gateway')) :
    Store.fitsColumn block.number = false ∨ Store.fitsColumn block.timestamp = false
      ∨ ∃ transfer ∈ block.transfers, 2 ^ 256 ≤ transfer.value := by
  by_contra hfits
  simp only [not_or, Bool.not_eq_false, not_exists, not_and, not_le] at hfits
  obtain ⟨hnumber, htimestamp, hhigh⟩ := hfits
  have hblock : block.Recordable := ⟨hnumber, htimestamp, hhigh, hlow⟩
  obtain ⟨count, hok⟩ := Gateway.confirmTransfers_eq hblock (fun _ ht => ht) hg
  rw [hok] at h
  cases h

/-! ## One block -/

/-- The block that is due is taken in, or a step fails in one of the ways that are listed. -/
theorem step_cases (node : Client.Endpoint σ τ) {watcher : Watcher σ}
    (hg : watcher.gateway.Steady) :
    (∃ block count after, step node watcher = (.ok count, after)
        ∧ TookIn node watcher [block] after)
      ∨ ∃ failure after, step node watcher = (.error failure, after)
        ∧ StepFailed node watcher failure after := by
  rcases hget : Client.getBlock node (.int watcher.nextBlock) (.bool true) watcher.connection with
    ⟨failure | block, middle⟩
  · refine Or.inr ⟨failure, { watcher with connection := middle }, ?_, .fetch hget⟩
    simp only [step, Action.andThen, query, hget]
  · have hstep : step node watcher = takeIn block { watcher with connection := middle } := by
      simp only [step, Action.andThen, query, hget]
    rw [hstep, takeIn, Gateway.confirmBlock]
    rcases hrun : Gateway.confirmTransfers block block.transfers watcher.gateway with
      ⟨failure | count, gateway⟩
    · obtain ⟨taken, failing, later, count, hsplit, htaken, hfailing⟩ :=
        Gateway.confirmTransfers_of_error hg hrun
      exact Or.inr ⟨failure, { watcher with connection := middle, gateway }, rfl,
        .record hget hsplit htaken hfailing
          (misfit_of_confirmTransfers hg (lt_value_of_getBlock hget) hrun)⟩
    · refine Or.inl ⟨block, count, _, rfl, ?_⟩
      refine { fetched := .more hget (.none _ _), nextBlock := by simp, gateway := ⟨count, ?_⟩ }
      rw [Gateway.confirmBlocks, Action.andThen, Gateway.confirmBlock, hrun]
      rfl

/-! ## All blocks that are due -/

theorem TookIn.refl (node : Client.Endpoint σ τ) (watcher : Watcher σ) :
    TookIn node watcher [] watcher :=
  ⟨.none _ _, by simp, 0, rfl⟩

/-- A block and then others are taken in one after the other. -/
theorem TookIn.cons {before middle after : Watcher σ} {block : Block} {blocks : List Block}
    (h : TookIn node before [block] middle) (h' : TookIn node middle blocks after) :
    TookIn node before (block :: blocks) after := by
  obtain ⟨hfetched, hnext, count, hgateway⟩ := h
  obtain ⟨hfetched', hnext', count', hgateway'⟩ := h'
  cases hfetched with
  | more hget hrest =>
    cases hrest with
    | none =>
      refine ⟨.more hget ?_, ?_, ?_⟩
      · rw [hnext] at hfetched'
        exact hfetched'
      · rw [hnext', hnext]
        simp only [List.length_cons, List.length_nil]
        omega
      · rw [Gateway.confirmBlocks, Action.andThen] at hgateway ⊢
        rcases hblock : Gateway.confirmBlock block before.gateway with ⟨failure | first, g⟩
        · rw [hblock] at hgateway
          cases hgateway
        · rw [hblock] at hgateway
          cases hgateway
          exact ⟨first + count', by simp only [Action.map, hgateway']⟩

/-- Taking in keeps a gateway steady. -/
theorem steady_of_step {after : Watcher σ} {result : Except Failure ℕ}
    (hg : watcher.gateway.Steady) (h : step node watcher = (result, after)) :
    after.gateway.Steady := by
  have hkept := Store.kept_wellFormed.step node hg
  rwa [h] at hkept

/-- Of the blocks that are due, the first ones are taken in: all of them, or all up to one at which
a step fails. -/
theorem catchUp_cases (node : Client.Endpoint σ τ) (due : ℕ) {watcher : Watcher σ}
    (hg : watcher.gateway.Steady) :
    ∃ blocks taken, TookIn node watcher blocks taken
      ∧ ((∃ count, catchUp node due watcher = (.ok count, taken) ∧ blocks.length = due)
        ∨ ∃ failure after, catchUp node due watcher = (.error failure, after)
          ∧ StepFailed node taken failure after) := by
  induction due generalizing watcher with
  | zero => exact ⟨[], watcher, .refl node watcher, Or.inl ⟨0, rfl, rfl⟩⟩
  | succ due ih =>
    -- a block that is taken in leaves the watcher where the other blocks are due
    rcases step_cases node hg with
      ⟨block, count, middle, hstep, htook⟩ | ⟨failure, after, hstep, hf⟩
    · obtain ⟨blocks, taken, hrest, hend⟩ := ih (steady_of_step hg hstep)
      refine ⟨block :: blocks, taken, htook.cons hrest, ?_⟩
      rw [catchUp, Action.andThen, hstep]
      rcases hend with ⟨count', hrun, hlength⟩ | ⟨failure, after, hrun, hf⟩
      · refine Or.inl ⟨count + count', ?_, by rw [List.length_cons, hlength]⟩
        simp only [Action.map, hrun]
      · refine Or.inr ⟨failure, after, ?_, hf⟩
        simp only [Action.map, hrun]
    · refine ⟨[], watcher, .refl node watcher, Or.inr ⟨failure, after, ?_, hf⟩⟩
      rw [catchUp, Action.andThen, hstep]

end

/-! ## The requests of a poll -/

section

variable {τ : Type} [Seconds τ]

/-- The bodies of the calls for so many blocks in turn from a number on. -/
def blockBodies (lastId : ℕ) (number : Int) : ℕ → List Value
  | 0 => []
  | blocks + 1 =>
    Client.requestBody "eth_getBlockByNumber" [.str (Numeral.hexText number), .bool true]
      (lastId + 1) :: blockBodies (lastId + 1) (number + 1) blocks

/-- The bodies of the calls of a poll: for the number of the latest block, and then for so many
blocks in turn from the one that is due. -/
def pollBodies (lastId : ℕ) (number : Int) (blocks : ℕ) : List Value :=
  Client.requestBody "eth_blockNumber" [] (lastId + 1) :: blockBodies (lastId + 1) number blocks

variable [Nesting]

theorem asked_getBlock (retry : Retry τ) (number : Int) (connection : Connection (Link.Script τ)) :
    Client.Asked (blockBodies connection.lastId number 1) connection
      (Client.getBlock ⟨Link.Script.link, retry⟩ (.int number) (.bool true) connection).2 := by
  obtain ⟨use, huse⟩ := Client.getBlock_int ⟨Link.Script.link, retry⟩ number (.bool true)
  rw [huse]
  exact Client.asked_callThen retry _ _ use connection

omit [Nesting] in
theorem blockBodies_add (lastId : ℕ) (number : Int) (m n : ℕ) :
    blockBodies lastId number (m + n)
      = blockBodies lastId number m ++ blockBodies (lastId + m) (number + m) n := by
  induction m generalizing lastId number with
  | zero => simp [blockBodies]
  | succ m ih =>
    have hid : lastId + 1 + m = lastId + (m + 1) := by omega
    have hnumber : number + 1 + m = number + ((m + 1 : ℕ) : Int) := by omega
    rw [Nat.add_right_comm, blockBodies, ih, blockBodies, hid, hnumber]
    rfl

omit [Nesting] in
theorem length_blockBodies (lastId : ℕ) (number : Int) (n : ℕ) :
    (blockBodies lastId number n).length = n := by
  induction n generalizing lastId number with
  | zero => rfl
  | succ n ih => rw [blockBodies, List.length_cons, ih]

/-- Fetching blocks asks for each of them once, in turn. -/
theorem asked_of_fetched {retry : Retry τ} {connection last : Connection (Link.Script τ)}
    {number : Int} {blocks : List Block}
    (h : Fetched ⟨Link.Script.link, retry⟩ connection number blocks last) :
    Client.Asked (blockBodies connection.lastId number blocks.length) connection last := by
  induction h with
  | none connection number => exact .refl connection
  | @more connection middle last number block blocks hget _ ih =>
    have hfirst := asked_getBlock retry number connection
    rw [hget] at hfirst
    have hid := hfirst.lastId
    rw [length_blockBodies] at hid
    rw [hid] at ih
    exact hfirst.append ih

/-- However a step fails, it has asked for the block that was due. -/
theorem asked_of_stepFailed {retry : Retry τ} {watcher after : Watcher (Link.Script τ)}
    {failure : Failure} (h : StepFailed ⟨Link.Script.link, retry⟩ watcher failure after) :
    Client.Asked (blockBodies watcher.connection.lastId watcher.nextBlock 1) watcher.connection
      after.connection := by
  have hasked := asked_getBlock retry watcher.nextBlock watcher.connection
  cases h with
  | fetch hget => rwa [hget] at hasked
  | record hget _ _ _ _ => rwa [hget] at hasked

/-! ## A poll -/

section

variable {retry : Retry τ} {connection : Connection (Link.Script τ)}
  {before taken after : Watcher (Link.Script τ)} {blocks : List Block}

/-- Once it knows the number of the latest block, a poll asks for the blocks that it takes in. -/
theorem asked_of_tookIn
    (h : TookIn ⟨Link.Script.link, retry⟩ before blocks taken)
    (hhead : Client.Asked [Client.requestBody "eth_blockNumber" [] (connection.lastId + 1)]
      connection before.connection) :
    Client.Asked (pollBodies connection.lastId before.nextBlock blocks.length) connection
      taken.connection := by
  have hid : before.connection.lastId = connection.lastId + 1 := hhead.lastId
  have hblocks := asked_of_fetched h.fetched
  rw [hid] at hblocks
  exact hhead.append hblocks

/-- The block at which a poll fails is asked for after those that are taken in. -/
theorem asked_of_tookIn_of_stepFailed {failure : Failure}
    (h : TookIn ⟨Link.Script.link, retry⟩ before blocks taken)
    (hfailed : StepFailed ⟨Link.Script.link, retry⟩ taken failure after)
    (hhead : Client.Asked [Client.requestBody "eth_blockNumber" [] (connection.lastId + 1)]
      connection before.connection) :
    Client.Asked (pollBodies connection.lastId before.nextBlock (blocks.length + 1)) connection
      after.connection := by
  have hasked := asked_of_tookIn h hhead
  have hlast := asked_of_stepFailed hfailed
  rw [h.nextBlock, hasked.lastId, pollBodies, List.length_cons, length_blockBodies] at hlast
  have hid : connection.lastId + 1 + blocks.length = connection.lastId + (blocks.length + 1) := by
    omega
  rw [pollBodies, blockBodies_add, hid]
  exact hasked.append hlast

end

section

variable {σ : Type} {node : Client.Endpoint σ τ} {watcher : Watcher σ}

theorem poll_of_head_error {failure : Failure}
    (h : (Client.headNumber node watcher.connection).1 = .error failure) :
    poll node watcher =
      (.error failure,
        { watcher with connection := (Client.headNumber node watcher.connection).2 }) := by
  simp only [poll, Action.andThen, query, h]

theorem poll_of_head_ok {number : Int}
    (h : (Client.headNumber node watcher.connection).1 = .ok number) :
    poll node watcher =
      catchUp node (number + 1 - watcher.nextBlock).toNat
        { watcher with connection := (Client.headNumber node watcher.connection).2 } := by
  simp only [poll, Action.andThen, query, h, blocksDue]

/-- A step that fails leaves the block due. -/
theorem StepFailed.nextBlock {failure : Failure} {after : Watcher σ}
    (h : StepFailed node watcher failure after) : after.nextBlock = watcher.nextBlock := by
  cases h <;> rfl

end

/-- A poll of a node that answers by any script, from any block on, into any gateway that began
without intents. Some blocks are taken in completely: the next block is due after them, they are the
ones that the node gave for the numbers that were due, each asked for once and in order, and the
gateway is as they leave it. Then the poll has ended in one of three ways: the node did not tell the
number of the latest block; the next block was asked for and a step failed; or all blocks up to the
latest one are taken in. -/
theorem poll_takes_in_blocks (policy : Policy) (clock : Rat) (events : List Event)
    (retry : Retry τ) (connection : Connection (Link.Script τ)) (nextBlock : Int) :
    let node : Client.Endpoint (Link.Script τ) τ := ⟨Link.Script.link, retry⟩
    let gateway := (Gateway.fresh policy clock).after events
    let head := Client.headNumber node connection
    let result := poll node { nextBlock, connection, gateway }
    ∃ blocks taken, TookIn node { nextBlock, connection := head.2, gateway } blocks taken
      ∧ result.2.nextBlock = nextBlock + blocks.length
      ∧ ((∃ failure, result.1 = .error failure ∧ head.1 = .error failure ∧ blocks = []
            ∧ result.2 = taken
            ∧ Client.Asked (pollBodies connection.lastId nextBlock 0) connection
              result.2.connection)
        ∨ (∃ failure, result.1 = .error failure ∧ StepFailed node taken failure result.2
            ∧ Client.Asked (pollBodies connection.lastId nextBlock (blocks.length + 1)) connection
              result.2.connection)
        ∨ ∃ count number, result.1 = .ok count ∧ head.1 = .ok number ∧ result.2 = taken
            ∧ result.2.nextBlock = max nextBlock (number + 1)
            ∧ Client.Asked (pollBodies connection.lastId nextBlock blocks.length) connection
              result.2.connection) := by
  intro node gateway head result
  have hhead : Client.Asked [Client.requestBody "eth_blockNumber" [] (connection.lastId + 1)]
      connection head.2 := Client.asked_callThen retry _ _ _ connection
  let started : Watcher (Link.Script τ) := { nextBlock, connection := head.2, gateway }
  have hstarted : started.gateway.Steady := Gateway.intents_wellFormed_after policy clock events
  rcases hanswer : head.1 with failure | number
  · -- without the number of the latest block there is nothing to take in
    have hresult : result = (.error failure, started) := poll_of_head_error hanswer
    rw [hresult]
    exact ⟨[], started, .refl node started, (TookIn.refl node started).nextBlock,
      Or.inl ⟨failure, rfl, rfl, rfl, rfl, hhead⟩⟩
  · have hresult : result = catchUp node (number + 1 - nextBlock).toNat started :=
      poll_of_head_ok hanswer
    rw [hresult]
    obtain ⟨blocks, taken, htook, ⟨count, hrun, hlength⟩ | ⟨failure, after, hrun, hfailed⟩⟩ :=
      catchUp_cases node (number + 1 - nextBlock).toNat hstarted
    · -- all blocks up to the latest one have been taken in
      have hnext : taken.nextBlock = nextBlock + blocks.length := htook.nextBlock
      have hmax : taken.nextBlock = max nextBlock (number + 1) := by omega
      rw [hrun]
      exact ⟨blocks, taken, htook, hnext,
        Or.inr (Or.inr ⟨count, number, rfl, rfl, rfl, hmax, asked_of_tookIn htook hhead⟩)⟩
    · -- a step has failed, and the next poll begins with its block
      have hasked := asked_of_tookIn_of_stepFailed htook hfailed hhead
      rw [hrun]
      exact ⟨blocks, taken, htook, hfailed.nextBlock.trans htook.nextBlock,
        Or.inr (Or.inl ⟨failure, rfl, hfailed, hasked⟩)⟩

end

end Watcher

end IntentGateway
