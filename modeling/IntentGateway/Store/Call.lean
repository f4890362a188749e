import IntentGateway.Action
import IntentGateway.Store.Basic

/-! # Calls on the store

A call is a program whose only steps are statements of the store, each atomic; between two of its
steps other calls may take theirs. A statement that fails ends the call.
-/

namespace IntentGateway

/-- A program over the statements of the store. -/
inductive Call (α : Type) where
  /-- The call has ended. -/
  | done (outcome : Except Failure α)
  | find (id : Int) (next : Option Intent → Call α)
  | ofMerchant (merchant : String) (next : List Intent → Call α)
  | holdings (address : String) (next : List Balance → Call α)
  | insert (terms : Terms) (next : Intent → Call α)
  /-- Settles conditionally, and goes on with whether that took effect. -/
  | settle (id : Int) (settlement : Settlement) (next : Bool → Call α)
  /-- Refunds conditionally, and goes on with whether that took effect. -/
  | refund (id : Int) (next : Bool → Call α)

namespace Call

/-- A call that ends with a result. -/
def answer {α : Type} (a : α) : Call α :=
  .done (.ok a)

/-- A call that ends with a failure. -/
def fail {α : Type} (failure : Failure) : Call α :=
  .done (.error failure)

/-- Checks something before a call begins. -/
def checking {α β : Type} (check : Except Failure β) (next : β → Call α) : Call α :=
  match check with
  | .ok b => next b
  | .error failure => .done (.error failure)

/-- What follows a statement that reads. -/
def afterRead {α β : Type} (store : Store) (next : β → Call α) :
    Except StorageError β → Call α × Store
  | .ok b => (next b, store)
  | .error e => (.done (.error (.storage e)), store)

/-- What follows a statement that writes. -/
def afterWrite {α β : Type} (store : Store) (next : β → Call α) :
    Except StorageError (β × Store) → Call α × Store
  | .ok (b, store') => (next b, store')
  | .error e => (.done (.error (.storage e)), store)

/-- Takes one step. A call that has ended stays as it is. -/
def step {α : Type} (call : Call α) (store : Store) : Call α × Store :=
  match call with
  | .done outcome => (.done outcome, store)
  | .find id next => afterRead store next (store.find id)
  | .ofMerchant merchant next => (next (store.ofMerchant merchant), store)
  | .holdings address next => (next (store.holdings address), store)
  | .insert terms next => afterWrite store next (store.insert terms)
  | .settle id settlement next => afterWrite store next (store.settle id settlement)
  | .refund id next => afterWrite store next (store.refund id)

/-- Runs a call to its end without interruption. -/
def run {α : Type} : Call α → Action Store α
  | .done outcome, store => (outcome, store)
  | .find id next, store =>
    match store.find id with
    | .ok found => run (next found) store
    | .error e => (.error (.storage e), store)
  | .ofMerchant merchant next, store => run (next (store.ofMerchant merchant)) store
  | .holdings address next, store => run (next (store.holdings address)) store
  | .insert terms next, store =>
    match store.insert terms with
    | .ok (intent, store') => run (next intent) store'
    | .error e => (.error (.storage e), store)
  | .settle id settlement next, store =>
    match store.settle id settlement with
    | .ok (effective, store') => run (next effective) store'
    | .error e => (.error (.storage e), store)
  | .refund id next, store =>
    match store.refund id with
    | .ok (effective, store') => run (next effective) store'
    | .error e => (.error (.storage e), store)

/-- Whether the next step of a call is a conditional update. -/
def isAtUpdate {α : Type} : Call α → Bool
  | .settle .. => true
  | .refund .. => true
  | _ => false

/-- Runs a call until it has ended or its next step is a conditional update. -/
def runToUpdate {α : Type} : Call α → Store → Call α × Store
  | .done outcome, store => (.done outcome, store)
  | .find id next, store =>
    match store.find id with
    | .ok found => runToUpdate (next found) store
    | .error e => (.done (.error (.storage e)), store)
  | .ofMerchant merchant next, store => runToUpdate (next (store.ofMerchant merchant)) store
  | .holdings address next, store => runToUpdate (next (store.holdings address)) store
  | .insert terms next, store =>
    match store.insert terms with
    | .ok (intent, store') => runToUpdate (next intent) store'
    | .error e => (.done (.error (.storage e)), store)
  | .settle id settlement next, store => (.settle id settlement next, store)
  | .refund id next, store => (.refund id next, store)

end Call

end IntentGateway
