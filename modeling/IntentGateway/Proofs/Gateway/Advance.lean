import IntentGateway.Proofs.Gateway.Persistence
import IntentGateway.Proofs.Gateway.Readback
import IntentGateway.Proofs.Rpc.Answer
import IntentGateway.Proofs.Rpc.Visit
import Mathlib.Logic.Relation

/-! # The status of an intent advances

No status is stored: each read derives it from two flags, the expiry and the time of the read. But
flags are only set, the expiry is fixed, and time passes, so what one read shows of an intent turns
into what a later one shows by expiring, being paid and being refunded
(`Intent.Evolves.advances_statusAt`). However a view is read, it is the view of a row as it is
stored then (`Gateway.Reads.exists_row`), and between two reads rows evolve.
-/

namespace IntentGateway

/-! ## The order of the statuses -/

namespace Status

/-- A single turn of a status: the last second passes, the payment comes in, or it is refunded. -/
inductive Turns : Status → Status → Prop where
  | expire : Turns .pending .expired
  | pay : Turns .pending .paid
  | payLate : Turns .expired .paidExpired
  | expirePaid : Turns .paid .paidExpired
  | refund : Turns .paid .refunded
  | refundLate : Turns .paidExpired .refunded

/-- Any number of turns. -/
def Advances : Status → Status → Prop :=
  Relation.ReflTransGen Turns

theorem Turns.advances {status next : Status} (h : Turns status next) : status.Advances next :=
  .single h

/-- A flag that is only set stays as it is, or is set now. -/
theorem flag_cases {flag later : Bool} (h : flag = true → later = true) :
    later = flag ∨ flag = false ∧ later = true := by
  cases flag with
  | false => simp
  | true => exact Or.inl (h rfl)

theorem advances_of_expiry (paid refunded : Bool) :
    (derive paid refunded false).Advances (derive paid refunded true) := by
  match paid, refunded with
  | _, true => exact .refl
  | true, false => exact Turns.expirePaid.advances
  | false, false => exact Turns.expire.advances

theorem advances_of_payment (expired : Bool) :
    (derive false false expired).Advances (derive true false expired) := by
  cases expired with
  | false => exact Turns.pay.advances
  | true => exact Turns.payLate.advances

theorem advances_of_refund (expired : Bool) :
    (derive true false expired).Advances (derive true true expired) := by
  cases expired with
  | false => exact Turns.refund.advances
  | true => exact Turns.refundLate.advances

/-- Flags that are only set make the status advance, if what is refunded has been paid. -/
theorem advances_derive {paid refunded expired paid' refunded' expired' : Bool}
    (hp : paid = true → paid' = true) (hr : refunded = true → refunded' = true)
    (he : expired = true → expired' = true) (hrefunded : refunded = true → paid = true)
    (hrefunded' : refunded' = true → paid' = true) :
    (derive paid refunded expired).Advances (derive paid' refunded' expired') := by
  -- first the last second passes, then the payment comes in, and the refund is last
  have hexpiry : (derive paid refunded expired).Advances (derive paid refunded expired') := by
    rcases flag_cases he with rfl | ⟨rfl, rfl⟩
    · exact .refl
    · exact advances_of_expiry paid refunded
  have hpayment : (derive paid refunded expired').Advances (derive paid' refunded expired') := by
    rcases flag_cases hp with rfl | ⟨rfl, rfl⟩
    · exact .refl
    · obtain rfl : refunded = false := by simpa using hrefunded
      exact advances_of_payment expired'
  have hrefund : (derive paid' refunded expired').Advances (derive paid' refunded' expired') := by
    rcases flag_cases hr with rfl | ⟨rfl, rfl⟩
    · exact .refl
    · obtain rfl : paid' = true := hrefunded' rfl
      exact advances_of_refund expired'
  exact (hexpiry.trans hpayment).trans hrefund

theorem name_derive_eq_refunded_iff {paid refunded expired : Bool} :
    (derive paid refunded expired).name = "refunded" ↔ refunded = true := by
  cases paid <;> cases refunded <;> cases expired <;> decide

theorem name_derive_eq_paid_iff {paid refunded expired : Bool} :
    (derive paid refunded expired).name = "paid"
        ∨ (derive paid refunded expired).name = "paid_expired"
      ↔ paid = true ∧ refunded = false := by
  cases paid <;> cases refunded <;> cases expired <;> decide

theorem expired_of_name_derive {paid refunded expired : Bool}
    (h : (derive paid refunded expired).name = "expired"
      ∨ (derive paid refunded expired).name = "paid_expired") : expired = true := by
  cases expired with
  | true => rfl
  | false => cases paid <;> cases refunded <;> revert h <;> decide

end Status

/-- An expiry that has passed stays so. -/
theorem isExpired_of_le {expiry now later : Int} (h : now ≤ later)
    (hexpired : isExpired expiry now = true) : isExpired expiry later = true := by
  have hpassed : expiry < now := of_decide_eq_true hexpired
  exact decide_eq_true (by omega)

/-- Later on the status of a row has advanced, as the row has evolved. -/
theorem Intent.Evolves.advances_statusAt {earlier later : Intent} (h : earlier.Evolves later)
    (hearlier : earlier.refunded = true → earlier.paid = true)
    (hlater : later.refunded = true → later.paid = true) {now now' : Int} (hnow : now ≤ now') :
    (earlier.statusAt now).Advances (later.statusAt now') := by
  have hexpiry : later.expiry = earlier.expiry := by rw [h.terms]
  rw [Intent.statusAt, Intent.statusAt, hexpiry]
  exact Status.advances_derive h.paid h.refunded (isExpired_of_le hnow) hearlier hlater

/-! ## What a view says of its status -/

/-- Whether the status of a view is what the flags, the expiry and the time of the view say. -/
structure View.StatusFits (view : View) (now : Int) : Prop where
  refunded_iff : view.status = "refunded" ↔ view.refunded = true
  paid_iff : view.status = "paid" ∨ view.status = "paid_expired" ↔
    view.paid = true ∧ view.refunded = false
  expired : view.status = "expired" ∨ view.status = "paid_expired" → view.expiry < now

theorem View.statusFits_ofIntent (row : Intent) (now : Int) :
    (View.ofIntent row now).StatusFits now where
  refunded_iff := Status.name_derive_eq_refunded_iff
  paid_iff := Status.name_derive_eq_paid_iff
  expired h := of_decide_eq_true (Status.expired_of_name_derive h)

/-! ## What an outcome shows -/

/-- The views that an outcome shows. -/
def Outcome.allViews : Outcome → List View
  | .created _ shown => [shown]
  | .view shown => [shown]
  | .views shown => shown
  | .unrelated => []
  | .holdings _ => []

theorem Outcome.eq_ok_of_view? {result : Except Failure Outcome} {view : View}
    (h : result.toOption.bind Outcome.view? = some view) : result = .ok (.view view) := by
  rcases result with failure | (_ | shown | _ | _ | _)
  case ok.view =>
    cases h
    rfl
  all_goals cases h

/-- Whether the result of a response shows a view: as it is, beside the id of a new intent, or in a
list. -/
@[mk_iff]
inductive Value.Shows (view : View) : Value → Prop where
  | alone : Shows view view.toWire
  | created (id : Int) : Shows view (.map [("id", .int id), ("intent", view.toWire)])
  | listed {items : List Value} (h : view.toWire ∈ items) : Shows view (.list items)

theorem Value.ofOption_injective {α : Type} {encode : α → Value}
    (hencode : Function.Injective encode) (hnull : ∀ a, encode a ≠ .null) :
    Function.Injective (Value.ofOption encode) := by
  intro first second h
  match first, second with
  | none, none => rfl
  | none, some b => exact absurd h.symm (hnull b)
  | some a, none => exact absurd h (hnull a)
  | some a, some b => exact congrArg some (hencode h)

/-- Views that travel alike are the same. -/
theorem View.toWire_injective : Function.Injective View.toWire := by
  intro view other h
  have hstr : Function.Injective (Value.ofOption Value.str) :=
    Value.ofOption_injective (fun _ _ => Value.str.inj) nofun
  have hint : Function.Injective (Value.ofOption Value.int) :=
    Value.ofOption_injective (fun _ _ => Value.int.inj) nofun
  obtain ⟨⟩ := view
  obtain ⟨⟩ := other
  simpa [View.toWire, hstr.eq_iff, hint.eq_iff] using h

/-- What the result for an outcome shows, the outcome does. -/
theorem Outcome.mem_allViews {outcome : Outcome} {view : View} (h : outcome.toWire.Shows view) :
    view ∈ outcome.allViews := by
  rw [Value.shows_iff] at h
  cases outcome with
  | created id shown =>
    have hsame : view.toWire = shown.toWire := by
      rcases h with h | ⟨_, h⟩ | ⟨_, _, h⟩
      · simp [Outcome.toWire, View.toWire] at h
      · simp only [Outcome.toWire, Value.map.injEq, List.cons.injEq, Prod.mk.injEq] at h
        exact h.2.1.2.symm
      · cases h
    exact List.mem_singleton.mpr (View.toWire_injective hsame)
  | view shown =>
    have hsame : view.toWire = shown.toWire := by
      rcases h with h | ⟨_, h⟩ | ⟨_, _, h⟩
      · exact h.symm
      · simp [Outcome.toWire, View.toWire] at h
      · cases h
    exact List.mem_singleton.mpr (View.toWire_injective hsame)
  | views shown =>
    rcases h with h | ⟨_, h⟩ | ⟨items, hmem, h⟩
    · cases h
    · cases h
    · cases h
      exact (List.mem_map_of_injective View.toWire_injective).mp hmem
  | unrelated =>
    rcases h with h | ⟨_, h⟩ | ⟨_, _, h⟩
    · cases h
    · cases h
    · cases h
  | holdings amounts =>
    -- balances are texts, and whatever shows a view has a number
    have hnumber : ∀ (n : Int) (entries : Value.Entries),
        (Outcome.holdings amounts).toWire ≠ .map (("id", .int n) :: entries) := by
      intro n entries hsame
      rw [Outcome.toWire, Value.map.injEq] at hsame
      have htexts : ∀ entry ∈ (("id", .int n) :: entries : Value.Entries),
          ∃ text, entry.2 = .str text := by
        rw [← hsame]
        refine Value.Entries.forall_ofPairs (List.forall_mem_map.mpr fun pair _ => ?_)
        exact ⟨pair.2, rfl⟩
      obtain ⟨text, htext⟩ := htexts _ List.mem_cons_self
      cases htext
    rcases h with h | ⟨_, h⟩ | ⟨_, _, h⟩
    · exact absurd h (hnumber _ _)
    · exact absurd h (hnumber _ _)
    · cases h

namespace Operation

variable {policy : Policy} {clock : Int} {store store' : Store} {operation : Operation}

/-- An operation that a visitor can ask for takes place at the time of the clock. -/
theorem Plain.timeAt_eq (h : operation.Plain) (clock : Int) : operation.timeAt clock = clock := by
  cases h <;> rfl

/-- Several views at once are those of a list. -/
theorem eq_list_of_views [Nesting] (hs : store.Sound) {views : List View}
    (h : (operation.call policy clock).run store = (.ok (.views views), store')) :
    ∃ merchant now, operation = .list merchant now := by
  rcases operation.reads_or_updates_or_create with
    hreads | hupdates | ⟨merchant, gross, token, feeBps, lifetime, now, rfl⟩
  · -- of the operations that read, one shows a single view, and one shows balances
    cases operation with
    | get id now =>
      rw [call] at h
      cases hl : store.lookup id with
      | none =>
        obtain ⟨failure, hrun⟩ := run_load_of_missing hl fun row => showing row (now.getD clock)
        rw [hrun] at h
        cases h
      | some row =>
        rw [run_load_of_found hs hl] at h
        cases h
    | list merchant now => exact ⟨merchant, now, rfl⟩
    | balances address =>
      rw [call] at h
      cases hchecked : Address.normalize "address" address with
      | error failure =>
        rw [hchecked] at h
        cases h
      | ok address =>
        rw [hchecked] at h
        cases h
    | _ => cases hreads
  · -- those that update show a single view too, if they succeed
    rw [call_of_updates hupdates] at h
    rcases herrand : operation.errand clock with failure | (_ | errand)
    · rw [herrand] at h
      cases h
    · rw [herrand] at h
      cases h
    · rw [herrand] at h
      cases errand with
      | settle id now remittance recipient =>
        have hsettles : Settles store id now remittance recipient (.ok (.views views), store') :=
          h ▸ settles_load hs now remittance recipient id
        cases hsettles
      | refund id now =>
        have hrefunds : Refunds store id now (.ok (.views views), store') :=
          h ▸ refunds_load hs now id
        cases hrefunds
  · rcases run_create merchant gross token feeBps lifetime now policy clock store with
      ⟨failure, hrun⟩ | ⟨_, _, _, _, _, hrun⟩
    · rw [hrun] at h
      cases h
    · rw [hrun] at h
      cases h

/-- Each view that an operation shows is that of a row as it is stored then. -/
theorem exists_row_of_mem_allViews [Nesting] (hs : store.Sound) (hs' : store'.Sound)
    {outcome : Outcome}
    {view : View} (h : (operation.call policy clock).run store = (.ok outcome, store'))
    (hview : view ∈ outcome.allViews) :
    ∃ row, store'.lookup row.id = some row ∧ view = .ofIntent row (operation.timeAt clock) := by
  have hends : Ends policy clock store operation (.ok outcome, store') :=
    h ▸ ends_run policy clock operation hs
  cases outcome with
  | created id shown =>
    exact hends.exists_row hs' (congrArg some (List.mem_singleton.mp hview).symm)
  | view shown => exact hends.exists_row hs' (congrArg some (List.mem_singleton.mp hview).symm)
  | views shown =>
    obtain ⟨merchant, now, rfl⟩ := eq_list_of_views hs h
    rw [call] at h
    cases hmerchant : Address.normalize "merchant" merchant with
    | error failure =>
      rw [hmerchant] at h
      cases h
    | ok merchant =>
      rw [hmerchant] at h
      cases h
      obtain ⟨row, hrow, rfl⟩ := List.mem_map.mp hview
      exact ⟨row, hs.lookup_of_mem (List.mem_of_mem_filter hrow), rfl⟩
  | unrelated => cases hview
  | holdings amounts => cases hview

end Operation

/-! ## What a response shows -/

/-- What a response has as its content, if anything, is its payload. -/
theorem Http.eq_of_ofPayload [Nesting] {payload shown : Value}
    (h : (Response.ofPayload payload).content = .json shown) : shown = payload := by
  unfold Response.ofPayload at h
  split at h
  · cases h
    rfl
  · cases h

namespace Rpc

/-- A response with an error gives no result. -/
theorem Response.result_of_toPayload {response : Response} {result : Value}
    (h : response.toPayload.field? "result" = some result) :
    response.error = none ∧ response.result = result := by
  rw [Response.toPayload] at h
  cases herror : response.error with
  | some error =>
    rw [herror] at h
    cases h
  | none =>
    rw [herror] at h
    exact ⟨rfl, Option.some.inj h⟩

/-- A body that is refused is answered with an error. -/
theorem Received.error_of_refused {v : Value} {response : Response}
    (h : Received.ofValue v = .refused response) : response.error ≠ none := by
  intro herror
  unfold Received.ofValue at h
  split at h
  · cases h
    cases herror
  · split at h
    · cases h
    · cases h
      cases herror

end Rpc

namespace Gateway

variable {gateway gateway' : Gateway}

/-- A result is served only for what is posted to a path of the protocol. -/
theorem post_of_result [Nesting] {request : Http.Request} {payload result : Value}
    (hcontent : (gateway.serve request).1.content = .json payload)
    (hresult : payload.field? "result" = some result) :
    Http.route? request.path = some .rpc ∧ request.method = "POST" := by
  unfold serve at hcontent
  dsimp only at hcontent
  split at hcontent
  · cases hcontent
  · unfold serveFully at hcontent
    split at hcontent
    · split at hcontent
      · cases hcontent
      · cases hcontent
        cases hresult
    · rename_i route hroute
      by_cases hmethod : request.method = route.method
      · cases route with
        | rpc => exact ⟨hroute, hmethod⟩
        | health =>
          rw [if_neg (not_not.mpr hmethod)] at hcontent
          cases hcontent
          cases hresult
      · rw [if_pos hmethod] at hcontent
        cases hcontent
        cases hresult

/-- A request that succeeds performs the operation that it asks for. -/
theorem exists_operation_of_outcomeOf [Nesting] {asked : Rpc.Request} {outcome : Outcome}
    (h : gateway.outcomeOf asked = .ok outcome) :
    ∃ operation, asked.operation = .ok operation
      ∧ perform operation gateway = (.ok outcome, (gateway.handle asked).2) := by
  cases hoperation : asked.operation with
  | error failure =>
    rw [(handle_of_error hoperation gateway).1] at h
    cases h
  | ok operation =>
    obtain ⟨houtcome, hstate⟩ := handle_of_ok hoperation gateway
    exact ⟨operation, rfl, Prod.ext (houtcome.symm.trans h) hstate.symm⟩

/-- Only a request that succeeds is answered without an error. -/
theorem exists_request_of_answer [Nesting] {v : Value} (h : (gateway.answer v).error = none) :
    ∃ asked outcome, Rpc.Received.ofValue v = .request asked
      ∧ gateway.outcomeOf asked = .ok outcome := by
  rw [answer] at h
  cases hreceived : Rpc.Received.ofValue v with
  | refused response =>
    rw [hreceived] at h
    exact absurd h (Rpc.Received.error_of_refused hreceived)
  | request asked =>
    rw [hreceived] at h
    refine ⟨asked, ?_⟩
    cases houtcome : gateway.outcomeOf asked with
    | error failure =>
      dsimp only at h
      rw [houtcome] at h
      cases h
    | ok outcome => exact ⟨outcome, rfl, rfl⟩

/-- A result that is served is that of an operation which a request has asked for. -/
theorem exists_outcome_of_result [Nesting] {request : Http.Request} {response : Http.Response}
    {payload result : Value} (h : gateway.serve request = (response, gateway'))
    (hcontent : response.content = .json payload)
    (hresult : payload.field? "result" = some result) :
    ∃ (asked : Rpc.Request) (operation : Operation) (outcome : Outcome),
      asked.operation = .ok operation ∧ perform operation gateway = (.ok outcome, gateway')
        ∧ result = outcome.toWire := by
  have hserved : (gateway.serve request).1.content = .json payload := by
    rw [h]
    exact hcontent
  obtain ⟨hpath, hmethod⟩ := post_of_result hserved hresult
  obtain ⟨method, path, body⟩ := request
  subst hmethod
  rw [serve_eq gateway hpath] at h
  rcases hread : Json.read body with (_ | container) | v
  · rw [hread] at h
    cases h
    obtain rfl := Http.eq_of_ofPayload hcontent
    cases (Rpc.Response.result_of_toPayload hresult).1
  · rw [hread] at h
    cases h
    cases hcontent
  · rw [hread] at h
    cases h
    obtain rfl := Http.eq_of_ofPayload hcontent
    obtain ⟨hnone, rfl⟩ := Rpc.Response.result_of_toPayload hresult
    obtain ⟨asked, outcome, hreceived, houtcome⟩ := exists_request_of_answer hnone
    obtain ⟨operation, hoperation, hperform⟩ := exists_operation_of_outcomeOf houtcome
    refine ⟨asked, operation, outcome, hoperation, ?_, ?_⟩
    · rw [answered, hreceived]
      exact hperform
    · rw [answer, hreceived]
      dsimp only
      rw [houtcome]
      rfl

/-! ## Reads -/

/-- Whether a view is read at a gateway at a time, and which gateway is left behind: the outcome of
an operation shows it, or the response to a request over HTTP, or the account of a transfer of a
confirmed block. -/
inductive Reads [Nesting] (gateway : Gateway) : Int → View → Gateway → Prop where
  | operation {operation : Operation} {outcome : Outcome} {view : View} {gateway' : Gateway}
      (h : perform operation gateway = (.ok outcome, gateway')) (hview : view ∈ outcome.allViews) :
      Reads gateway (operation.timeAt gateway.now) view gateway'
  | request {request : Http.Request} {response : Http.Response} {payload result : Value}
      {view : View} {gateway' : Gateway} (h : gateway.serve request = (response, gateway'))
      (hcontent : response.content = .json payload)
      (hresult : payload.field? "result" = some result) (hview : result.Shows view) :
      Reads gateway gateway.now view gateway'
  | transfer {block : Remote.Block} {transfer : Remote.Transfer} {view : View}
      {gateway' : Gateway}
      (h : confirmTransfer block transfer gateway = (.ok (some view), gateway')) :
      Reads gateway gateway.now view gateway'

variable {time : Int} {view : View}

/-- Whatever a view is read from, an operation has shown it. -/
theorem Reads.exists_operation [Nesting] (h : gateway.Reads time view gateway') :
    ∃ (operation : Operation) (outcome : Outcome),
      perform operation gateway = (.ok outcome, gateway') ∧ view ∈ outcome.allViews
        ∧ time = operation.timeAt gateway.now := by
  cases h with
  | operation h hview => exact ⟨_, _, h, hview, rfl⟩
  | request h hcontent hresult hview =>
    obtain ⟨asked, operation, outcome, hasked, hperform, rfl⟩ :=
      exists_outcome_of_result h hcontent hresult
    have htime := (Rpc.Request.plain_of_operation hasked).timeAt_eq gateway.now
    exact ⟨operation, outcome, hperform, Outcome.mem_allViews hview, htime.symm⟩
  | @transfer block transfer _ _ h =>
    unfold confirmTransfer at h
    split at h
    · cases h
    · rename_i payment _
      rcases hperform : perform (.markPaid payment none) gateway with ⟨failure | outcome, gateway''⟩
      · rw [hperform] at h
        dsimp only at h
        split at h
        · cases h
        · cases h
      · rw [hperform] at h
        obtain ⟨hview, rfl⟩ := Prod.mk.inj h
        refine ⟨_, outcome, hperform, ?_, rfl⟩
        cases outcome with
        | view shown =>
          cases hview
          exact List.mem_singleton_self view
        | _ => cases hview

/-- The store of a gateway that a read leaves behind is sound, and its rows have evolved. -/
theorem Reads.evolves [Nesting] (h : gateway.Reads time view gateway') (hs : gateway.store.Sound) :
    gateway'.store.Sound ∧ gateway.store.Evolves gateway'.store := by
  obtain ⟨operation, outcome, hperform, _, _⟩ := h.exists_operation
  have hkept := Store.kept_of_effect (P := fun store => gateway.store.Evolves store)
    fun _ h heffect => h.trans heffect.evolves
  have hafter := hkept.perform operation ⟨hs, .refl gateway.store⟩
  rwa [hperform] at hafter

/-- A view that is read is that of a row, as it is stored then. -/
theorem Reads.exists_row [Nesting] (h : gateway.Reads time view gateway')
    (hs : gateway.store.Sound) :
    ∃ row, gateway'.store.lookup row.id = some row ∧ view = .ofIntent row time := by
  obtain ⟨operation, outcome, hperform, hview, rfl⟩ := h.exists_operation
  have hrun : (operation.call gateway.policy gateway.now).run gateway.store
      = (.ok outcome, gateway'.store) := by
    obtain ⟨houtcome, rfl⟩ := Prod.mk.inj hperform
    exact Prod.ext houtcome rfl
  exact Operation.exists_row_of_mem_allViews hs (h.evolves hs).1 hrun hview

/-- Whatever has happened to a gateway, each view that is read has the status that its flags, its
expiry and its time say. Whatever happens afterwards, a later read of the same intent shows a status
that the first one has advanced to. -/
theorem status_advances [Nesting] (policy : Policy) (clock : Rat) (earlier between : List Event) :
    let gateway := (Gateway.fresh policy clock).after earlier
    ∀ time view first, gateway.Reads time view first →
      view.StatusFits time
        ∧ ∀ time' later second, (first.after between).Reads time' later second →
          later.id = view.id → time ≤ time' →
            ∃ status status' : Status, view.status = status.name ∧ later.status = status'.name
              ∧ status.Advances status' := by
  intro gateway time view first hfirst
  have hs : gateway.store.Sound := sound_after policy clock earlier
  obtain ⟨row, hrow, rfl⟩ := hfirst.exists_row hs
  refine ⟨View.statusFits_ofIntent row time, ?_⟩
  intro time' later second hsecond hid htime
  obtain ⟨hs₁, -⟩ := hfirst.evolves hs
  have hs₂ : (first.after between).store.Sound :=
    ((Store.kept_of_effect (P := fun _ => True) fun _ _ _ => trivial).after between
      ⟨hs₁, trivial⟩).1
  obtain ⟨hs₃, hlast⟩ := hsecond.evolves hs₂
  obtain ⟨row', hrow', rfl⟩ := hsecond.exists_row hs₂
  have hlookup : second.store.lookup row.id = some row' := by
    rwa [show (row'.id : Int) = row.id from hid] at hrow'
  obtain ⟨evolved, hevolved, hevolves⟩ := ((evolves_after hs₁ between).trans hlast) _ row hrow
  obtain rfl : row' = evolved := Option.some.inj (hlookup.symm.trans hevolved)
  exact ⟨row.statusAt time, row'.statusAt time', rfl, rfl,
    hevolves.advances_statusAt (hs₁.paid_of_lookup hrow) (hs₃.paid_of_lookup hrow') htime⟩

/-- An intent is read as it is paid, before it expires, and again long afterwards, when the clock
has been set back. -/
theorem status_advances_paid :
    let create : Operation := .create (.str "0x1111111111111111111111111111111111111111") (.int 5)
      (.str "GORR") .null .null none
    let gateway := (Gateway.fresh .standard 0).after [.perform create, .tick 100]
    ∃ view later first second, gateway.Reads 100 view first
      ∧ (first.after [.tick 7]).Reads 1000 later second
      ∧ view.StatusFits 100 ∧ view.status = "paid" ∧ later.status = "paid_expired"
      ∧ ∃ status status' : Status, view.status = status.name ∧ later.status = status'.name
        ∧ status.Advances status' := by
  intro create gateway
  let row : Intent :=
    { id := 1, merchant := "0x1111111111111111111111111111111111111111", token := "GORR"
      grossAmount := 5, feeBps := 250, feeAmount := 0, netAmount := 5, createdAt := 0, expiry := 900
      paid := true, payer := some "0x2222222222222222222222222222222222222222"
      paidAmount := some 5, txHash := none, blockNumber := none, paidAt := some 100
      refunded := false }
  let pay : Operation := .pay 1 (.str "2222222222222222222222222222222222222222") none
  let first := (perform pay gateway).2
  have hshown : (perform pay gateway).1.toOption.bind Outcome.view? = some (.ofIntent row 100) := by
    decide +kernel
  have hrow : first.store.lookup 1 = some row := by decide +kernel
  have hpay : perform pay gateway = (.ok (.view (.ofIntent row 100)), first) :=
    Prod.ext (Outcome.eq_ok_of_view? hshown) rfl
  have hnow : pay.timeAt gateway.now = 100 := by decide +kernel
  have hfirst : gateway.Reads 100 (.ofIntent row 100) first := by
    have hread : gateway.Reads (pay.timeAt gateway.now) (.ofIntent row 100) first :=
      .operation hpay (List.mem_singleton_self _)
    rwa [hnow] at hread
  have hs : (first.after [.tick 7]).store.Sound :=
    (hfirst.evolves (sound_after .standard 0 [.perform create, .tick 100])).1
  have hsecond : (first.after [.tick 7]).Reads 1000 (.ofIntent row 1000) (first.after [.tick 7]) :=
    .operation (perform_get hs hrow (some 1000)) (List.mem_singleton_self _)
  obtain ⟨hfits, hadvances⟩ := status_advances .standard 0 [.perform create, .tick 100] [.tick 7]
    100 (.ofIntent row 100) first hfirst
  exact ⟨_, _, first, _, hfirst, hsecond, hfits, by decide, by decide,
    hadvances 1000 _ _ hsecond rfl (by decide)⟩

end Gateway

end IntentGateway
