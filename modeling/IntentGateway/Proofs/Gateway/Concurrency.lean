import IntentGateway.Proofs.Gateway.Event
import IntentGateway.Proofs.Gateway.Phase

/-! # Requests that race

Any number of requests to settle and to refund may be under way at the same time. However their
steps are interleaved, the gateway is left as if they had been served one at a time, each at one of
its own steps, and each of them ends as it does then. An intent is settled by at most one of them,
and all of them show the payment that is recorded at the end.
-/

namespace IntentGateway

open Operation (Errand Phase)

namespace Gateway

section

variable [Nesting]

/-- The race of operations that have each been asked for at a time of the clock. -/
def race (gateway : Gateway) (requests : List (Int × Operation)) : Race Outcome :=
  { calls := requests.map fun request => request.2.call gateway.policy request.1
    store := gateway.store }

/-- The errand that a request comes down to, if it comes to one. -/
def errand? (request : Int × Operation) : Option Errand :=
  match request.2.errand request.1 with
  | .ok errand => errand
  | .error _ => none

theorem errand_of_errand? {request : Int × Operation} {errand : Errand}
    (h : errand? request = some errand) : request.2.errand request.1 = .ok (some errand) := by
  rw [errand?] at h
  split at h
  · rename_i hr
    rw [hr, h]
  · cases h

/-- What relates a call of a race to the call that is run in its place: a phase of the errand that
was asked for. A request that comes to no errand has ended at the start. -/
def Tracks (requests : List (Int × Operation)) (caller : ℕ) (store : Store)
    (call serial : Call Outcome) : Prop :=
  match (requests[caller]?).bind errand? with
  | some errand => Phase store errand call serial
  | none => ∃ result, call = .done result ∧ serial = .done result
      ∧ ∀ view, result ≠ .ok (.view view)

section Tracks

variable {requests : List (Int × Operation)} {caller : ℕ} {store : Store}

theorem Tracks.phase {call serial : Call Outcome} (h : Tracks requests caller store call serial)
    {errand : Errand} (he : (requests[caller]?).bind errand? = some errand) :
    Phase store errand call serial := by
  rw [Tracks, he] at h
  exact h

theorem Tracks.of_none {call serial : Call Outcome} (h : Tracks requests caller store call serial)
    (he : (requests[caller]?).bind errand? = none) :
    ∃ result, call = .done result ∧ serial = .done result
      ∧ ∀ view, result ≠ .ok (.view view) := by
  rw [Tracks, he] at h
  exact h

/-- A request that has ended, ends as the call that is run in its place. -/
theorem Tracks.endsAlike {result : Except Failure Outcome} {serial : Call Outcome}
    (hs : store.Sound) (h : Tracks requests caller store (.done result) serial) :
    ∃ result', serial = .done result' ∧ EndsAlike result result' := by
  cases he : (requests[caller]?).bind errand? with
  | none =>
    obtain ⟨_, hcall, rfl, _⟩ := h.of_none he
    cases hcall
    exact ⟨result, rfl, .same result⟩
  | some errand =>
    obtain ⟨result', hserial, hends, _⟩ := (h.phase he).of_ended hs
    exact ⟨result', hserial, hends⟩

/-- An errand that has ended with an outcome shows its row. -/
theorem Tracks.shows {outcome : Outcome} {serial : Call Outcome} (hs : store.Sound)
    (h : Tracks requests caller store (.done (.ok outcome)) serial) {errand : Errand}
    (he : (requests[caller]?).bind errand? = some errand) : errand.Shows store outcome := by
  obtain ⟨_, _, _, hshows⟩ := (h.phase he).of_ended hs
  exact hshows outcome rfl

end Tracks

/-- The calls of requests can be followed. -/
theorem simulation (requests : List (Int × Operation)) : Race.Simulation (Tracks requests) where
  step {caller store call serial} hs h hopen := by
    unfold Tracks at h ⊢
    split at h
    · exact h.matched hs hopen
    · obtain ⟨result, rfl, _⟩ := h
      cases hopen
  stable {caller store store' call serial} he h := by
    unfold Tracks at h ⊢
    split at h
    · exact h.stable he
    · exact h
  ended {caller store result serial} hs h := by
    obtain ⟨result', hserial, _⟩ := h.endsAlike hs
    exact ⟨result', hserial⟩

/-- At the start each call can be followed by itself. -/
theorem follows_race {gateway : Gateway} (hs : gateway.store.Sound)
    {requests : List (Int × Operation)}
    (hupdates : ∀ request ∈ requests, request.2.updates = true) :
    Race.Follows (Tracks requests) (gateway.race requests) (gateway.race requests) := by
  refine ⟨hs, rfl, rfl, fun caller call serial hc hserial => ?_⟩
  rw [hc, Option.some.injEq] at hserial
  subst hserial
  simp only [race, List.getElem?_map, Option.map_eq_some_iff] at hc
  obtain ⟨request, hrequest, rfl⟩ := hc
  have hcall := Operation.call_of_updates (hupdates request (List.mem_of_getElem? hrequest))
    gateway.policy request.1
  rw [Tracks, hrequest, Option.bind_some, errand?, hcall]
  rcases request.2.errand request.1 with failure | (_ | errand)
  · refine ⟨.error failure, rfl, rfl, fun view h => ?_⟩
    cases h
  · refine ⟨.ok .unrelated, rfl, rfl, fun view h => ?_⟩
    cases h
  · show Phase gateway.store errand errand.call errand.call
    by_cases hid : errand.id ≤ Store.maxId
    · exact .unread errand hid
    · -- no id beyond the greatest one is looked up, so the call has ended
      have hfailed : errand.call = .done (.error (Operation.notFound errand.id)) := by
        rw [Errand.call, Operation.load, if_pos (Int.not_le.mp hid)]
        rfl
      rw [hfailed]
      exact .failed errand _

omit [Nesting] in
/-- What a request has shown is what the row of its intent records. -/
theorem row_of_shows {errand : Errand} {store : Store} {outcome : Outcome}
    (h : errand.Shows store outcome) {view : View} (hview : outcome = .view view) :
    view.id = errand.id ∧ ∃ row, store.lookup view.id = some row ∧ view.payer = row.payer
      ∧ view.txHash = row.txHash ∧ view.blockNumber = row.blockNumber
      ∧ view.paidAt = row.paidAt := by
  obtain ⟨shown, now, row, houtcome, hl, hevolves, hp, _⟩ := h
  rw [houtcome, Outcome.view.injEq] at hview
  subst hview
  have hid : (shown.id : Int) = errand.id := by
    rw [← hevolves.id]
    exact Store.id_of_lookup hl
  have hpayment := hevolves.payment hp
  refine ⟨hid, row, ?_, ?_⟩
  · rw [View.ofIntent, hid]
    exact hl
  · simp only [View.ofIntent, hpayment, and_self]

/-- However requests to settle and to refund are interleaved, some order of serving them one at a
time leaves the same store and makes each of them end alike, and each that takes any steps has its
place in that order at one of its own. No intent is settled twice, a refund that succeeds shows
itself, and every view shows the payment that is recorded at the end. -/
theorem race_linearizes (policy : Policy) (clock : Rat) (events : List Event)
    {requests : List (Int × Operation)} (hupdates : ∀ request ∈ requests, request.2.updates = true)
    {schedule : List ℕ}
    (hcomplete : (((Gateway.fresh policy clock).after events).race requests).completes schedule
      = true) :
    let race := ((Gateway.fresh policy clock).after events).race requests
    let final := race.turns schedule
    (∃ order : List ℕ, order.Perm (List.range requests.length)
        ∧ (order.filter (· ∈ schedule)).Sublist schedule
        ∧ (race.serially order).store = final.store
        ∧ ∀ caller < requests.length, ∃ result result',
          final.calls[caller]? = some (.done result)
            ∧ (race.serially order).calls[caller]? = some (.done result')
            ∧ EndsAlike result result')
      ∧ (∀ id, race.settlements id schedule ≤ 1)
      ∧ ∀ (caller : ℕ) (now : Int) (operation : Operation) (outcome : Outcome),
        requests[caller]? = some (now, operation) →
        final.calls[caller]? = some (.done (.ok outcome)) →
        (∀ id time, operation = .refund id time →
            ∃ view : View, outcome = .view view ∧ view.refunded = true)
          ∧ ∀ view : View, outcome = .view view → operation.subject? race.store = some view.id
            ∧ ∃ row, final.store.lookup view.id = some row ∧ view.payer = row.payer
              ∧ view.txHash = row.txHash ∧ view.blockNumber = row.blockNumber
              ∧ view.paidAt = row.paidAt := by
  intro race final
  have hs : race.store.Sound := sound_after policy clock events
  obtain ⟨order, hperm, hplaced, hfollows⟩ :=
    (simulation requests).linearizes (follows_race hs hupdates) hcomplete
  have hlength : race.calls.length = requests.length := List.length_map ..
  refine ⟨⟨order, hlength ▸ hperm, hplaced, hfollows.store, fun caller hcaller => ?_⟩,
    fun id => Race.settlements_le_one id schedule hs,
    fun caller now operation outcome hrequest hfinal => ?_⟩
  · -- each caller ends in the serial run as in the race
    have hlt : caller < final.calls.length := by
      rw [Race.length_calls_turns, hlength]
      exact hcaller
    have hcall := List.getElem?_eq_getElem hlt
    obtain ⟨result, hresult⟩ :=
      Race.exists_result_of_completes hcomplete (List.getElem_mem hlt)
    rw [hresult] at hcall
    obtain ⟨serialCall, hserial, htracks⟩ := hfollows.exists_serial hcall
    obtain ⟨result', rfl, hends⟩ := htracks.endsAlike hfollows.sound
    exact ⟨result, result', hcall, hserial, hends⟩
  · -- what a caller is shown is read off its serial call
    obtain ⟨serialCall, _, htracks⟩ := hfollows.exists_serial hfinal
    refine ⟨?_, fun view hview => ?_⟩
    · rintro id time rfl
      have herrand : (requests[caller]?).bind errand? = some (.refund id (time.getD now)) := by
        rw [hrequest]
        rfl
      obtain ⟨shown, at', _, rfl, _, _, _, hrefunded⟩ :=
        htracks.shows hfollows.sound herrand
      exact ⟨.ofIntent shown at', rfl, hrefunded rfl⟩
    · cases herrand : (requests[caller]?).bind errand? with
      | none =>
        obtain ⟨result, hresult, _, hnot⟩ := htracks.of_none herrand
        cases hresult
        exact absurd (congrArg Except.ok hview) (hnot view)
      | some errand =>
        obtain ⟨hid, hrow⟩ := row_of_shows (htracks.shows hfollows.sound herrand) hview
        rw [hrequest] at herrand
        refine ⟨?_, hrow⟩
        rw [Operation.subject?_of_errand (errand_of_errand? herrand), hid]

end

/-- Two payers and a refund race for a new intent. The second payer reads it while it is open, and
comes to update it when it has been refunded. -/
theorem race_linearizes_two_payers :
    let address := "0x1111111111111111111111111111111111111111"
    let created : List Event :=
      [.perform (.create (.str address) (.int 5) (.str "GORR") .null .null none)]
    let requests : List (Int × Operation) :=
      [(1, .pay 1 (.str address) none), (2, .pay 1 (.str address) none), (3, .refund 1 none)]
    let schedule := [0, 1, 0, 2, 2, 1, 1, 0, 2]
    let race := ((Gateway.fresh .standard 0).after created).race requests
    (∀ request ∈ requests, request.2.updates = true) ∧ race.completes schedule = true
      ∧ race.settlements 1 schedule = 1
      ∧ ∃ order : List ℕ, order.Perm (List.range 3)
        ∧ (order.filter (· ∈ schedule)).Sublist schedule
        ∧ (race.serially order).store = (race.turns schedule).store := by
  intro address created requests schedule race
  have hupdates : ∀ request ∈ requests, request.2.updates = true := by
    simp [requests, Operation.updates]
  have hcomplete : race.completes schedule = true := by decide +kernel
  obtain ⟨order, hperm, hplaced, hstore, _⟩ :=
    (race_linearizes .standard 0 created hupdates hcomplete).1
  exact ⟨hupdates, hcomplete, by decide +kernel, order, hperm, hplaced, hstore⟩

end Gateway

end IntentGateway
