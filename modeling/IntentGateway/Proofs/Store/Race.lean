import IntentGateway.Proofs.Store.Evolution

/-! # Calls that race

Several calls use one store at the same time. Each takes its steps in their order, and between two
of them any other call may take some of its own; a schedule says whose turn it is. If the calls can
be followed step by step by the same calls running one at a time, then what a schedule leaves is
what some order of the calls leaves, and each call has its place in that order at one of its own
turns.
-/

namespace IntentGateway

/-- The outcome of a call that has ended. -/
def Call.outcome? {α : Type} : Call α → Option (Except Failure α)
  | .done outcome => some outcome
  | _ => none

/-- Whether the next step of a call records a settlement of the intent with an id. -/
def Call.settles {α : Type} (call : Call α) (store : Store) (id : Int) : Bool :=
  match call with
  | .settle other settlement _ =>
    decide (other = id) &&
      match store.settle other settlement with
      | .ok (effective, _) => effective
      | .error _ => false
  | _ => false

/-- Calls that use one store at the same time. -/
structure Race (α : Type) where
  calls : List (Call α)
  store : Store

namespace Race

variable {α : Type}

/-- One of the calls moves on. -/
def advance (how : Call α → Store → Call α × Store) (race : Race α) (caller : ℕ) : Race α :=
  match race.calls[caller]? with
  | none => race
  | some call =>
    { calls := race.calls.set caller (how call race.store).1, store := (how call race.store).2 }

/-- One of the calls takes its next step. -/
def turn (race : Race α) (caller : ℕ) : Race α :=
  race.advance Call.step caller

/-- One of the calls runs to its end without interruption. -/
def finish (race : Race α) (caller : ℕ) : Race α :=
  race.advance (fun call store => (.done (call.run store).1, (call.run store).2)) caller

/-- The calls take turns as a schedule says. -/
def turns (race : Race α) (schedule : List ℕ) : Race α :=
  schedule.foldl turn race

/-- The calls run one at a time in an order. -/
def serially (race : Race α) (order : List ℕ) : Race α :=
  order.foldl finish race

/-- Whether a schedule gives each call as many turns as it takes to end, and no more. -/
def completes (race : Race α) : List ℕ → Bool
  | [] => race.calls.all (·.outcome?.isSome)
  | caller :: schedule =>
    (race.calls[caller]?).any (·.outcome?.isNone) && (race.turn caller).completes schedule

/-- How many turns of a schedule record a settlement of the intent with an id. -/
def settlements (race : Race α) (id : Int) : List ℕ → ℕ
  | [] => 0
  | caller :: schedule =>
    (if (race.calls[caller]?).any (·.settles race.store id) then 1 else 0)
      + (race.turn caller).settlements id schedule

/-! ## Single moves -/

section Advance

variable {how : Call α → Store → Call α × Store} {race : Race α} {caller other : ℕ} {call : Call α}

theorem advance_of_some (h : race.calls[caller]? = some call) :
    race.advance how caller =
      { calls := race.calls.set caller (how call race.store).1
        store := (how call race.store).2 } := by
  rw [advance, h]

@[simp]
theorem length_calls_advance :
    (race.advance how caller).calls.length = race.calls.length := by
  rw [advance]
  split
  · rfl
  · exact List.length_set

/-- The call that moves on is as the move leaves it. -/
theorem calls_advance_self (h : race.calls[caller]? = some call) :
    (race.advance how caller).calls[caller]? = some (how call race.store).1 := by
  rw [advance_of_some h, List.getElem?_set_self (List.getElem?_eq_some_iff.mp h).1]

/-- The other calls stay where they are. -/
theorem calls_advance_of_ne (h : other ≠ caller) :
    (race.advance how caller).calls[other]? = race.calls[other]? := by
  rw [advance]
  split
  · rfl
  · exact List.getElem?_set_ne h.symm

end Advance

/-- A turn keeps the store sound, and its rows only evolve. -/
theorem sound_turn {race : Race α} (hs : race.store.Sound) (caller : ℕ) :
    (race.turn caller).store.Sound ∧ race.store.Evolves (race.turn caller).store := by
  cases hc : race.calls[caller]? with
  | none =>
    rw [turn, advance, hc]
    exact ⟨hs, .refl race.store⟩
  | some call =>
    have heffect := Call.effect_step hs call
    rw [turn, advance_of_some hc]
    exact ⟨heffect.sound hs, heffect.evolves⟩

/-- A call that has ended changes nothing when it is run again. -/
theorem finish_of_done {race : Race α} {caller : ℕ} {result : Except Failure α}
    (h : race.calls[caller]? = some (.done result)) : race.finish caller = race := by
  obtain ⟨hlt, hcall⟩ := List.getElem?_eq_some_iff.mp h
  have hset : race.calls.set caller (.done result) = race.calls := by
    rw [← hcall, List.set_getElem_self hlt]
  rw [finish, advance_of_some h]
  simp only [Call.run, hset]

/-! ## Following a race -/

/-- The next step of a call is matched by a call that is run as a whole: either that stands still,
or it runs to its end and leaves the same store. -/
def Matched (P : Store → Call α → Call α → Prop) (store : Store) (call serial : Call α) : Prop :=
  ((call.step store).2 = store ∧ P store (call.step store).1 serial) ∨
    (serial.outcome? = none ∧ (serial.run store).2 = (call.step store).2
      ∧ P (call.step store).2 (call.step store).1 (.done (serial.run store).1))

theorem Matched.still {P : Store → Call α → Call α → Prop} {store : Store}
    {call call' serial : Call α} (hstep : call.step store = (call', store))
    (h : P store call' serial) : Matched P store call serial := by
  left
  rw [hstep]
  exact ⟨rfl, h⟩

theorem Matched.run {P : Store → Call α → Call α → Prop} {store store' : Store}
    {call call' serial : Call α} {result : Except Failure α} (hopen : serial.outcome? = none)
    (hstep : call.step store = (call', store')) (hrun : serial.run store = (result, store'))
    (h : P store' call' (.done result)) : Matched P store call serial := by
  right
  rw [hstep, hrun]
  exact ⟨hopen, rfl, h⟩

/-- A way to follow each call of a race by the same call run as a whole. What relates the two is not
disturbed by what other calls do to the store. -/
structure Simulation (P : ℕ → Store → Call α → Call α → Prop) : Prop where
  step : ∀ {caller : ℕ} {store : Store} {call serial : Call α}, store.Sound →
    P caller store call serial → call.outcome? = none → Matched (P caller) store call serial
  stable : ∀ {caller : ℕ} {store store' : Store} {call serial : Call α}, store.Evolves store' →
    P caller store call serial → P caller store' call serial
  ended : ∀ {caller : ℕ} {store : Store} {result : Except Failure α} {serial : Call α},
    store.Sound → P caller store (.done result) serial → ∃ result', serial = .done result'

/-- A race is followed by another one of the same calls that has the same store. -/
structure Follows (P : ℕ → Store → Call α → Call α → Prop) (race serial : Race α) : Prop where
  sound : race.store.Sound
  store : serial.store = race.store
  length : serial.calls.length = race.calls.length
  calls : ∀ caller call serialCall, race.calls[caller]? = some call →
    serial.calls[caller]? = some serialCall → P caller race.store call serialCall

variable {P : ℕ → Store → Call α → Call α → Prop} {race serial : Race α}

theorem Follows.exists_serial (h : Follows P race serial) {caller : ℕ} {call : Call α}
    (hc : race.calls[caller]? = some call) :
    ∃ serialCall, serial.calls[caller]? = some serialCall
      ∧ P caller race.store call serialCall := by
  have hlt : caller < serial.calls.length := by
    rw [h.length]
    exact (List.getElem?_eq_some_iff.mp hc).1
  exact ⟨_, List.getElem?_eq_getElem hlt, h.calls _ _ _ hc (List.getElem?_eq_getElem hlt)⟩

/-- A turn is followed if the call whose turn it is is followed, and the others stand still. -/
theorem Follows.after_turn (hP : Simulation P) (h : Follows P race serial) {serial' : Race α}
    {caller : ℕ} {call : Call α} (hc : race.calls[caller]? = some call)
    (hstore : serial'.store = (call.step race.store).2)
    (hlength : serial'.calls.length = serial.calls.length)
    (hself : ∀ serialCall, serial'.calls[caller]? = some serialCall →
      P caller (call.step race.store).2 (call.step race.store).1 serialCall)
    (hothers : ∀ other, other ≠ caller → serial'.calls[other]? = serial.calls[other]?) :
    Follows P (race.turn caller) serial' := by
  obtain ⟨hsound, hevolves⟩ := sound_turn h.sound caller
  have hturn : (race.turn caller).store = (call.step race.store).2 := by
    rw [Race.turn, advance_of_some hc]
  refine ⟨hsound, ?_, ?_, fun other otherCall otherSerial ho hos => ?_⟩
  · rw [hstore, hturn]
  · rw [hlength, h.length, Race.turn, length_calls_advance]
  · by_cases hother : other = caller
    · subst hother
      rw [Race.turn, calls_advance_self hc, Option.some.injEq] at ho
      rw [← ho, hturn]
      exact hself otherSerial hos
    · -- to the other calls the turn is a change of the store under which rows evolve
      rw [Race.turn, calls_advance_of_ne hother] at ho
      rw [hothers other hother] at hos
      exact hP.stable hevolves (h.calls other otherCall otherSerial ho hos)

/-- A turn is followed by standing still, or by running the call whose turn it is. -/
theorem Follows.turn (hP : Simulation P) (h : Follows P race serial) {caller : ℕ} {call : Call α}
    (hc : race.calls[caller]? = some call) (hopen : call.outcome? = none) :
    Follows P (race.turn caller) serial ∨
      (∃ serialCall, serial.calls[caller]? = some serialCall ∧ serialCall.outcome? = none)
        ∧ Follows P (race.turn caller) (serial.finish caller) := by
  obtain ⟨serialCall, hserial, hphase⟩ := h.exists_serial hc
  rcases hP.step h.sound hphase hopen with ⟨hsame, hnext⟩ | ⟨hserialOpen, hrun, hnext⟩
  · left
    refine h.after_turn hP hc ?_ rfl (fun other ho => ?_) fun _ _ => rfl
    · rw [hsame, h.store]
    · rw [hserial, Option.some.injEq] at ho
      rw [← ho, hsame]
      exact hnext
  · right
    refine ⟨⟨serialCall, hserial, hserialOpen⟩, h.after_turn hP hc ?_ length_calls_advance
      (fun other ho => ?_) fun other hother => calls_advance_of_ne hother⟩
    · rw [finish, advance_of_some hserial, ← hrun, h.store]
    · rw [finish, calls_advance_self hserial, Option.some.injEq, h.store] at ho
      rw [← ho]
      exact hnext

/-- A call is open in a race. -/
def OpenAt (race : Race α) (caller : ℕ) : Prop :=
  ∃ call, race.calls[caller]? = some call ∧ call.outcome? = none

theorem openAt_of_completes {caller : ℕ} {schedule : List ℕ}
    (h : race.completes (caller :: schedule) = true) :
    race.OpenAt caller ∧ (race.turn caller).completes schedule = true := by
  rw [completes, Bool.and_eq_true, Option.any_eq_true] at h
  obtain ⟨⟨call, hc, hopen⟩, hrest⟩ := h
  exact ⟨⟨call, hc, Option.isNone_iff_eq_none.mp hopen⟩, hrest⟩

/-- A schedule that completes a race is followed by some order of calls, each of which is run at one
of its own turns. -/
theorem Follows.turns (hP : Simulation P) {schedule : List ℕ} (h : Follows P race serial)
    (hcomplete : race.completes schedule = true) :
    ∃ order : List ℕ, order.Sublist schedule ∧ order.Nodup
      ∧ (∀ caller ∈ order, serial.OpenAt caller)
      ∧ Follows P (race.turns schedule) (serial.serially order) := by
  induction schedule generalizing race serial with
  | nil => exact ⟨[], .refl [], .nil, by simp, h⟩
  | cons caller schedule ih =>
    obtain ⟨⟨call, hc, hopen⟩, hrest⟩ := openAt_of_completes hcomplete
    rcases h.turn hP hc hopen with hstill | ⟨hserialOpen, hrun⟩
    · obtain ⟨order, hsub, hnodup, hopens, hfollows⟩ := ih hstill hrest
      exact ⟨order, hsub.cons caller, hnodup, hopens, hfollows⟩
    · obtain ⟨order, hsub, hnodup, hopens, hfollows⟩ := ih hrun hrest
      -- the call that has just been run has ended, so it is not run again
      have hnot : caller ∉ order := by
        intro hmem
        obtain ⟨again, hagain, hopenAgain⟩ := hopens caller hmem
        obtain ⟨serialCall, hserial, _⟩ := hserialOpen
        rw [finish, calls_advance_self hserial, Option.some.injEq] at hagain
        rw [← hagain] at hopenAgain
        cases hopenAgain
      refine ⟨caller :: order, hsub.cons_cons caller, List.nodup_cons.mpr ⟨hnot, hnodup⟩, ?_,
        hfollows⟩
      intro other hmem
      rcases List.mem_cons.mp hmem with rfl | hmem
      · exact hserialOpen
      · obtain ⟨otherCall, hother, hotherOpen⟩ := hopens other hmem
        have hne : other ≠ caller := fun heq => hnot (heq ▸ hmem)
        rw [finish, calls_advance_of_ne hne] at hother
        exact ⟨otherCall, hother, hotherOpen⟩

/-! ## All calls in an order -/

/-- A schedule that completes a race leaves every call with a result. -/
theorem exists_result_of_completes {schedule : List ℕ} (h : race.completes schedule = true)
    {call : Call α} (hmem : call ∈ (race.turns schedule).calls) :
    ∃ result, call = .done result := by
  induction schedule generalizing race with
  | nil =>
    have hended := List.all_eq_true.mp h call hmem
    cases call with
    | done result => exact ⟨result, rfl⟩
    | _ => cases hended
  | cons caller schedule ih => exact ih (openAt_of_completes h).2 hmem

/-- A call that has a turn is open at the start. -/
theorem openAt_of_mem {schedule : List ℕ} (h : race.completes schedule = true) {caller : ℕ}
    (hmem : caller ∈ schedule) : race.OpenAt caller := by
  induction schedule generalizing race with
  | nil => cases hmem
  | cons first schedule ih =>
    obtain ⟨hopen, hrest⟩ := openAt_of_completes h
    by_cases hfirst : caller = first
    · exact hfirst ▸ hopen
    · obtain ⟨call, hc, hcallOpen⟩ := ih hrest ((List.mem_cons.mp hmem).resolve_left hfirst)
      rw [turn, calls_advance_of_ne hfirst] at hc
      exact ⟨call, hc, hcallOpen⟩

theorem length_calls_turns (race : Race α) (schedule : List ℕ) :
    (race.turns schedule).calls.length = race.calls.length := by
  induction schedule generalizing race with
  | nil => rfl
  | cons caller schedule ih => exact (ih (race.turn caller)).trans length_calls_advance

/-- A call that is not in an order stays where it is. -/
theorem calls_serially_of_not_mem {order : List ℕ} {caller : ℕ} (h : caller ∉ order)
    (race : Race α) : (race.serially order).calls[caller]? = race.calls[caller]? := by
  induction order generalizing race with
  | nil => rfl
  | cons first order ih =>
    rw [List.mem_cons, not_or] at h
    exact (ih h.2 (race.finish first)).trans (calls_advance_of_ne h.1)

/-- Calls that have all ended change nothing when they are run again. -/
theorem serially_of_ended (h : ∀ call ∈ race.calls, ∃ result, call = .done result)
    (order : List ℕ) : race.serially order = race := by
  induction order with
  | nil => rfl
  | cons caller order ih =>
    have hfinish : race.finish caller = race := by
      cases hc : race.calls[caller]? with
      | none => rw [finish, advance, hc]
      | some call =>
        obtain ⟨result, rfl⟩ := h call (List.mem_of_getElem? hc)
        exact finish_of_done hc
    rw [serially, List.foldl_cons, hfinish]
    exact ih

/-- What a schedule leaves is what some order of all the calls leaves, and each call that takes any
steps has its place in that order at one of its own turns. -/
theorem Simulation.linearizes (hP : Simulation P) (h : Follows P race race) {schedule : List ℕ}
    (hcomplete : race.completes schedule = true) :
    ∃ order : List ℕ, order.Perm (List.range race.calls.length)
      ∧ (order.filter (· ∈ schedule)).Sublist schedule
      ∧ Follows P (race.turns schedule) (race.serially order) := by
  obtain ⟨order, hsub, hnodup, hopens, hfollows⟩ := h.turns hP hcomplete
  have hended : ∀ call ∈ (race.serially order).calls, ∃ result, call = .done result := by
    intro serialCall hmem
    obtain ⟨caller, hlt, rfl⟩ := List.mem_iff_getElem.mp hmem
    have hlt' : caller < (race.turns schedule).calls.length := by
      rw [← hfollows.length]
      exact hlt
    obtain ⟨result, hresult⟩ := exists_result_of_completes hcomplete (List.getElem_mem hlt')
    have hcall := List.getElem?_eq_getElem hlt'
    rw [hresult] at hcall
    exact hP.ended hfollows.sound
      (hfollows.calls caller _ _ hcall (List.getElem?_eq_getElem hlt))
  -- a call that is not in the order has ended at the start, and takes no steps
  have hmem : ∀ caller ∈ schedule, caller ∈ order := by
    intro caller hcaller
    by_contra hnot
    obtain ⟨call, hc, hopen⟩ := openAt_of_mem hcomplete hcaller
    have hserial := calls_serially_of_not_mem hnot race
    rw [hc] at hserial
    obtain ⟨result, rfl⟩ := hended call (List.mem_of_getElem? hserial)
    cases hopen
  -- the calls that end without a step are put last
  let rest := (List.range race.calls.length).filter (· ∉ order)
  refine ⟨order ++ rest, ?_, ?_, ?_⟩
  · have hlt : ∀ caller ∈ order, caller < race.calls.length := by
      intro caller hcaller
      obtain ⟨call, hc, _⟩ := hopens caller hcaller
      exact (List.getElem?_eq_some_iff.mp hc).1
    have hall : (order ++ rest).Nodup := by
      refine List.Nodup.append hnodup (List.nodup_range.filter _) ?_
      intro caller hcaller hrest
      exact (of_decide_eq_true (List.mem_filter.mp hrest).2) hcaller
    refine (List.perm_ext_iff_of_nodup hall List.nodup_range).mpr fun caller => ?_
    simp only [rest, List.mem_append, List.mem_filter, List.mem_range, decide_eq_true_eq]
    by_cases hcaller : caller ∈ order
    · simp [hcaller, hlt caller hcaller]
    · simp [hcaller]
  · have hnone : rest.filter (· ∈ schedule) = [] := by
      rw [List.filter_eq_nil_iff]
      intro caller hrest hcaller
      exact of_decide_eq_true (List.mem_filter.mp hrest).2
        (hmem caller (of_decide_eq_true hcaller))
    rw [List.filter_append, hnone, List.append_nil]
    exact List.filter_sublist.trans hsub
  · have hsame : race.serially (order ++ rest) = race.serially order := by
      rw [serially, List.foldl_append]
      exact serially_of_ended hended rest
    rw [hsame]
    exact hfollows

/-! ## Settlements -/

/-- A turn that records a settlement finds the intent unpaid and leaves it paid. -/
theorem paid_of_settles (hs : race.store.Sound) {caller : ℕ} {call : Call α}
    (hc : race.calls[caller]? = some call) {id : Int} (h : call.settles race.store id = true) :
    (∃ intent, race.store.lookup id = some intent ∧ intent.paid = false)
      ∧ ∃ intent, (race.turn caller).store.lookup id = some intent ∧ intent.paid = true := by
  cases call with
  | settle other settlement next =>
    rw [Call.settles, Bool.and_eq_true, decide_eq_true_iff] at h
    obtain ⟨rfl, heffective⟩ := h
    cases hset : race.store.settle other settlement with
    | error e =>
      rw [hset] at heffective
      cases heffective
    | ok result =>
      rw [hset] at heffective
      rcases hs.settle_eq_ok hset with ⟨intent, hi, hp, _, hstore⟩ | ⟨heq, _⟩
      · refine ⟨⟨intent, hi, hp⟩, intent.settled settlement, ?_, rfl⟩
        rw [turn, advance_of_some hc]
        simp only [Call.step, hset, Call.afterWrite, hstore]
        exact Store.lookup_settled hi settlement
      · cases heq.symm.trans heffective
  | _ => cases h

/-- No turn records a settlement of an intent that has been paid. -/
theorem settlements_of_paid {id : Int} (schedule : List ℕ) (hs : race.store.Sound)
    (hpaid : ∃ intent, race.store.lookup id = some intent ∧ intent.paid = true) :
    race.settlements id schedule = 0 := by
  induction schedule generalizing race with
  | nil => rfl
  | cons caller schedule ih =>
    obtain ⟨intent, hi, hp⟩ := hpaid
    obtain ⟨hsound, hevolves⟩ := sound_turn hs caller
    have hnot : (race.calls[caller]?).any (·.settles race.store id) = false := by
      by_contra hsettles
      rw [Bool.not_eq_false, Option.any_eq_true] at hsettles
      obtain ⟨call, hc, hcall⟩ := hsettles
      obtain ⟨⟨unpaid, hu, hup⟩, _⟩ := paid_of_settles hs hc hcall
      rw [hi, Option.some.injEq] at hu
      rw [← hu, hp] at hup
      cases hup
    obtain ⟨later, hl, hlater⟩ := hevolves id intent hi
    rw [settlements, hnot, ih hsound ⟨later, hl, hlater.paid hp⟩]
    rfl

/-- An intent is settled at most once, whatever the schedule. -/
theorem settlements_le_one (id : Int) (schedule : List ℕ) (hs : race.store.Sound) :
    race.settlements id schedule ≤ 1 := by
  induction schedule generalizing race with
  | nil => exact Nat.zero_le 1
  | cons caller schedule ih =>
    obtain ⟨hsound, _⟩ := sound_turn hs caller
    rw [settlements]
    split
    · rename_i hsettles
      rw [Option.any_eq_true] at hsettles
      obtain ⟨call, hc, hcall⟩ := hsettles
      have hrest := settlements_of_paid schedule hsound (paid_of_settles hs hc hcall).2
      omega
    · have hrest := ih hsound
      omega

end Race

end IntentGateway
