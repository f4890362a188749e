import IntentGateway.Link.Retry
import IntentGateway.Link.Script
import IntentGateway.Proofs.Binary64.Range

/-! # How attempts fail

A request fails because the link does, or because the endpoint answers with a status that is no
success. Repeating an attempt adds two ways to fail (`PauseFails`): the delays overflow, but only if
more attempts are allowed than there are delays; and the link refuses to sleep that long.
-/

namespace IntentGateway

/-! ## Delays -/

/-- A rounded number has the sign that was asked for. -/
theorem Binary64.roundPositive_ne_infinite {negative : Bool} (numerator denominator : ℕ) :
    roundPositive negative numerator denominator ≠ .infinite (!negative) := by
  rw [roundPositive]
  split
  · intro h
    cases h
  · rw [assemble]
    split_ifs <;> simp

/-- No number of attempts is rounded to the negative infinity. -/
theorem Binary64.ofRat_natCast_ne_infinite (n : ℕ) : ofRat ((n : Int) : ℚ) ≠ .infinite true := by
  rw [ofRat, round]
  have hsign : (if ((n : Int) : ℚ).num = 0 then false else decide (((n : Int) : ℚ).num < 0))
      = false := by
    rw [Rat.num_intCast]
    split
    · rfl
    · exact decide_eq_false (by omega)
  rw [hsign]
  exact roundPositive_ne_infinite _ _

theorem Seconds.least_eq_min (a b : ℚ) : Seconds.least a b = min a b := by
  show (if decide (b < a) = true then b else a) = min a b
  simp only [decide_eq_true_eq]
  split
  · rename_i h
    exact (min_eq_right h.le).symm
  · rename_i h
    exact (min_eq_left (not_lt.mp h)).symm

variable {τ : Type} [Seconds τ]

/-- A delay overflows only behind the last attempt that has one. -/
theorem Backoff.delay_eq_error {attempt : ℕ} {base limit : τ} {failure : Failure}
    (h : delay attempt base limit = .error failure) :
    failure = .delayOverflow ∧ attemptLimit ≤ attempt := by
  rw [delay] at h
  split at h
  · rename_i hlimit
    cases h
    exact ⟨rfl, hlimit.resolve_right (Binary64.ofRat_natCast_ne_infinite attempt)⟩
  · cases h

/-- Below the limit of the attempts there is a delay before the next one. -/
theorem Backoff.delay_of_lt {attempt : ℕ} (h : attempt < 1024) (base limit : τ) :
    delay attempt base limit
      = .ok (Seconds.least (Seconds.mul base (Seconds.powerOfTwo attempt)) limit) := by
  have hbelow : ¬ (attemptLimit ≤ attempt ∨ Binary64.ofRat (attempt : Int) = .infinite true) := by
    rintro (hlimit | hinfinite)
    · rw [attemptLimit] at hlimit
      omega
    · exact Binary64.ofRat_natCast_ne_infinite attempt hinfinite
  rw [delay, if_neg hbelow]

/-- No attempt beyond the last one that has a delay is followed by another one. -/
theorem Backoff.lt_of_delay_eq_ok {attempt : ℕ} {base limit delay : τ}
    (h : Backoff.delay attempt base limit = .ok delay) : attempt < attemptLimit := by
  rw [Backoff.delay] at h
  split at h
  · cases h
  · rename_i hlimit
    omega

/-! ## Attempts -/

/-- How a request fails: the link does, or the endpoint answers with a status that is no success. -/
def Failure.IsHttp : Failure → Prop
  | .link _ => True
  | .status .. => True
  | _ => False

namespace Retry

variable {σ α : Type} {link : Link σ τ} {action : Action σ α}

/-- Waiting is sleeping after a draw, unless the delay overflows. -/
theorem pause_cases (retry : Retry τ) (link : Link σ τ) (attempt : ℕ) (s : σ) :
    (attempt < Backoff.attemptLimit
        ∧ ∃ delay, retry.pause link attempt s = link.sleep delay (link.draw s).2)
      ∨ Backoff.attemptLimit ≤ attempt
        ∧ retry.pause link attempt s = (.error .delayOverflow, s) := by
  unfold pause
  split
  · rename_i hdelay
    obtain ⟨rfl, hlimit⟩ := Backoff.delay_eq_error hdelay
    exact Or.inr ⟨hlimit, rfl⟩
  · rename_i hdelay
    exact Or.inl ⟨Backoff.lt_of_delay_eq_ok hdelay, _, rfl⟩

/-- How waiting after an attempt fails: its delay overflows, or the link refuses the sleep. -/
inductive PauseFails (link : Link σ τ) (attempt : ℕ) : Failure → Prop
  | overflow (hlimit : Backoff.attemptLimit ≤ attempt) : PauseFails link attempt .delayOverflow
  | refused {delay : τ} {s : σ} {failure : Failure}
      (h : (link.sleep delay s).1 = .error failure) : PauseFails link attempt failure

omit [Seconds τ] in
/-- On a link that refuses no sleep, waiting fails only by an overflow. -/
theorem PauseFails.eq_overflow (hsleeps : ∀ delay s, (link.sleep delay s).1 = .ok ())
    {attempt : ℕ} {failure : Failure} (h : PauseFails link attempt failure) :
    failure = .delayOverflow ∧ Backoff.attemptLimit ≤ attempt := by
  cases h with
  | overflow hlimit => exact ⟨rfl, hlimit⟩
  | refused h =>
    rw [hsleeps] at h
    cases h

/-- Whether what an attempt ends in is worth another one. -/
def IsWorthMore (ended : Except Failure α) : Prop :=
  ∃ failure, ended = .error failure ∧ failure.isRetryable = true

/-- A failure that is worth another attempt is followed by waiting and the attempts that are left.
-/
theorem attempts_of_worthMore (retry : Retry τ) (link : Link σ τ) (attempt left : ℕ) {s : σ}
    (h : IsWorthMore (action s).1) :
    retry.attempts link action attempt (left + 1) s =
      match retry.pause link attempt (action s).2 with
      | (.error failure, s') => (.error failure, s')
      | (.ok (), s') => retry.attempts link action (attempt + 1) left s' := by
  obtain ⟨failure, hfailed, hr⟩ := h
  have haction : action s = (.error failure, (action s).2) := Prod.ext hfailed rfl
  rw [attempts, haction]
  exact if_pos hr

/-- Whatever else an attempt ends in is the end of all. -/
theorem attempts_of_final (retry : Retry τ) (link : Link σ τ) (attempt left : ℕ) {s : σ}
    (h : ¬ IsWorthMore (action s).1) : retry.attempts link action attempt left s = action s := by
  cases left with
  | zero => rfl
  | succ left =>
    rw [attempts]
    rcases haction : action s with ⟨failure | a, s'⟩
    · have hr : ¬ failure.isRetryable = true := fun hr => h ⟨failure, by rw [haction], hr⟩
      exact if_neg hr
    · rfl

/-- Attempts are made until one ends otherwise than in a failure worth another one, or none are
left, or waiting before the next one fails. What is known of the surroundings after each attempt is
kept while waiting. -/
theorem attempts_end (retry : Retry τ) (link : Link σ τ) (action : Action σ α)
    (attempt left : ℕ) {I : ℕ → σ → Prop}
    (hsleep : ∀ n delay s, I n s → I n (link.sleep delay s).2)
    (hdraw : ∀ n s, I n s → I n (link.draw s).2)
    (haction : ∀ n s, I n s → I (n + 1) (action s).2) {n : ℕ} {s : σ} (hs : I n s) :
    ∃ more ≤ left,
      (∀ i < more, ((attempt + i : ℕ) : Int) < Backoff.attemptLimit
          ∧ ∃ t, I (n + i) t ∧ IsWorthMore (action t).1)
        ∧ I (n + more + 1) (retry.attempts link action attempt left s).2
        ∧ ∃ t, I (n + more) t
          ∧ ((retry.attempts link action attempt left s).1 = (action t).1
              ∧ (more < left → ¬ IsWorthMore (action t).1)
            ∨ ∃ failure, (retry.attempts link action attempt left s).1 = .error failure
              ∧ more < left ∧ PauseFails link (attempt + more) failure
              ∧ IsWorthMore (action t).1) := by
  induction left generalizing attempt n s with
  | zero => exact ⟨0, le_refl 0, nofun, haction n s hs, s, hs, Or.inl ⟨rfl, nofun⟩⟩
  | succ left ih =>
    by_cases hmore : IsWorthMore (action s).1
    · have hnext := retry.attempts_of_worthMore link attempt left hmore
      have hfirst := haction n s hs
      rcases retry.pause_cases link attempt (action s).2 with
        ⟨hbelow, delay, hpause⟩ | ⟨hlimit, hpause⟩
      · have hslept := hsleep _ delay _ (hdraw _ _ hfirst)
        rcases hsleeps : link.sleep delay (link.draw (action s).2).2 with ⟨failure | _, s'⟩
        · -- the link refuses to sleep, so there is no further attempt
          rw [hpause, hsleeps] at hnext
          rw [hsleeps] at hslept
          rw [hnext]
          exact ⟨0, Nat.zero_le _, nofun, hslept, s, hs,
            Or.inr ⟨failure, rfl, left.succ_pos, .refused (congrArg Prod.fst hsleeps), hmore⟩⟩
        · -- the attempts that follow begin with the surroundings after the delay
          rw [hpause, hsleeps] at hnext
          rw [hsleeps] at hslept
          obtain ⟨more, hle, hretried, hend, t, ht, hresult⟩ := ih (attempt + 1) hslept
          have hshift (i : ℕ) : n + (i + 1) = n + 1 + i := by omega
          rw [hnext]
          refine ⟨more + 1, by omega, ?_, hshift more ▸ hend, t, hshift more ▸ ht, ?_⟩
          · intro i hi
            cases i with
            | zero => exact ⟨hbelow, s, hs, hmore⟩
            | succ i =>
              obtain ⟨hbelow, hearlier⟩ := hretried i (by omega)
              exact ⟨by omega, (hshift i).symm ▸ hearlier⟩
          · have hindex : attempt + 1 + more = attempt + (more + 1) := by omega
            rcases hresult with ⟨hresult, hfinal⟩ | ⟨failure, hresult, hleft, hpause, hlast⟩
            · exact Or.inl ⟨hresult, fun h => hfinal (by omega)⟩
            · exact Or.inr ⟨failure, hresult, by omega, hindex ▸ hpause, hlast⟩
      · rw [hpause] at hnext
        rw [hnext]
        exact ⟨0, Nat.zero_le _, nofun, hfirst, s, hs,
          Or.inr ⟨_, rfl, left.succ_pos, .overflow hlimit, hmore⟩⟩
    · rw [retry.attempts_of_final link attempt (left + 1) hmore]
      exact ⟨0, Nat.zero_le _, nofun, haction n s hs, s, hs, Or.inl ⟨rfl, fun _ => hmore⟩⟩

/-- Attempts fail like the action does that is attempted, or waiting between them fails. What the
action and waiting keep of the surroundings is known before each attempt. -/
theorem attempts_eq_error {I : σ → Prop} (retry : Retry τ)
    (hsleep : ∀ delay s, I s → I (link.sleep delay s).2)
    (hdraw : ∀ s, I s → I (link.draw s).2) (haction : ∀ s, I s → I (action s).2)
    {attempt left : ℕ} {s : σ} (hs : I s) {failure : Failure}
    (h : (retry.attempts link action attempt left s).1 = .error failure) :
    (∃ s', I s' ∧ (action s').1 = .error failure)
      ∨ ∃ more < left, PauseFails link (attempt + more) failure := by
  obtain ⟨more, _, _, _, t, ht, hresult⟩ := retry.attempts_end link action attempt left
    (I := fun _ => I) (n := 0) (fun _ => hsleep) (fun _ => hdraw) (fun _ => haction) hs
  rw [h] at hresult
  rcases hresult with ⟨hresult, _⟩ | ⟨_, hresult, hleft, hpause, _⟩
  · exact Or.inl ⟨t, ht, hresult.symm⟩
  · cases hresult
    exact Or.inr ⟨more, hleft, hpause⟩

variable {I : σ → Prop}

/-- The same of as many attempts as are allowed, if any are. -/
theorem run_eq_error (retry : Retry τ) (hsleep : ∀ delay s, I s → I (link.sleep delay s).2)
    (hdraw : ∀ s, I s → I (link.draw s).2) (haction : ∀ s, I s → I (action s).2) {s : σ}
    (hs : I s) {failure : Failure} (h : (retry.run link action s).1 = .error failure) :
    (retry.maxRetries < 0 ∧ failure = .noAttempt)
      ∨ (∃ s', I s' ∧ (action s').1 = .error failure)
      ∨ ∃ attempt : ℕ, attempt < retry.maxRetries ∧ PauseFails link attempt failure := by
  rw [run] at h
  split at h
  · rename_i hnone
    cases h
    exact Or.inl ⟨hnone, rfl⟩
  · rename_i hsome
    right
    rcases attempts_eq_error retry hsleep hdraw haction hs h with hfails | ⟨more, hmore, hpause⟩
    · exact Or.inl hfails
    · rw [Nat.zero_add] at hpause
      exact Or.inr ⟨more, by omega, hpause⟩

/-- A failure that is not worth another attempt is that of the whole. -/
theorem run_of_not_retryable {retry : Retry τ} (hsome : 0 ≤ retry.maxRetries) {s s' : σ}
    {failure : Failure} (h : action s = (.error failure, s')) (hr : failure.isRetryable = false) :
    retry.run link action s = (.error failure, s') := by
  rw [run, if_neg (by omega), attempts_of_final, h]
  rw [h]
  rintro ⟨_, ⟨⟩, hmore⟩
  rw [hr] at hmore
  cases hmore

end Retry

/-! ## Scripts -/

namespace Link.Script

/-- A script refuses no sleep. -/
theorem sleep_taken (delay : τ) (script : Script τ) : (link.sleep delay script).1 = .ok () :=
  rfl

/-- Whether the requests into a script fail only in the ways of requests. -/
def FailsByHttp (script : Script τ) : Prop :=
  ∀ reply ∈ script.replies, ∀ request failure, reply.answer request = .error failure →
    failure.IsHttp

theorem FailsByHttp.send {script : Script τ} (h : script.FailsByHttp) (request : Value) :
    (Script.send request script).2.FailsByHttp := by
  rw [Script.send]
  split
  · exact h
  · rename_i reply replies hreplies
    intro other hmem
    exact h other (hreplies ▸ List.mem_cons_of_mem reply hmem)

theorem FailsByHttp.draw {script : Script τ} (h : script.FailsByHttp) :
    script.draw.2.FailsByHttp := by
  rw [Script.draw]
  split <;> exact h

/-- A request into such a script fails in the ways of requests. -/
theorem FailsByHttp.isHttp {script : Script τ} (h : script.FailsByHttp) {request : Value}
    {failure : Failure} (hfail : (Script.send request script).1 = .error failure) :
    failure.IsHttp := by
  rw [Script.send] at hfail
  split at hfail
  · cases hfail
    trivial
  · rename_i reply replies hreplies
    exact h reply (hreplies ▸ List.mem_cons_self) request failure hfail

end Link.Script

end IntentGateway
