import IntentGateway.Proofs.Client.Session
import IntentGateway.Proofs.Watcher.Scan

/-! # Waiting for a receipt

A wait is a row of polls with one sleep after each but the last (`Client.Waits`). The row goes on as
long as polls find nothing before the deadline, and the last poll concludes it, by a receipt, by
another failure, or by having found nothing when the deadline has come (`Client.Concludes`). There
are two more ends, which no poll has a part in: the power of two behind the delays has a limit, so
the poll of index 1024 is the last one even if the deadline is far away; and a link may refuse to
sleep (`Client.SleepRefused`). Times are exact here.
-/

namespace IntentGateway

/-! ## Delays -/

/-- Below the limit of the attempts a delay doubles with each of them. -/
theorem Backoff.delay_eq {attempt : ℕ} (h : attempt < 1024) (base limit : ℚ) :
    delay attempt base limit = .ok (min (base * 2 ^ attempt) limit) := by
  rw [delay_of_lt h, Seconds.least_eq_min]
  rfl

theorem Backoff.delay_of_limit {attempt : ℕ} (h : 1024 ≤ attempt) (base limit : ℚ) :
    delay attempt base limit = .error .delayOverflow := by
  have hlimit : attemptLimit ≤ attempt := by
    rw [attemptLimit]
    omega
  rw [delay, if_pos (Or.inl hlimit)]

namespace Client

theorem pollDelay_eq {attempt : ℕ} (h : attempt < 1024) (interval left : ℚ) :
    pollDelay interval left attempt
      = .ok (min (min (interval * 2 ^ attempt) (8 * interval)) left) := by
  rw [pollDelay, Backoff.delay_eq h]
  show Except.ok (Seconds.least (min (interval * 2 ^ attempt) (interval * 8)) left) = _
  rw [Seconds.least_eq_min, mul_comm interval 8]

theorem pollDelay_of_limit {attempt : ℕ} (h : 1024 ≤ attempt) (interval left : ℚ) :
    pollDelay interval left attempt = .error .delayOverflow := by
  rw [pollDelay, Backoff.delay_of_limit h]
  rfl

/-! ## The polls of a wait -/

section Wait

variable {σ : Type} (endpoint : Endpoint σ ℚ) (txHash : Value) (interval deadline : ℚ)

variable [Nesting]

/-- The connection after a poll. -/
def polled (connection : Connection σ) : Connection σ :=
  (getReceipt endpoint txHash connection).2

/-- The time at the end of a poll. -/
def timePolled (connection : Connection σ) : ℚ :=
  endpoint.link.time (polled endpoint txHash connection).surroundings

/-- Whether a poll finds nothing, and ends before the deadline. -/
structure FindsNothing (connection : Connection σ) : Prop where
  notIndexed : ∃ failure, (getReceipt endpoint txHash connection).1 = .error failure
    ∧ isNotIndexed failure = true
  early : timePolled endpoint txHash connection < deadline

/-- Whether the poll of an index finds nothing, and one sleep follows it, with an end and the
connection that it leaves: for the interval, doubled as often as there have been polls before but at
most eight times as long, and within the time that is left. -/
structure Sleeps (index : ℕ) (connection : Connection σ) (ended : Except Failure Unit)
    (next : Connection σ) : Prop where
  nothing : FindsNothing endpoint txHash deadline connection
  sleep : ∃ delay s, delay = min (min (interval * 2 ^ index) (8 * interval))
      (deadline - timePolled endpoint txHash connection)
    ∧ 0 < delay ∧ timePolled endpoint txHash connection + delay ≤ deadline
    ∧ endpoint.link.sleep delay (polled endpoint txHash connection).surroundings = (ended, s)
    ∧ next = { polled endpoint txHash connection with surroundings := s }

/-- Whether the poll of an index finds nothing, and one sleep leads to the next poll. -/
abbrev SleepsAfter (index : ℕ) (connection next : Connection σ) : Prop :=
  Sleeps endpoint txHash interval deadline index connection (.ok ()) next

/-- Whether a wait ends because the link refuses the sleep after the poll of an index. -/
inductive SleepRefused (index : ℕ) (connection : Connection σ) :
    Except Failure Remote.Receipt × Connection σ → Prop where
  | intro {refusal : Failure} {after : Connection σ}
      (h : Sleeps endpoint txHash interval deadline index connection (.error refusal) after) :
      SleepRefused index connection (.error refusal, after)

/-- Polls with their sleeps, from the poll of an index to another one that is still to be made. -/
inductive Waits : ℕ → Connection σ → ℕ → Connection σ → Prop where
  | none (index : ℕ) (connection : Connection σ) : Waits index connection index connection
  | more {index last : ℕ} {connection next final : Connection σ}
      (h : SleepsAfter endpoint txHash interval deadline index connection next)
      (rest : Waits (index + 1) next last final) : Waits index connection last final

/-- How the last poll of a wait concludes it. -/
inductive Concludes (connection : Connection σ) :
    Except Failure Remote.Receipt × Connection σ → Prop where
  | receipt {receipt : Remote.Receipt} {after : Connection σ}
      (h : getReceipt endpoint txHash connection = (.ok receipt, after)) :
      Concludes connection (.ok receipt, after)
  | failed {failure : Failure} {after : Connection σ}
      (h : getReceipt endpoint txHash connection = (.error failure, after))
      (hother : isNotIndexed failure = false) : Concludes connection (.error failure, after)
  | late {failure : Failure} {after : Connection σ}
      (h : getReceipt endpoint txHash connection = (.error failure, after))
      (hnot : isNotIndexed failure = true)
      (hlate : deadline ≤ endpoint.link.time after.surroundings) :
      Concludes connection (.error failure, after)

variable {endpoint txHash interval deadline}

/-- What concludes a wait is what its last poll comes to. -/
theorem Concludes.eq {connection : Connection σ}
    {ended : Except Failure Remote.Receipt × Connection σ}
    (h : Concludes endpoint txHash deadline connection ended) :
    ended = getReceipt endpoint txHash connection := by
  cases h with
  | receipt h => exact h.symm
  | failed h _ => exact h.symm
  | late h _ _ => exact h.symm

/-- No poll concludes a wait that finds nothing before the deadline. -/
theorem FindsNothing.not_concludes {connection : Connection σ}
    (h : FindsNothing endpoint txHash deadline connection)
    (ended : Except Failure Remote.Receipt × Connection σ) :
    ¬ Concludes endpoint txHash deadline connection ended := by
  obtain ⟨⟨failure, hfailure, hnot⟩, hearly⟩ := h
  rintro (hpoll | ⟨hpoll, hother⟩ | ⟨hpoll, _, hlate⟩)
  · rw [hpoll] at hfailure
    cases hfailure
  · rw [hpoll] at hfailure
    cases hfailure
    rw [hnot] at hother
    cases hother
  · rw [timePolled, polled, hpoll] at hearly
    exact absurd hlate (not_le.mpr hearly)

theorem timeLeft_eq (connection : Connection σ) :
    Seconds.sub deadline (endpoint.link.time (polled endpoint txHash connection).surroundings)
      = deadline - timePolled endpoint txHash connection :=
  rfl

/-- The test after a poll that finds nothing before the deadline lets the wait go on. -/
theorem FindsNothing.goes_on {connection : Connection σ}
    (h : FindsNothing endpoint txHash deadline connection) :
    ∃ failure, getReceipt endpoint txHash connection
        = (.error failure, polled endpoint txHash connection)
      ∧ ¬ (!isNotIndexed failure || Seconds.le (Seconds.sub deadline
        (endpoint.link.time (polled endpoint txHash connection).surroundings))
        (Seconds.ofRat 0)) = true := by
  obtain ⟨⟨failure, hfailure, hnot⟩, hearly⟩ := h
  refine ⟨failure, Prod.ext hfailure rfl, ?_⟩
  rw [hnot, Bool.not_true, Bool.false_or]
  exact fun hends => absurd (of_decide_eq_true hends) (not_le.mpr (sub_pos.mpr hearly))

section Delay

variable {connection : Connection σ} (h : FindsNothing endpoint txHash deadline connection)
  {attempt : ℕ} {delay : ℚ}
  (hdelay : pollDelay interval (deadline - timePolled endpoint txHash connection) attempt
    = .ok delay) (pollsLeft : ℕ) {s : σ}
include h hdelay

/-- If there is a delay after such a poll, the wait goes on with the next poll after one sleep. -/
theorem pollReceipt_of_delay
    (hslept : endpoint.link.sleep delay (polled endpoint txHash connection).surroundings
      = (.ok (), s)) :
    pollReceipt endpoint txHash interval deadline attempt (pollsLeft + 1) connection
      = pollReceipt endpoint txHash interval deadline (attempt + 1) pollsLeft
        { polled endpoint txHash connection with surroundings := s } := by
  obtain ⟨failure, hpoll, hgoes⟩ := h.goes_on
  rw [pollReceipt, hpoll]
  dsimp only
  rw [if_neg hgoes, timeLeft_eq, hdelay]
  dsimp only
  rw [hslept]

/-- If that sleep is refused, so is the wait. -/
theorem pollReceipt_of_refusal {refusal : Failure}
    (hslept : endpoint.link.sleep delay (polled endpoint txHash connection).surroundings
      = (.error refusal, s)) :
    pollReceipt endpoint txHash interval deadline attempt (pollsLeft + 1) connection
      = (.error refusal, { polled endpoint txHash connection with surroundings := s }) := by
  obtain ⟨failure, hpoll, hgoes⟩ := h.goes_on
  rw [pollReceipt, hpoll]
  dsimp only
  rw [if_neg hgoes, timeLeft_eq, hdelay]
  dsimp only
  rw [hslept]

end Delay

/-- If the delay overflows, so does the wait. -/
theorem pollReceipt_of_overflow {connection : Connection σ}
    (h : FindsNothing endpoint txHash deadline connection) {attempt : ℕ} {overflow : Failure}
    (hdelay : pollDelay interval (deadline - timePolled endpoint txHash connection) attempt
      = .error overflow) (pollsLeft : ℕ) :
    pollReceipt endpoint txHash interval deadline attempt pollsLeft connection
      = (.error overflow, polled endpoint txHash connection) := by
  obtain ⟨failure, hpoll, hgoes⟩ := h.goes_on
  rw [pollReceipt.eq_def]
  dsimp only
  rw [hpoll]
  dsimp only
  rw [if_neg hgoes, timeLeft_eq, hdelay]

/-- Any other poll is the last one, and concludes the wait. -/
theorem concludes_pollReceipt {connection : Connection σ}
    (h : ¬ FindsNothing endpoint txHash deadline connection) (attempt pollsLeft : ℕ) :
    Concludes endpoint txHash deadline connection
      (pollReceipt endpoint txHash interval deadline attempt pollsLeft connection) := by
  rw [pollReceipt.eq_def]
  dsimp only
  rcases hpoll : getReceipt endpoint txHash connection with ⟨failure | receipt, after⟩
  · dsimp only
    by_cases hnot : isNotIndexed failure = true
    · have hlate : deadline ≤ endpoint.link.time after.surroundings := by
        refine not_lt.mp fun hearly => h ⟨⟨failure, by rw [hpoll], hnot⟩, ?_⟩
        rw [timePolled, polled, hpoll]
        exact hearly
      have hends : Seconds.le (Seconds.sub deadline (endpoint.link.time after.surroundings))
          (Seconds.ofRat 0) = true := decide_eq_true (sub_nonpos.mpr hlate)
      rw [if_pos (by rw [hends, Bool.or_true])]
      exact .late hpoll hnot hlate
    · have hother : isNotIndexed failure = false := Bool.eq_false_iff.mpr hnot
      rw [if_pos (by rw [hother]; rfl)]
      exact .failed hpoll hother
  · exact .receipt hpoll

/-- Below the limit a poll that finds nothing is followed by one sleep, which leads to the next poll
unless it is refused. -/
theorem exists_sleeps (hinterval : 0 < interval) {index : ℕ} (hindex : index < 1024)
    {connection : Connection σ} (h : FindsNothing endpoint txHash deadline connection)
    (pollsLeft : ℕ) :
    let ended :=
      pollReceipt endpoint txHash interval deadline index (pollsLeft + 1) connection
    (∃ next, SleepsAfter endpoint txHash interval deadline index connection next
        ∧ ended = pollReceipt endpoint txHash interval deadline (index + 1) pollsLeft next)
      ∨ SleepRefused endpoint txHash interval deadline index connection ended := by
  intro ended
  have hdelay :=
    pollDelay_eq hindex interval (deadline - timePolled endpoint txHash connection)
  have hleft : 0 < deadline - timePolled endpoint txHash connection := sub_pos.mpr h.early
  have hpositive := lt_min
    (lt_min (by positivity : 0 < interval * 2 ^ index) (by positivity : 0 < 8 * interval)) hleft
  have hwithin := min_le_right (min (interval * 2 ^ index) (8 * interval))
    (deadline - timePolled endpoint txHash connection)
  generalize hequal : min (min (interval * 2 ^ index) (8 * interval)) _ = delay at *
  rcases hslept : endpoint.link.sleep delay (polled endpoint txHash connection).surroundings with
    ⟨refusal | _, s⟩
  · right
    rw [show ended = _ from pollReceipt_of_refusal h hdelay pollsLeft hslept]
    exact ⟨h, delay, s, hequal.symm, hpositive, by linarith, hslept, rfl⟩
  · exact Or.inl ⟨_, ⟨h, delay, s, hequal.symm, hpositive, by linarith, hslept, rfl⟩,
      pollReceipt_of_delay h hdelay pollsLeft hslept⟩

/-- What is left of a wait, from any poll on. -/
theorem exists_waits (hinterval : 0 < interval) (index pollsLeft : ℕ)
    (hsum : index + pollsLeft = 1024) (connection : Connection σ) :
    let ended := pollReceipt endpoint txHash interval deadline index pollsLeft connection
    ∃ last final, Waits endpoint txHash interval deadline index connection last final
      ∧ last ≤ 1024
      ∧ (Concludes endpoint txHash deadline final ended
        ∨ last = 1024 ∧ FindsNothing endpoint txHash deadline final
          ∧ ended = (.error .delayOverflow, polled endpoint txHash final)
        ∨ SleepRefused endpoint txHash interval deadline last final ended) := by
  induction pollsLeft generalizing index connection with
  | zero =>
    intro ended
    refine ⟨index, connection, .none index connection, by omega, ?_⟩
    by_cases hnothing : FindsNothing endpoint txHash deadline connection
    · have hdelay := pollDelay_of_limit (show 1024 ≤ index by omega) interval
        (deadline - timePolled endpoint txHash connection)
      exact Or.inr (Or.inl ⟨by omega, hnothing, pollReceipt_of_overflow hnothing hdelay 0⟩)
    · exact Or.inl (concludes_pollReceipt hnothing index 0)
  | succ pollsLeft ih =>
    intro ended
    by_cases hnothing : FindsNothing endpoint txHash deadline connection
    · rcases exists_sleeps hinterval (show index < 1024 by omega) hnothing pollsLeft with
        ⟨next, hsleeps, hnext⟩ | hrefused
      · obtain ⟨last, final, hwaits, hlast, hends⟩ := ih (index + 1) (by omega) next
        rw [← hnext] at hends
        exact ⟨last, final, .more hsleeps hwaits, hlast, hends⟩
      · exact ⟨index, connection, .none index connection, by omega, Or.inr (Or.inr hrefused)⟩
    · exact ⟨index, connection, .none index connection, by omega,
        Or.inl (concludes_pollReceipt hnothing index (pollsLeft + 1))⟩

end Wait

/-! ## A node that knows nothing for long -/

section

variable [Nesting]

/-- Replies to the calls of ids in a row, none of which knows the transfer. -/
def silence (first count : ℕ) : List (Link.ScriptedReply ℚ) :=
  (List.range' first count).map fun id => answer id .null

/-- Whether a wait with an interval of one has come to the poll of an index, and as many polls find
nothing from there on as a number says. -/
structure Silent (index count : ℕ) (rest : List (Link.ScriptedReply ℚ))
    (connection : Connection (Link.Script ℚ)) : Prop where
  lastId : connection.lastId = index
  isOpen : connection.isClosed = false
  replies : connection.surroundings.replies = silence (index + 1) count ++ rest
  clock : connection.surroundings.clock ≤ 8 * index

section Silent

variable {index count : ℕ} {rest : List (Link.ScriptedReply ℚ)}
  {connection : Connection (Link.Script ℚ)} {txHash : Value}

/-- The way to a node that is asked once for each poll. -/
def once : Endpoint (Link.Script ℚ) ℚ :=
  ⟨Link.Script.link, .standard 0⟩

/-- A poll into the silence finds nothing, and no time passes. -/
theorem Silent.getReceipt_eq (h : Silent index (count + 1) rest connection) (hindex : index ≤ 1024)
    (hhash : Json.HasForm 6 txHash) :
    ∃ after, getReceipt once txHash connection
        = (.error (.plain .notIndexed [("tx_hash", txHash)]), after)
      ∧ after.lastId = index + 1 ∧ after.isClosed = false
      ∧ after.surroundings.replies = silence (index + 2) count ++ rest
      ∧ after.surroundings.clock = connection.surroundings.clock := by
  obtain ⟨rfl, hopen, hreplies, _⟩ := h
  have hid : Numeral.fits ((connection.lastId + 1 : ℕ) : Int) = true := by
    refine Numeral.fits_of_fitsColumn ?_
    rw [Store.fitsColumn, Bool.and_eq_true, decide_eq_true_iff, decide_eq_true_iff,
      Store.columnLimit]
    omega
  have hform := writable_requestBody "eth_getTransactionReceipt" [txHash] hid
    (List.forall_mem_singleton.mpr hhash)
  have hcall : call once _ _ connection = _ :=
    call_eq_of_answer connection .null (silence (connection.lastId + 2) count ++ rest)
      hopen hreplies hform .null
  have hpoll : getReceipt once txHash connection = _ :=
    callThen_eq once "eth_getTransactionReceipt" [txHash] (receiptOf txHash) connection
  rw [hcall] at hpoll
  exact ⟨_, hpoll, rfl, hopen, rfl, rfl⟩

theorem Silent.timePolled_eq (h : Silent index (count + 1) rest connection) (hindex : index ≤ 1024)
    (hhash : Json.HasForm 6 txHash) :
    timePolled once txHash connection = connection.surroundings.clock := by
  obtain ⟨after, hpoll, -, -, -, hclock⟩ := h.getReceipt_eq hindex hhash
  rw [timePolled, polled, hpoll]
  exact hclock

/-- It finds nothing before a deadline that has not come yet. -/
theorem Silent.findsNothing (h : Silent index (count + 1) rest connection) (hindex : index ≤ 1024)
    (hhash : Json.HasForm 6 txHash) {deadline : ℚ}
    (hearly : connection.surroundings.clock < deadline) :
    FindsNothing once txHash deadline connection := by
  obtain ⟨after, hpoll, -⟩ := h.getReceipt_eq hindex hhash
  refine ⟨⟨_, by rw [hpoll], rfl⟩, ?_⟩
  rwa [h.timePolled_eq hindex hhash]

/-- After a sleep the silence goes on. -/
theorem Silent.slept (h : Silent index (count + 1) rest connection) (hindex : index ≤ 1024)
    (hhash : Json.HasForm 6 txHash) {delay : ℚ} (hshort : delay ≤ 8) :
    Silent (index + 1) count rest { polled once txHash connection with
      surroundings :=
        (once.link.sleep delay (polled once txHash connection).surroundings).2 } := by
  obtain ⟨after, hpoll, hid, hopen, hreplies, hclock⟩ := h.getReceipt_eq hindex hhash
  rw [polled, hpoll]
  refine ⟨hid, hopen, hreplies, ?_⟩
  show after.surroundings.clock + delay ≤ 8 * ((index + 1 : ℕ) : ℚ)
  have hnow := h.clock
  rw [hclock]
  push_cast
  linarith

/-- No sleep is refused on the way. -/
theorem not_sleepRefused {interval deadline : ℚ} (index : ℕ)
    (connection : Connection (Link.Script ℚ))
    (ended : Except Failure Remote.Receipt × Connection (Link.Script ℚ)) :
    ¬ SleepRefused once txHash interval deadline index connection ended := by
  rintro ⟨-, delay, s, -, -, -, hslept, -⟩
  cases hslept

/-- A wait into the silence overflows behind the poll of index 1024. -/
theorem Silent.exists_waits (hhash : Json.HasForm 6 txHash) (pollsLeft : ℕ)
    (hsum : index + pollsLeft = 1024) (h : Silent index (pollsLeft + 1) rest connection) :
    ∃ final, Waits once txHash 1 10000 index connection 1024 final
      ∧ FindsNothing once txHash 10000 final
      ∧ pollReceipt once txHash 1 10000 index pollsLeft connection
        = (.error .delayOverflow, polled once txHash final) := by
  induction pollsLeft generalizing index connection with
  | zero =>
    obtain rfl : index = 1024 := hsum
    have hearly : connection.surroundings.clock < 10000 := h.clock.trans_lt (by norm_num)
    have hnothing := h.findsNothing le_rfl hhash hearly
    exact ⟨connection, .none 1024 connection, hnothing,
      pollReceipt_of_overflow hnothing (pollDelay_of_limit le_rfl 1 _) 0⟩
  | succ pollsLeft ih =>
    have hbelow : (index : ℚ) ≤ 1024 := by exact_mod_cast (show index ≤ 1024 by omega)
    have hearly : connection.surroundings.clock < 10000 := by linarith [h.clock]
    obtain ⟨next, hsleeps, hnext⟩ := (exists_sleeps one_pos (show index < 1024 by omega)
      (h.findsNothing (by omega) hhash hearly) pollsLeft).resolve_right
        (not_sleepRefused index connection _)
    have hsilent : Silent (index + 1) (pollsLeft + 1) rest next := by
      obtain ⟨-, delay, s, hdelay, -, -, hslept, rfl⟩ := hsleeps
      have hshort : delay ≤ 8 := by
        rw [hdelay]
        exact (min_le_left _ _).trans ((min_le_right _ _).trans (by norm_num))
      have hs := h.slept (by omega) hhash hshort
      rwa [hslept] at hs
    obtain ⟨final, hwaits, hfinal, hended⟩ := ih (by omega) hsilent
    exact ⟨final, .more hsleeps hwaits, hfinal, hnext.trans hended⟩

end Silent

/-! ## Waits -/

/-- Whatever is around a client, a wait for a receipt polls and sleeps in turn, and its last poll
concludes it, unless 1025 polls have found nothing before the deadline, or the link refuses the
sleep after a poll that has found nothing. -/
theorem waits_until_concluded {σ : Type} (endpoint : Endpoint σ ℚ) (txHash : Value) (timeout : ℚ)
    {interval : ℚ} (hinterval : 0 < interval) (connection : Connection σ) :
    let deadline := endpoint.link.time connection.surroundings + timeout
    let ended := awaitReceipt endpoint txHash timeout interval connection
    ∃ last final, Waits endpoint txHash interval deadline 0 connection last final
      ∧ last ≤ 1024
      ∧ (Concludes endpoint txHash deadline final ended
        ∨ last = 1024 ∧ FindsNothing endpoint txHash deadline final
          ∧ ended = (.error .delayOverflow, polled endpoint txHash final)
        ∨ SleepRefused endpoint txHash interval deadline last final ended) :=
  exists_waits hinterval 0 Backoff.attemptLimit.toNat rfl connection

end

/-- A wait of one second with a longer interval sleeps for that second, asks once more, and then
raises what it has found. -/
theorem waits_until_concluded_late :
    let start : Connection (Link.Script ℚ) := .open (.start (silence 1 2) [])
    let ended := awaitReceipt once (.str "0xaa") 1 3 start
    (0 : ℚ) < 3 ∧ ∃ last final, Waits once (.str "0xaa") 3 (0 + 1) 0 start last final
      ∧ Concludes once (.str "0xaa") (0 + 1) final ended
      ∧ ended.1 = .error (.plain .notIndexed [("tx_hash", .str "0xaa")])
      ∧ ended.2.surroundings.clock = 1 := by
  intro start ended
  have hhash : Json.HasForm 6 (.str "0xaa") := Json.hasForm_str "0xaa"
  have hsilent : Silent 0 2 [] start := ⟨rfl, rfl, rfl, (mul_zero (8 : ℚ)).ge⟩
  have htime : timePolled once (.str "0xaa") start = 0 := hsilent.timePolled_eq (by omega) hhash
  have hnothing : FindsNothing once (.str "0xaa") (0 + 1) start :=
    hsilent.findsNothing (by omega) hhash (show (0 : ℚ) < 0 + 1 by norm_num)
  have hdelay : pollDelay 3 (0 + 1 - timePolled once (.str "0xaa") start) 0 = .ok 1 := by
    rw [pollDelay_eq (by omega), htime]
    norm_num
  let next : Connection (Link.Script ℚ) := { polled once (.str "0xaa") start with
    surroundings := (once.link.sleep 1 (polled once (.str "0xaa") start).surroundings).2 }
  have hnext : ended = pollReceipt once (.str "0xaa") 3 (0 + 1) 1 1023 next :=
    pollReceipt_of_delay hnothing hdelay 1023 rfl
  -- the second poll is made at the deadline
  have hsilent' : Silent 1 1 [] next := hsilent.slept (by omega) hhash (by norm_num)
  have hclock : next.surroundings.clock = 1 := by
    show timePolled once (.str "0xaa") start + 1 = 1
    rw [htime, zero_add]
  have hlate : ¬ FindsNothing once (.str "0xaa") (0 + 1) next := by
    rintro ⟨-, hearly⟩
    rw [hsilent'.timePolled_eq (by omega) hhash, hclock] at hearly
    norm_num at hearly
  have hconcludes : Concludes once (.str "0xaa") (0 + 1) next ended :=
    hnext ▸ concludes_pollReceipt hlate 1 1023
  obtain ⟨second, hsecond, -, -, -, hsecondClock⟩ := hsilent'.getReceipt_eq (by omega) hhash
  have hended : ended = (_, second) := hconcludes.eq.trans hsecond
  obtain ⟨last, final, hwaits, -, hends⟩ :=
    waits_until_concluded once (.str "0xaa") 1 (show (0 : ℚ) < 3 by norm_num) start
  refine ⟨by norm_num, last, final, hwaits, ?_, by rw [hended], ?_⟩
  · rcases hends with hends | ⟨-, -, hoverflow⟩ | hrefused
    · exact hends
    · cases (congrArg Prod.fst hended).symm.trans (congrArg Prod.fst hoverflow)
    · exact absurd hrefused (not_sleepRefused _ _ _)
  · rw [hended]
    exact hsecondClock.trans hclock

/-- When as many polls as there are delays have found nothing, the wait overflows long before the
deadline, and the receipt that the next poll would have found is never asked for. -/
theorem not_concluded_after_silence :
    let receipt : Value := .map [("transactionHash", .str "0xaa"), ("blockNumber", .str "0x10"),
      ("from", .str "0x1111111111111111111111111111111111111111"), ("status", .str "0x1")]
    let start : Connection (Link.Script ℚ) :=
      .open (.start (silence 1 1025 ++ [answer 1026 receipt]) [])
    let ended := awaitReceipt once (.str "0xaa") 10000 1 start
    ∃ final, Waits once (.str "0xaa") 1 10000 0 start 1024 final
      ∧ FindsNothing once (.str "0xaa") 10000 final
      ∧ ¬ Concludes once (.str "0xaa") 10000 final ended
      ∧ ended = (.error .delayOverflow, polled once (.str "0xaa") final) := by
  intro receipt start ended
  have hsilent : Silent 0 1025 [answer 1026 receipt] start :=
    ⟨rfl, rfl, rfl, (mul_zero (8 : ℚ)).ge⟩
  have hended : ended = pollReceipt once (.str "0xaa") 1 10000 0 1024 start := by
    show pollReceipt once (.str "0xaa") 1 (0 + 10000) 0 1024 start = _
    rw [zero_add]
  obtain ⟨final, hwaits, hnothing, hoverflow⟩ :=
    hsilent.exists_waits (Json.hasForm_str "0xaa") 1024 rfl
  exact ⟨final, hwaits, hnothing, hnothing.not_concludes ended, hended.trans hoverflow⟩

end Client

end IntentGateway
