import IntentGateway.Client.Call
import IntentGateway.Proofs.Json.Form
import IntentGateway.Proofs.Link.Retry

/-! # Lossy links

A link to a server may lose a request on its way there, or the reply on its way back. The client
sees the same in both cases: a fault, or a status that is no success. So it repeats a request that
the server may have handled already. How often the server has handled it, and in which state it is
then, depends on what has become of the attempts and on nothing else.
-/

namespace IntentGateway.Link

/-! ## What becomes of an attempt -/

/-- What a client sees in place of the server's reply: a fault, or a reply with a status that is no
success. -/
inductive Loss where
  | fault (cause : Fault)
  | status (reply : Reply) (h : isSuccess reply.status = false)

/-- What comes over the link in place of the server's reply. -/
def Loss.received : Loss → Except Failure Reply
  | .fault cause => .error (.link cause)
  | .status reply _ => .ok reply

/-- What becomes of an attempt to send a request. -/
inductive Fate where
  /-- The server does not see the request. -/
  | lost (loss : Loss)
  /-- The server handles the request, but its reply is lost. -/
  | unanswered (loss : Loss)
  | delivered

/-- Whether the server handles the request of an attempt. -/
def Fate.arrives : Fate → Bool
  | .lost _ => false
  | .unanswered _ => true
  | .delivered => true

/-- What comes over the link, given the reply of the server. -/
def Fate.received (reply : Reply) : Fate → Except Failure Reply
  | .lost loss => loss.received
  | .unanswered loss => loss.received
  | .delivered => .ok reply

/-! ## Servers -/

/-- How a server handles a body, in the course of which attempt. -/
abbrev Server (σ : Type) := ℕ → List UInt8 → σ → Reply × σ

namespace Server

variable {σ : Type} (serve : Server σ) (fates : ℕ → Fate) (body : List UInt8) (s : σ)

/-- The server after a number of attempts to send a body. -/
def after : ℕ → σ
  | 0 => s
  | n + 1 => if (fates n).arrives then (serve n body (after n)).2 else after n

/-- What comes over the link in an attempt, after those before it. -/
def received (n : ℕ) : Except Failure Reply :=
  (fates n).received (serve n body (serve.after fates body s n)).1

/-- How many of the first attempts the server has handled. -/
def handled (fates : ℕ → Fate) (n : ℕ) : ℕ :=
  ((List.range n).map fates).countP Fate.arrives

theorem handled_succ (n : ℕ) :
    handled fates (n + 1) = handled fates n + if (fates n).arrives then 1 else 0 := by
  unfold handled
  rw [List.range_succ, List.map_append, List.countP_append]
  simp [List.countP_cons]

/-- A server that handles a body again with no further change has handled it once or not at all. -/
theorem after_of_again {s' : σ} (hfirst : ∀ n, (serve n body s).2 = s')
    (hagain : ∀ n, (serve n body s').2 = s') (n : ℕ) :
    serve.after fates body s n
      = if ((List.range n).map fates).any Fate.arrives then s' else s := by
  induction n with
  | zero => rfl
  | succ n ih =>
    rw [after, List.range_succ, List.map_append, List.any_append]
    cases harrives : (fates n).arrives with
    | false => simpa [harrives] using ih
    | true =>
      have hserved : (serve n body (serve.after fates body s n)).2 = s' := by
        rw [ih]
        split
        · exact hagain n
        · exact hfirst n
      simpa [harrives] using hserved

end Server

/-! ## The link -/

/-- The surroundings of a client that is connected to a server: the server, what has become of the
attempts so far, and all else. -/
structure Wire (σ ρ : Type) where
  server : σ
  past : List Fate
  host : ρ

namespace Wire

variable [Nesting]

variable {σ ρ τ : Type} (host : Link ρ τ) (serve : Server σ) (fates : ℕ → Fate)

/-- The bytes that a request is sent as. -/
def bytesOf (request : Value) : List UInt8 :=
  match Json.write request with
  | .ok text => Text.utf8Bytes text
  | .error _ => []

/-- Sends a request; the next fate is that of the attempt. -/
def send (request : Value) : Action (Wire σ ρ) Reply := fun wire =>
  let fate := fates wire.past.length
  let (reply, server) := serve wire.past.length (bytesOf request) wire.server
  (fate.received reply,
    { wire with server := if fate.arrives then server else wire.server
                past := wire.past ++ [fate] })

/-- The link to a server, with the clock and the numbers of a host. -/
def link : Link (Wire σ ρ) τ where
  send := send serve fates
  sleep delay wire :=
    ((host.sleep delay wire.host).1, { wire with host := (host.sleep delay wire.host).2 })
  draw wire := ((host.draw wire.host).1, { wire with host := (host.draw wire.host).2 })
  time wire := host.time wire.host

/-- A wire over which nothing has been sent. -/
def idle (server : σ) (host : ρ) : Wire σ ρ :=
  { server, past := [], host }

/-- Whether a wire is as a number of attempts to send a body have left it. -/
structure IsAfter (body : List UInt8) (s : σ) (n : ℕ) (wire : Wire σ ρ) : Prop where
  server : wire.server = serve.after fates body s n
  past : wire.past = (List.range n).map fates

end Wire

end IntentGateway.Link

namespace IntentGateway.Client

open Link

variable {σ ρ τ : Type} {serve : Server σ} {fates : ℕ → Fate} {s : σ}

/-! ## Attempts -/

/-- What an attempt ends with, given what comes over the link. -/
def taken : Except Failure Reply → Except Failure Reply
  | .ok reply => if isSuccess reply.status then .ok reply else .error (.status reply.status "")
  | .error failure => .error failure

/-- A reply of the server is no reason for another attempt, if its status is not. -/
theorem not_isWorthMore_taken_ok {reply : Reply}
    (hstatus : retryableStatuses.contains reply.status = false) :
    ¬ Retry.IsWorthMore (taken (.ok reply)) := by
  rintro ⟨failure, hfailure, hr⟩
  simp only [taken] at hfailure
  split at hfailure
  · cases hfailure
  · cases hfailure
    rw [Failure.isRetryable, hstatus] at hr
    cases hr

variable [Nesting]

/-- An attempt over an open connection, with a body that can be written, is what comes over the
link. -/
theorem transmit_of_open [Seconds τ] {link : Link ρ τ} {request : Value}
    (h : Json.Writable request) (s : ρ) :
    transmit link false request s = (taken (link.send request s).1, (link.send request s).2) := by
  obtain ⟨text, htext⟩ := h
  unfold transmit
  rw [htext]
  show exchange link request s = _
  unfold exchange taken
  rcases link.send request s with ⟨failure | reply, s'⟩
  · rfl
  · dsimp only
    split <;> rfl

variable {request : Value} {n : ℕ} {wire : Wire σ ρ}

/-- Sending a request is one more attempt. -/
theorem send_wire (h : wire.IsAfter serve fates (Wire.bytesOf request) s n) :
    (Wire.send serve fates request wire).1 = serve.received fates (Wire.bytesOf request) s n
      ∧ (Wire.send serve fates request wire).2.IsAfter serve fates (Wire.bytesOf request) s
          (n + 1) := by
  have hlength : wire.past.length = n := by
    rw [h.past, List.length_map, List.length_range]
  unfold Wire.send
  rw [hlength, h.server]
  refine ⟨rfl, rfl, ?_⟩
  show wire.past ++ [fates n] = _
  rw [h.past, List.range_succ, List.map_append]
  rfl

/-! ## Runs of attempts -/

/-- What a run of attempts to send a request comes to, when the state that the surroundings are in
says what the next attempt hears: each attempt but the last ends in a failure worth another one, and
the last otherwise, unless there are no more or waiting before the next one fails. -/
theorem run_transmit [Seconds τ] (link : Link ρ τ) (retry : Retry τ)
    (hsome : 0 ≤ retry.maxRetries) (hform : Json.Writable request)
    {heard : ℕ → Except Failure Reply} {I : ℕ → ρ → Prop}
    (hsend : ∀ n s, I n s → (link.send request s).1 = heard n ∧ I (n + 1) (link.send request s).2)
    (hsleep : ∀ n delay s, I n s → I n (link.sleep delay s).2)
    (hdraw : ∀ n s, I n s → I n (link.draw s).2) (start : ρ) (hstart : I 0 start) :
    let ended := retry.run link (transmit link false request) start
    ∃ last : ℕ, (last : ℤ) ≤ retry.maxRetries
      ∧ I (last + 1) ended.2
      ∧ (∀ n < last, (n : ℤ) < Backoff.attemptLimit ∧ Retry.IsWorthMore (taken (heard n)))
      ∧ (ended.1 = taken (heard last)
          ∧ (last < retry.maxRetries → ¬ Retry.IsWorthMore (taken (heard last)))
        ∨ ∃ failure, ended.1 = .error failure ∧ last < retry.maxRetries
          ∧ Retry.PauseFails link last failure ∧ Retry.IsWorthMore (taken (heard last))) := by
  intro ended
  have haction (n : ℕ) (s : ρ) (h : I n s) : (transmit link false request s).1 = taken (heard n)
      ∧ I (n + 1) (transmit link false request s).2 := by
    rw [transmit_of_open hform]
    exact ⟨congrArg taken (hsend n s h).1, (hsend n s h).2⟩
  have hended : ended
      = retry.attempts link (transmit link false request) 0 retry.maxRetries.toNat start := by
    show retry.run _ _ _ = _
    rw [Retry.run, if_neg (by omega)]
  obtain ⟨last, hlast, hretried, hafter, s, hs, hresult⟩ :=
    retry.attempts_end link (transmit link false request) 0 retry.maxRetries.toNat hsleep hdraw
      (fun n s h => (haction n s h).2) hstart
  rw [← hended, Nat.zero_add] at hafter
  rw [← hended, (haction last s (Nat.zero_add last ▸ hs)).1] at hresult
  refine ⟨last, by omega, hafter, fun n hn => ?_, ?_⟩
  · obtain ⟨hlimit, other, hother, hmore⟩ := hretried n hn
    rw [(haction n other (Nat.zero_add n ▸ hother)).1] at hmore
    exact ⟨by omega, hmore⟩
  · rcases hresult with ⟨hresult, hfinal⟩ | ⟨failure, hfails, hleft, hpause, hmore⟩
    · exact Or.inl ⟨hresult, fun h => hfinal (by omega)⟩
    · rw [Nat.zero_add] at hpause
      exact Or.inr ⟨failure, hfails, by omega, hpause, hmore⟩

/-- What a run of attempts over a lossy link comes to. -/
theorem run_wire [Seconds τ] (host : Link ρ τ) (serve : Server σ) (fates : ℕ → Fate)
    {retry : Retry τ} (hsome : 0 ≤ retry.maxRetries)
    (hform : Json.Writable request) (s : σ) (start : ρ) :
    let heard := fun n => taken (serve.received fates (Wire.bytesOf request) s n)
    let ended := retry.run (Wire.link host serve fates)
      (transmit (Wire.link host serve fates) false request) (Wire.idle s start)
    ∃ last : ℕ, (last : ℤ) ≤ retry.maxRetries
      ∧ ended.2.IsAfter serve fates (Wire.bytesOf request) s (last + 1)
      ∧ (∀ n < last, Retry.IsWorthMore (heard n))
      ∧ (ended.1 = heard last ∧ (last < retry.maxRetries → ¬ Retry.IsWorthMore (heard last))
        ∨ ∃ failure, ended.1 = .error failure
          ∧ Retry.PauseFails (Wire.link host serve fates) last failure
          ∧ Retry.IsWorthMore (heard last)) := by
  intro heard ended
  obtain ⟨last, hlast, hafter, hretried, hresult⟩ :=
    run_transmit (Wire.link host serve fates) retry hsome hform
      (I := Wire.IsAfter serve fates (Wire.bytesOf request) s)
      (fun _ _ h => send_wire h) (fun _ _ _ h => ⟨h.server, h.past⟩)
      (fun _ _ h => ⟨h.server, h.past⟩) (Wire.idle s start) ⟨rfl, rfl⟩
  exact ⟨last, hlast, hafter, fun n hn => (hretried n hn).2,
    hresult.imp_right fun ⟨failure, hfails, _, hpause, hmore⟩ => ⟨failure, hfails, hpause, hmore⟩⟩

end IntentGateway.Client
