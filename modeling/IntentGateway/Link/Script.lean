import IntentGateway.Link.Basic

/-! # Scripted surroundings

Surroundings whose every answer is laid down beforehand: the replies to the requests in turn, and
the numbers drawn. When the replies have run out no connection is made; when the numbers have, each
is a half. The clock starts at zero and moves by waiting, and by what a reply takes. What a client
did is kept.
-/

namespace IntentGateway.Link

/-- A scripted reply: how long it takes, and what it answers to a request. -/
structure ScriptedReply (τ : Type) where
  elapsed : Option τ
  answer : Value → Except Failure Reply

/-- The state of scripted surroundings. -/
structure Script (τ : Type) where
  replies : List (ScriptedReply τ)
  draws : List τ
  clock : τ
  /-- The requests so far, in order. -/
  requests : List Value
  /-- The delays so far, in order. -/
  sleeps : List τ

namespace Script

variable {τ : Type} [Seconds τ]

/-- Surroundings at the start of a script. -/
def start (replies : List (ScriptedReply τ)) (draws : List τ) : Script τ where
  replies := replies
  draws := draws
  clock := Seconds.ofRat 0
  requests := []
  sleeps := []

/-- The failure of a request that no reply is left for. -/
def noReply : Failure :=
  .link ⟨.connect, "no reply left"⟩

/-- Sends a request into the script. -/
def send (request : Value) (script : Script τ) : Except Failure Reply × Script τ :=
  let asked := { script with requests := script.requests ++ [request] }
  match script.replies with
  | [] => (.error noReply, asked)
  | reply :: replies =>
    let clock := match reply.elapsed with
      | some elapsed => Seconds.add script.clock elapsed
      | none => script.clock
    (reply.answer request, { asked with replies, clock })

/-- Waits by moving the clock. No delay is refused. -/
def sleep (delay : τ) : Action (Script τ) Unit := fun script =>
  (.ok (), { script with clock := Seconds.add script.clock delay
                         sleeps := script.sleeps ++ [delay] })

/-- Draws the next number. -/
def draw (script : Script τ) : τ × Script τ :=
  match script.draws with
  | [] => (Seconds.ofRat (1 / 2), script)
  | drawn :: draws => (drawn, { script with draws })

/-- The link into scripted surroundings. -/
def link : Link (Script τ) τ where
  send := send
  sleep := sleep
  draw := draw
  time script := script.clock

/-- The script without what the client did so far. -/
def forgetPast (script : Script τ) : Script τ :=
  { script with requests := [], sleeps := [] }

end Script

end IntentGateway.Link
