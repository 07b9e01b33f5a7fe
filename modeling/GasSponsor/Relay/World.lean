import GasSponsor.Relay.Pipeline

/-!
# The relay at work

One worker takes requests from the channel in order and relays them one at a time. It looks at the
shutdown flag only between requests: once the flag is set it takes no further request and closes the
channel, so that everything still queued is lost. A worker that is stopped from outside also loses
the request in hand.

A world is a node together with the channel and the worker. It moves by small steps: a caller or an
operator acts, or the worker does one thing.
-/

namespace GasSponsor.Relay

/-- What the worker is doing: nothing, relaying a message, or waiting for an answer that never
comes; or it has ended by itself, or was cut off. -/
inductive Stage
  | idle
  | busy (rest : Program (AccountState × RelayResult))
  | stuck
  | ended
  | aborted

structure World (σ : Type) where
  node : σ
  channel : Channel
  account : AccountState
  metrics : Metrics
  stage : Stage
  shutdown : Bool
  calls : List Call

namespace World

variable {σ : Type}

def start (node : σ) (capacity : Nat) : World σ :=
  ⟨node, .create capacity, .initial, .empty, .idle, false, []⟩

def isEnded (w : World σ) : Bool :=
  match w.stage with
  | .ended => true
  | _ => false

def isRunning (w : World σ) : Bool :=
  match w.stage with
  | .ended => false
  | .aborted => false
  | _ => true

/-- One thing that the worker does: it ends, takes a request, records, makes a call, or replies.
There is none when it has ended, waits for a request, or waits for the node in vain. -/
def work (worker : Worker) (node : Node σ) (w : World σ) : Option (World σ) :=
  match w.stage with
  | .ended => none
  | .aborted => none
  | .stuck => none
  | .idle =>
    if w.shutdown then some { w with stage := .ended, channel := w.channel.close }
    else
      match w.channel.receive with
      | none => none
      | some (r, channel) =>
        some { w with channel, stage := .busy (worker.relay w.account r.message r.denom) }
  | .busy (.record e next) => some { w with metrics := w.metrics.record e, stage := .busy next }
  | .busy (.call c next) =>
    match node w.node c with
    | (none, s) => some { w with node := s, calls := w.calls ++ [c], stage := .stuck }
    | (some r, s) => some { w with node := s, calls := w.calls ++ [c], stage := .busy (next r) }
  | .busy (.done (account, result)) =>
    some { w with
      account
      channel := match w.channel.reply result with
        | some (_, channel) => channel
        | none => w.channel
      stage := .idle }

inductive Action
  | submit (message : Ethereum.Message) (denom : String)
  | dropReceipt (number : Nat)
  | shutDown
  | abort

def act (w : World σ) : Action → World σ
  | .submit message denom => { w with channel := (w.channel.submit message denom).2 }
  | .dropReceipt number => { w with channel := (w.channel.dropReceipt number).2 }
  | .shutDown => { w with shutdown := true }
  | .abort =>
    if w.isRunning then { w with stage := .aborted, channel := w.channel.abandon } else w

/-- A step of a world: an action, or the worker's next thing if there is one. -/
inductive Event
  | action (a : Action)
  | work

def step (worker : Worker) (node : Node σ) (w : World σ) : Event → World σ
  | .action a => w.act a
  | .work => (w.work worker node).getD w

def run (worker : Worker) (node : Node σ) (w : World σ) (events : List Event) : World σ :=
  events.foldl (step worker node) w

def workFor (worker : Worker) (node : Node σ) : Nat → World σ → World σ
  | 0, w => w
  | steps + 1, w =>
    match w.work worker node with
    | none => w
    | some w => workFor worker node steps w

def stepsPerRequest : Nat := 16

/-- Lets the worker go on until it has ended or waits for a request or for the node. -/
def settle (worker : Worker) (node : Node σ) (w : World σ) : World σ :=
  workFor worker node (stepsPerRequest * (w.channel.queue.length + 2)) w

def submitWaiting (worker : Worker) (node : Node σ) (w : World σ) (message : Ethereum.Message)
    (denom : String) : Channel.Submission × World σ :=
  let (submission, channel) := w.channel.submit message denom
  match submission with
  | .full =>
    let w := settle worker node w
    let (submission, channel) := w.channel.submit message denom
    (submission, { w with channel })
  | _ => (submission, { w with channel })

/-- Waits at a receipt. The worker goes on only if the reply is not there yet. -/
def await (worker : Worker) (node : Node σ) (w : World σ) (number : Nat) :
    Channel.Waiting × World σ :=
  let w := match w.channel.peek number with
    | .awaited => settle worker node w
    | _ => w
  let (waiting, channel) := w.channel.wait number
  (waiting, { w with channel })

/-- Sets the shutdown flag and lets the worker finish the request in hand. A worker that the node
has left waiting is cut off. Tells whether the worker ended by itself. -/
def stop (worker : Worker) (node : Node σ) (w : World σ) : Bool × World σ :=
  let w := settle worker node (w.act .shutDown)
  (w.isEnded, w.act .abort)

end World

end GasSponsor.Relay
