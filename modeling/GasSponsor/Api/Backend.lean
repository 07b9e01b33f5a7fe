import GasSponsor.Api.Service
import GasSponsor.Relay.World

/-!
# Backends

Who may stand at the other end of the channel of a service: the relay worker, nobody who ever looks
at the queue, or a receiver that answers from a list.
-/

namespace GasSponsor.Api.Backend

open Relay (Channel RelayResult)

def idle : Backend Unit := fun c s => (c, s)

def worker {σ : Type} (worker : Relay.Worker) (node : Node σ) : Backend (Relay.World σ) :=
  fun c w =>
    let w := Relay.World.settle worker node { w with channel := c }
    (w.channel, w)

/-- What a receiver does with a request: it answers with the hash of the message or with an error,
or drops it. -/
inductive Answer
  | hash
  | error (e : RelayError)
  | none

def Answer.apply (a : Answer) (c : Channel) : Channel :=
  match c.receive with
  | .none => c
  | some (r, c) =>
    match a with
    | .hash => ((c.reply (.ok r.message.hash)).map Prod.snd).getD c
    | .error e => ((c.reply (.error e)).map Prod.snd).getD c
    | .none => c.discard.getD c

/-- A receiver with a list of answers, which drops its end after the last one. -/
def scripted : Backend (List Answer) := fun c answers =>
  match answers with
  | [] => (c.close, [])
  | [a] => ((a.apply c).close, [])
  | a :: rest => (a.apply c, rest)

end GasSponsor.Api.Backend
