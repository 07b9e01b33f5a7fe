import GasSponsor.Metrics
import GasSponsor.Node

/-!
# Programs

A sequence of calls to the node in which what follows depends on the answers, with records for the
metrics in between. Running a program against a node gives its result, or the call at which the node
left it.
-/

namespace GasSponsor

inductive Program (α : Type) : Type
  | done (a : α)
  | call (c : Call) (next : Reply c → Program α)
  | record (e : Metrics.Event) (next : Program α)

namespace Program

variable {α β : Type}

def bind (p : Program α) (f : α → Program β) : Program β :=
  match p with
  | done a => f a
  | call c next => call c fun r => bind (next r) f
  | record e next => record e (bind next f)

instance : Monad Program where
  pure := done
  bind := bind

def ask (c : Call) : Program (Reply c) := call c done

def note (e : Metrics.Event) : Program Unit := record e (done ())

/-- What a run leaves: the node, the metrics, the calls made in order, and the program that is left,
which is done or waits for the answer to its first call. -/
structure Run (σ α : Type) where
  node : σ
  metrics : Metrics
  calls : List Call
  rest : Program α

def run {σ : Type} (node : Node σ) (s : σ) (m : Metrics) : Program α → Run σ α
  | done a => ⟨s, m, [], done a⟩
  | record e next => run node s (m.record e) next
  | call c next =>
    match node s c with
    | (none, s) => ⟨s, m, [c], call c next⟩
    | (some r, s) =>
      let after := run node s m (next r)
      { after with calls := c :: after.calls }

def result? : Program α → Option α
  | done a => some a
  | _ => none

end Program

end GasSponsor
