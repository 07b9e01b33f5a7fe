import GasSponsor.Error
import GasSponsor.Json.Value
import GasSponsor.Relay.Channel

/-!
# Responses

What a caller of the service is told: a status and a body, which is empty or a JSON object. A
request that was not relayed has the status of its error's class.
-/

namespace GasSponsor.Api

inductive Failure
  | relay (e : RelayError)
  | timeout

namespace Failure

def status : Failure → Nat
  | timeout => 504
  | relay (.build _) => 400
  | relay (.sequenceMismatch ..) => 409
  | relay (.rejected ..) => 422
  | relay (.query ..) => 502
  | relay (.transport _) => 502
  | relay .workerUnavailable => 503
  | relay (.config _) => 500

def message : Failure → String
  | timeout => "timed out waiting for relay"
  | relay e => e.message

def nodeCode? : Failure → Option (UInt32 × String)
  | timeout => none
  | relay e => e.nodeCode?

def isRetryable : Failure → Bool
  | timeout => true
  | relay e => e.isRetryable

end Failure

inductive Body
  | empty
  | health (running : Bool) (queued : Nat)
  | payer (address denom : String)
  | relayed (hash : Digest)
  | failure (f : Failure)

def version : String := "0.1.0"

/-- The body as JSON. A code and its codespace stand in it only if the node gave them. -/
def Body.json? : Body → Option Json.Value
  | empty => none
  | health running queued =>
    some (.object [("status", .string (if running then "ok" else "worker stopped")),
      ("version", .string version), ("queued", .ofNat queued)])
  | payer address denom =>
    some (.object [("address", .string address), ("fee_denom", .string denom)])
  | relayed hash => some (.object [("hash", .string (Hex.encodePrefixed hash.bytes))])
  | failure f =>
    let verdict := match f.nodeCode? with
      | some (code, codespace) =>
        [("code", .ofNat code.toNat), ("codespace", .string codespace)]
      | none => []
    some (.object
      ([("error", .string f.message)] ++ verdict ++ [("retryable", .bool f.isRetryable)]))

structure Response where
  status : Nat
  body : Body

namespace Response

def empty (status : Nat) : Response := ⟨status, .empty⟩

def failure (f : Failure) : Response := ⟨f.status, .failure f⟩

/-- What a caller is told of the receipt at which it waited as long as it may. -/
def ofReceipt : Relay.Channel.Waiting → Response
  | .resolved (.ok hash) => ⟨200, .relayed hash⟩
  | .resolved (.error e) => failure (.relay e)
  | .awaited => failure .timeout
  | .gone => failure (.relay .workerUnavailable)

end Response

end GasSponsor.Api
