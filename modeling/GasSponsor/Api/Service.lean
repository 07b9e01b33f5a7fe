import GasSponsor.Api.Request
import GasSponsor.Api.Response

/-!
# The service

Callers read the state of the relay and the payer's account, and hand in raw transactions. A raw
transaction that decodes is put into the channel under the configured denomination, and its caller
waits for the reply as long as it may. Nothing is assumed about the other end of the channel.
-/

namespace GasSponsor.Api

open Relay (Channel)

structure Service where
  denom : String
  payerAddress : String

/-- What becomes of the channel while a caller waits, at most for the reply timeout. -/
abbrev Backend (β : Type) := Channel → β → Channel × β

namespace Service

variable {β : Type}

inductive Route
  | health
  | payer
  | submission
  | wrongMethod
  | nowhere
deriving DecidableEq, Repr

/-- The state and the payer are read with or without the body. -/
def route (r : Request) : Route :=
  let reads := decide (r.method = "GET" ∨ r.method = "HEAD")
  if r.path = "/health" then if reads then .health else .wrongMethod
  else if r.path = "/payer" then if reads then .payer else .wrongMethod
  else if r.path = "/v1/transactions" then
    if r.method = "POST" then .submission else .wrongMethod
  else .nowhere

def health (c : Channel) : Response := ⟨if c.isOpen then 200 else 503, .health c.isOpen c.queued⟩

/-- Waits at a receipt. The other end goes on only if there is no reply yet. -/
def await (backend : Backend β) (c : Channel) (s : β) (receipt : Nat) :
    Response × Channel × β :=
  let (c, s) := match c.peek receipt with
    | .awaited => backend c s
    | _ => (c, s)
  let (waiting, c) := c.wait receipt
  (.ofReceipt waiting, c, s)

/-- Puts a message into the channel and waits for the reply. There is no response if the queue stays
full. -/
def relay (service : Service) (backend : Backend β) (c : Channel) (s : β)
    (message : Ethereum.Message) : Option Response × Channel × β :=
  let (c, s) := match c.submit message service.denom with
    | (.full, _) => backend c s
    | _ => (c, s)
  match c.submit message service.denom with
  | (.accepted receipt, c) =>
    let (response, c, s) := await backend c s receipt
    (some response, c, s)
  | (.full, c) => (none, c, s)
  | (.refused, c) => (some (.failure (.relay .workerUnavailable)), c, s)

def submit (service : Service) (backend : Backend β) (c : Channel) (s : β) (r : Request) :
    Option Response × Channel × β :=
  match r.raw with
  | .error refusal => (some (.empty refusal.status), c, s)
  | .ok raw =>
    match Ethereum.Message.decodeHex raw with
    | .error e => (some (.failure (.relay (.build e.toBuildError))), c, s)
    | .ok message => service.relay backend c s message

def withoutBody (response : Response) : Response := { response with body := .empty }

def answer (service : Service) (backend : Backend β) (c : Channel) (s : β) (r : Request) :
    Option Response × Channel × β :=
  let full := fun response =>
    (some (if r.method = "HEAD" then withoutBody response else response), c, s)
  match route r with
  | .health => full (health c)
  | .payer => full ⟨200, .payer service.payerAddress service.denom⟩
  | .submission => service.submit backend c s r
  | .wrongMethod => full (.empty 405)
  | .nowhere => full (.empty 404)

end Service

end GasSponsor.Api
