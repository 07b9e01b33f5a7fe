import GasSponsor.Rpc.Response

/-!
# Endpoints and failover

A provider holds several endpoints of the same chain, one of which is active. A request goes to the
active endpoint. If that gives no readable answer, the next endpoint becomes active and is asked,
until each has been asked once. An error object is an answer, and ends the request.
-/

namespace GasSponsor.Rpc

structure Request where
  method : String
  params : Json.Value

def Request.body (r : Request) (id : Nat) : Json.Value :=
  .object [("id", .ofNat id), ("jsonrpc", .string "2.0"), ("method", .string r.method),
    ("params", r.params)]

inductive Failure
  | unreachable (text : String)
  | unreadable (cause : Json.Fault) (response : String)
  | refused (e : ErrorObject)
  | noEndpoint

namespace Failure

def message : Failure → String
  | unreachable text => text
  | unreadable cause response =>
    "Deserialization Error: " ++ cause.message ++ ". Response: " ++ response
  | refused e => e.text
  | noEndpoint => "custom error: no RPC endpoints configured"

/-- Whether a node has answered. -/
def isFinal : Failure → Bool
  | refused _ => true
  | _ => false

end Failure

structure Endpoint where
  url : String
  sent : Nat

structure Provider where
  chainId : String
  endpoints : List Endpoint
  active : Nat

/-- What endpoints answer: the body of a response, or why none came. -/
abbrev Network (ν : Type) := ν → (url : String) → (body : Json.Value) → Except String String × ν

structure Contact where
  endpoint : Nat
  request : Request
  id : Nat

namespace Provider

variable {ν α : Type}

def count (p : Provider) : Nat := p.endpoints.length

def position (p : Provider) : Nat := p.active % p.count

def failover (p : Provider) : Provider := { p with active := (p.active + 1) % p.count }

def countRequest (p : Provider) (position : Nat) : Provider :=
  { p with endpoints := p.endpoints.modify position fun e => { e with sent := e.sent + 1 } }

def readResult (result : Json.Reader α) (body : String) : Except Failure α :=
  match Response.ofBody body with
  | .error cause => .error (.unreadable cause body)
  | .ok (.error e) => .error (.refused e)
  | .ok (.result json) =>
    match (Json.Reader.whole result).run' json with
    | .ok a => .ok a
    | .error cause => .error (.unreadable cause (String.ofList json))

/-- What a request leaves: the result, the provider, the network, and the endpoints that were asked.
-/
structure Outcome (ν α : Type) where
  result : Except Failure α
  provider : Provider
  network : ν
  contacts : List Contact

def send (network : Network ν) (r : Request) (result : Json.Reader α) (p : Provider) (s : ν) :
    Outcome ν α :=
  match p.endpoints[p.position]? with
  | none => ⟨.error .noEndpoint, p, s, []⟩
  | some endpoint =>
    let id := endpoint.sent + 1
    let (response, s) := network s endpoint.url (r.body id)
    let answer := match response with
      | .ok body => readResult result body
      | .error text => .error (.unreachable text)
    ⟨answer, p.countRequest p.position, s, [⟨p.position, r, id⟩]⟩

/-- Sends a request to up to so many endpoints, one after another; `last` is why the one before
failed. -/
def attempt (network : Network ν) (r : Request) (result : Json.Reader α) :
    Nat → Failure → Provider → ν → Outcome ν α
  | 0, last, p, s => ⟨.error last, p, s, []⟩
  | tries + 1, _, p, s =>
    let first := send network r result p s
    match first.result with
    | .ok _ => first
    | .error failure =>
      if failure.isFinal then first
      else
        let rest := attempt network r result tries failure first.provider.failover first.network
        { rest with contacts := first.contacts ++ rest.contacts }

def request (network : Network ν) (r : Request) (result : Json.Reader α) (p : Provider) (s : ν) :
    Outcome ν α :=
  attempt network r result p.count .noEndpoint p s

end Provider

end GasSponsor.Rpc
