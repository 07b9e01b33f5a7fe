import GasSponsor.Account
import GasSponsor.Envelope
import GasSponsor.Relay.Channel

/-!
# Relaying one message

The account is made fresh, the fee is quoted, the envelope is built and broadcast, and the response
is applied to the account. The first step that fails ends the request with its error. The sequence
moves only on a response that admits the envelope, and the account becomes stale only on one that
does not agree with the sequence.
-/

namespace GasSponsor.Relay

structure Worker where
  builder : EnvelopeBuilder
  estimator : FeeEstimator

namespace Worker

def settle (account : AccountState) (r : BroadcastResponse) :
    Program (AccountState × Except RelayError BroadcastOutcome) :=
  match r.outcome with
  | .accepted => do
    let account ← account.advance
    return (account, .ok .accepted)
  | .duplicatePending => do
    let account ← account.advance
    return (account, .ok .duplicatePending)
  | .sequenceMismatch =>
    return (account.invalidate, .error (.sequenceMismatch r.code r.codespace r.log))
  | .rejected => return (account, .error (.rejected r.code r.codespace r.log))

/-- Quotes, builds and broadcasts with a fresh account. -/
def submit (w : Worker) (account : AccountState) (info : AccountInfo) (message : Ethereum.Message)
    (denom : String) : Program (AccountState × Except RelayError BroadcastOutcome) := do
  let quote ← w.estimator.estimate message.gasLimit denom
  match quote with
  | .error e => return (account, .error e)
  | .ok quote =>
    match w.builder.build message quote info with
    | .error e => return (account, .error (.build e))
    | .ok envelope => do
      let response ← Program.ask (.broadcast envelope.tx)
      match response with
      | .error e => return (account, .error e)
      | .ok response => settle account response

def outcomeLabel : Except RelayError BroadcastOutcome → String
  | .ok .duplicatePending => "duplicate"
  | .ok _ => "success"
  | .error e => e.kind

def relay (w : Worker) (account : AccountState) (message : Ethereum.Message) (denom : String) :
    Program (AccountState × RelayResult) := do
  let (account, info) ← account.ensureFresh w.builder.identity.bech32
  match info with
  | .error e => do
    Program.note (.outcome e.kind)
    return (account, .error e)
  | .ok info => do
    let (account, outcome) ← w.submit account info message denom
    Program.note (.outcome (outcomeLabel outcome))
    return (account, outcome.map fun _ => message.hash)

end Worker

end GasSponsor.Relay
