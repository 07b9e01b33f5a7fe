import GasSponsor.Text.Decimal

/-!
# Errors of the relay

Why a message was not relayed: the caller's message, the ledger, the node, or the relay itself. Only
what may pass on another attempt is retryable.
-/

namespace GasSponsor

/-- Why a message cannot be turned into a signed envelope. No retry of the same message helps. -/
inductive BuildError
  | invalidMessage (text : String)
  | unsupportedVariant (text : String)
  | encoding (text : String)
  | signing (text : String)
deriving DecidableEq, Repr

def BuildError.message : BuildError → String
  | invalidMessage text => "invalid message: " ++ text
  | unsupportedVariant text => "unsupported envelope variant: " ++ text
  | encoding text => "encoding failed: " ++ text
  | signing text => "signing failed: " ++ text

inductive RelayError
  | config (text : String)
  | query (name text : String)
  | build (cause : BuildError)
  | transport (text : String)
  | sequenceMismatch (code : UInt32) (codespace log : String)
  | rejected (code : UInt32) (codespace log : String)
  | workerUnavailable
deriving DecidableEq, Repr

namespace RelayError

def verdict (title : String) (code : UInt32) (codespace log : String) : String :=
  title ++ " (" ++ codespace ++ "/" ++ Decimal.encode code.toNat ++ "): " ++ log

def message : RelayError → String
  | config text => "Configuration error: " ++ text
  | query name text => "Query " ++ name ++ " failed: " ++ text
  | build cause => "Envelope build failed: " ++ cause.message
  | transport text => "Transport error: " ++ text
  | sequenceMismatch code codespace log => verdict "Sequence mismatch" code codespace log
  | rejected code codespace log => verdict "Transaction rejected" code codespace log
  | workerUnavailable => "Relay worker is not running"

def kind : RelayError → String
  | config _ => "config"
  | query .. => "query"
  | build _ => "build"
  | transport _ => "transport"
  | sequenceMismatch .. => "sequence_mismatch"
  | rejected .. => "rejected"
  | workerUnavailable => "unavailable"

def isSequenceMismatch : RelayError → Bool
  | sequenceMismatch .. => true
  | _ => false

def isRetryable : RelayError → Bool
  | query .. => true
  | transport _ => true
  | sequenceMismatch .. => true
  | _ => false

def nodeCode? : RelayError → Option (UInt32 × String)
  | sequenceMismatch code codespace _ => some (code, codespace)
  | rejected code codespace _ => some (code, codespace)
  | _ => none

end RelayError

end GasSponsor
