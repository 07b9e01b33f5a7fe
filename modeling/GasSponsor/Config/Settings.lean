import GasSponsor.Config.Environment
import GasSponsor.Config.Section
import GasSponsor.Fee

/-!
# Settings

The settings of the relay, read from a TOML document after the references to the environment have
been replaced. The relay and the payer have defaults. Settings under which the relay cannot work are
refused with the first reason.
-/

namespace GasSponsor

structure RelaySettings where
  queueCapacity : UInt64
  lookahead : UInt32
  feePolicy : FeePolicy
  replyTimeoutSeconds : UInt64
  shutdownGraceSeconds : UInt64
deriving DecidableEq, Repr

def RelaySettings.default : RelaySettings := ⟨16384, 2, .lookahead, 30, 10⟩

structure ChainSettings where
  chainId : String
  endpoints : List String
  denom : String
  hrp : String
deriving DecidableEq, Repr

structure PayerSettings where
  keyVariable : String
deriving DecidableEq, Repr

def PayerSettings.default : PayerSettings := ⟨"FEE_PAYER_PRIVATE_KEY"⟩

structure ApiSettings where
  host : String
  port : UInt16
deriving DecidableEq, Repr

structure MetricsSettings where
  enabled : Bool
  port : UInt16
deriving DecidableEq, Repr

structure Settings where
  relay : RelaySettings
  chain : ChainSettings
  payer : PayerSettings
  api : ApiSettings
  metrics : MetricsSettings
deriving DecidableEq, Repr

inductive ConfigError
  | unreadable
  | unparsable
  | noCapacity
  | noLookahead
  | noEndpoints (chainId : String)
  | noChainId
  | noDenom
  | noHrp
deriving DecidableEq, Repr

def ConfigError.message : ConfigError → String
  | unreadable => "Failed to read config file"
  | unparsable => "Failed to parse configuration"
  | noCapacity => "relay.queue_capacity must be greater than zero"
  | noLookahead => "relay.base_fee_lookahead_blocks must be at least 1"
  | noEndpoints chainId => "Chain " ++ chainId ++ " has no RPC URLs configured"
  | noChainId => "chain.chain_id must not be empty"
  | noDenom => "chain.evm_denom must not be empty"
  | noHrp => "chain.bech32_prefix must not be empty"

open Config

def RelaySettings.ofSection (s : Section) : Option RelaySettings := do
  let d := RelaySettings.default
  let capacity ← s.optional "queue_capacity" 0 (natural UInt64.size) d.queueCapacity.toNat
  let lookahead ← s.optional "base_fee_lookahead_blocks" 1 (natural UInt32.size) d.lookahead.toNat
  let policy ← s.optional "fee_policy" 2
    (choice [("lookahead", .lookahead), ("current_base_fee", .currentBaseFee)]) d.feePolicy
  let timeout ← s.optional "reply_timeout_secs" 3 (natural UInt64.size) d.replyTimeoutSeconds.toNat
  let grace ← s.optional "shutdown_grace_secs" 4 (natural UInt64.size) d.shutdownGraceSeconds.toNat
  return ⟨.ofNat capacity, .ofNat lookahead, policy, .ofNat timeout, .ofNat grace⟩

def ChainSettings.ofSection (s : Section) : Option ChainSettings := do
  return ⟨← s.required "chain_id" 0 text, ← s.required "rpc_urls" 1 texts,
    ← s.required "evm_denom" 2 text, ← s.required "bech32_prefix" 3 text⟩

def PayerSettings.ofSection (s : Section) : Option PayerSettings := do
  return ⟨← s.optional "private_key_env" 0 text PayerSettings.default.keyVariable⟩

def ApiSettings.ofSection (s : Section) : Option ApiSettings := do
  return ⟨← s.required "host" 0 text, .ofNat (← s.required "port" 1 (natural UInt16.size))⟩

def MetricsSettings.ofSection (s : Section) : Option MetricsSettings := do
  return ⟨← s.required "enabled" 0 flag, .ofNat (← s.required "port" 1 (natural UInt16.size))⟩

namespace Settings

/-- The settings in a document, not checked. -/
def ofEntries (entries : Toml.Entries) : Option Settings := do
  let s : Section := fun name _ => entries.lookup name
  let relay ← s.optional "relay" 0 (Section.ofValue · >>= RelaySettings.ofSection) .default
  let chain ← s.required "chain" 1 (Section.ofValue · >>= ChainSettings.ofSection)
  let payer ← s.optional "payer" 2 (Section.ofValue · >>= PayerSettings.ofSection) .default
  let api ← s.required "api" 3 (Section.ofValue · >>= ApiSettings.ofSection)
  let metrics ← s.required "metrics" 4 (Section.ofValue · >>= MetricsSettings.ofSection)
  return ⟨relay, chain, payer, api, metrics⟩

def validate (s : Settings) : Except ConfigError Settings :=
  if s.relay.queueCapacity = 0 then .error .noCapacity
  else if s.relay.lookahead = 0 then .error .noLookahead
  else if s.chain.endpoints = [] then .error (.noEndpoints s.chain.chainId)
  else if s.chain.chainId = "" then .error .noChainId
  else if s.chain.denom = "" then .error .noDenom
  else if s.chain.hrp = "" then .error .noHrp
  else .ok s

def ofText (lookup : String → Option String) (text : String) : Except ConfigError Settings :=
  match (Toml.Document.read (Environment.substitute lookup text)).bind ofEntries with
  | some s => s.validate
  | none => .error .unparsable

def ofFile (lookup : String → Option String) (contents : Option String) :
    Except ConfigError Settings :=
  match contents with
  | some text => ofText lookup text
  | none => .error .unreadable

end Settings

end GasSponsor
