import GasSponsor.Bytes.Hex
import GasSponsor.Rpc.Provider
import GasSponsor.Rpc.Result
import GasSponsor.Rpc.Url

/-!
# The ledger behind a provider

Calls to the node as requests to the endpoints of a provider. Queries of the application go through
one procedure, with the query as a message in hexadecimal; envelopes are broadcast in Base64. A node
that already knows an envelope, or has no room for it, may say so only in the text of an error; the
text of whatever failed last is then read as a response with the code it stands for.
-/

namespace GasSponsor.Rpc

structure Connection (ν : Type) where
  provider : Provider
  network : ν

/-- Keeps the texts that are addresses of endpoints. There must be one. -/
def Provider.create (chainId : String) (urls : List String) : Except RelayError Provider :=
  match urls.filter Url.isUrl with
  | [] => .error (.config ("No valid RPC endpoints for chain " ++ chainId))
  | valid => .ok ⟨chainId, valid.map (⟨·, 0⟩), 0⟩

def heightText (height : Option UInt64) : Json.Value :=
  .string (Decimal.encode (height.getD 0).toNat)

/-- A query of the application at a path. Height zero is the latest. -/
def queryRequest {α : Type} [Wire.Message α] (path : String) (query : α)
    (height : Option UInt64) : Request :=
  ⟨"abci_query", .object [
    ("path", .string path), ("data", .string (Hex.encode (Wire.encode query))),
    ("height", heightText height), ("prove", .bool false)]⟩

def requestOf : Call → Request
  | .blockResults none => ⟨"block_results", .object []⟩
  | .blockResults height => ⟨"block_results", .object [("height", heightText height)]⟩
  | .baseFee height =>
    queryRequest Ledger.QueryBaseFeeRequest.path Ledger.QueryBaseFeeRequest.mk height
  | .feeMarketParams =>
    queryRequest Ledger.QueryFeeMarketParamsRequest.path Ledger.QueryFeeMarketParamsRequest.mk none
  | .account address =>
    queryRequest Ledger.QueryAccountRequest.path (Ledger.QueryAccountRequest.mk address) none
  | .broadcast tx => ⟨"broadcast_tx_sync", .object [("tx", .string (Base64.encode tx))]⟩

def contains (phrase : List Char) : List Char → Bool
  | [] => phrase.isEmpty
  | c :: cs => phrase.isPrefixOf (c :: cs) || contains phrase cs

/-- The code that the text of an error stands for, whatever its case. -/
def codeOfText (text : String) : Option UInt32 :=
  let lower := text.toList.map Char.toLower
  let mentions := fun (phrase : String) => contains phrase.toList lower
  if mentions "tx already exists in cache" then some BroadcastResponse.codeAlreadyPending
  else if mentions "mempool is full" then some BroadcastResponse.codePoolFull
  else if mentions "tx too large" then some BroadcastResponse.codeTooLarge
  else none

def broadcastReply : Except Failure BroadcastResponse → Except RelayError BroadcastResponse
  | .ok response => .ok response
  | .error failure =>
    match codeOfText failure.message with
    | some code => .ok (.coreError code failure.message)
    | none => .error (.transport failure.message)

def queryReply {α β : Type} (name : String) (read : α → Except RelayError β) :
    Except Failure α → Except RelayError β
  | .ok a => read a
  | .error failure => .error (.query name failure.message)

def baseFeeReply (r : QueryResult) : Except RelayError (Option Nat) := do
  let m : Ledger.QueryBaseFeeResponse ← r.response "base_fee"
  BaseFee.ofText m.baseFee

def feeMarketReply (r : QueryResult) : Except RelayError UInt32 := do
  let m : Ledger.QueryFeeMarketParamsResponse ← r.response "fee_market_params"
  match m.params with
  | some params => return params.baseFeeChangeDenominator
  | none => throw (.query "fee_market_params" "response carries no params")

def accountReply (address : String) (r : QueryResult) : Except RelayError AccountInfo := do
  let m : Ledger.QueryAccountResponse ← r.response "account"
  match m.account with
  | some account => accountInfo account
  | none => throw (.query "account" ("account " ++ address ++ " not found"))

namespace Connection

variable {ν : Type}

def exchange {α β : Type} (network : Network ν) (r : Request) (result : Json.Reader α)
    (read : Except Failure α → Except RelayError β) (c : Connection ν) :
    Except RelayError β × Connection ν × List Contact :=
  let outcome := c.provider.request network r result c.network
  (read outcome.result, ⟨outcome.provider, outcome.network⟩, outcome.contacts)

def answer (network : Network ν) (c : Connection ν) (call : Call) :
    Reply call × Connection ν × List Contact :=
  let request := requestOf call
  match call with
  | .blockResults _ =>
    exchange network request BlockResults.reader
      (queryReply "block_results" BlockResults.blockHeight) c
  | .baseFee _ => exchange network request QueryResult.reader (queryReply "base_fee" baseFeeReply) c
  | .feeMarketParams =>
    exchange network request QueryResult.reader (queryReply "fee_market_params" feeMarketReply) c
  | .account address =>
    exchange network request QueryResult.reader (queryReply "account" (accountReply address)) c
  | .broadcast _ => exchange network request BroadcastMembers.reader broadcastReply c

/-- A provider as a node. It always answers, if only with an error. -/
def node (network : Network ν) : Node (Connection ν) := fun c call =>
  let (reply, c, _) := answer network c call
  (some reply, c)

end Connection

end GasSponsor.Rpc
