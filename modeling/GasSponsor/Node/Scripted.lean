import GasSponsor.Ledger.Tx
import GasSponsor.Node

/-!
# A scripted node

A node that keeps the state of one account and of the fee market, admits an envelope exactly when it
carries the next sequence, and can be told to fail the next calls of a kind, to leave calls of a
kind unanswered, and to answer the next broadcasts by script.
-/

namespace GasSponsor.ScriptedNode

open Ledger

inductive Script
  | honest
  | fail (error : RelayError)
  | respond (response : BroadcastResponse) (bump : Bool)

structure State where
  height : UInt64
  baseFee : Option Nat
  denominator : UInt32
  account : AccountInfo
  failures : List (String × Nat)
  stall : Option String
  script : List Script

def initial : State := ⟨100, some 123, 8, ⟨2, 7⟩, [], none, []⟩

/-- The name under which calls of a kind are failed and stalled. -/
def name : Call → String
  | .blockResults _ => "block_results"
  | .baseFee _ => "base_fee"
  | .feeMarketParams => "fee_market_params"
  | .account _ => "account"
  | .broadcast _ => "broadcast"

def failuresLeft (s : State) (call : String) : Nat := (s.failures.lookup call).getD 0

def setFailures (s : State) (call : String) (count : Nat) : State :=
  { s with failures := (call, count) :: s.failures.filter (·.1 != call) }

def bump (s : State) : State :=
  { s with account := { s.account with sequence := s.account.sequence + 1 } }

def authInfo? (tx : Bytes) : Option AuthInfo :=
  match (Wire.decode tx : Wire.Result TxRaw) with
  | .error _ => none
  | .ok raw =>
    match (Wire.decode raw.authInfoBytes : Wire.Result AuthInfo) with
    | .error _ => none
    | .ok info => some info

def sequenceOf (tx : Bytes) : UInt64 :=
  match authInfo? tx with
  | some info => (info.signerInfos.head?.map SignerInfo.sequence).getD 0
  | none => 0

def feeOf (tx : Bytes) : List Coin :=
  match authInfo? tx with
  | some info => (info.fee.map Fee.amount).getD []
  | none => []

def mismatch (expected got : UInt64) : BroadcastResponse :=
  .coreError BroadcastResponse.codeWrongSequence
    ("account sequence mismatch, expected " ++ Decimal.encode expected.toNat ++ ", got " ++
      Decimal.encode got.toNat)

def answerBroadcast (s : State) (tx : Bytes) : Except RelayError BroadcastResponse × State :=
  let (step, s) := match s.script with
    | [] => (Script.honest, s)
    | step :: rest => (step, { s with script := rest })
  match step with
  | .honest =>
    let got := sequenceOf tx
    if got = s.account.sequence then (.ok ⟨0, "", "", ""⟩, bump s)
    else (.ok (mismatch s.account.sequence got), s)
  | .fail error => (.error error, s)
  | .respond response more => (.ok response, if more then bump s else s)

def answer (s : State) : (c : Call) → GasSponsor.Reply c × State
  | .blockResults _ => (.ok s.height, s)
  | .baseFee _ => (.ok s.baseFee, s)
  | .feeMarketParams => (.ok s.denominator, s)
  | .account _ => (.ok s.account, s)
  | .broadcast tx => answerBroadcast s tx

def node : Node State := fun s c =>
  let left := failuresLeft s (name c)
  if 0 < left then
    (some (.error (.query (name c) "scripted failure")), setFailures s (name c) (left - 1))
  else if s.stall = some (name c) then (none, s)
  else
    let (reply, s) := answer s c
    (some reply, s)

end GasSponsor.ScriptedNode
