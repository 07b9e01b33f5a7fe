import GasSponsor.Bytes
import GasSponsor.Error

/-!
# The node

What the relay asks of a ledger node, what a node answers, and how the answer to a broadcast is
read. A node is any function of its own state: nothing is assumed about its answers, nor that it
answers at all.
-/

namespace GasSponsor

structure AccountInfo where
  accountNumber : UInt64
  sequence : UInt64
deriving DecidableEq, Repr

structure BroadcastResponse where
  code : UInt32
  codespace : String
  log : String
  hash : String
deriving DecidableEq, Repr

inductive BroadcastOutcome
  | accepted
  | duplicatePending
  | sequenceMismatch
  | rejected
deriving DecidableEq, Repr

namespace BroadcastResponse

def coreCodespace : String := "sdk"

def codeAlreadyPending : UInt32 := 19

def codePoolFull : UInt32 := 20

def codeTooLarge : UInt32 := 21

def codeWrongSequence : UInt32 := 32

def coreError (code : UInt32) (log : String) : BroadcastResponse :=
  ⟨code, coreCodespace, log, ""⟩

/-- Code zero is acceptance in any codespace. Some nodes leave the codespace of core errors empty.
-/
def outcome (r : BroadcastResponse) : BroadcastOutcome :=
  if r.code = 0 then .accepted
  else if r.codespace = "" ∨ r.codespace = coreCodespace then
    if r.code = codeAlreadyPending then .duplicatePending
    else if r.code = codeWrongSequence then .sequenceMismatch
    else .rejected
  else .rejected

end BroadcastResponse

inductive Call
  | blockResults (height : Option UInt64)
  | baseFee (height : UInt64)
  | feeMarketParams
  | account (address : String)
  | broadcast (tx : Bytes)
deriving DecidableEq, Repr

namespace Call

/-- What a successful call returns: the height of a block, the base fee of a block if it has one,
the change denominator of the fee market, an account, or the response to a broadcast. -/
@[reducible] def Answer : Call → Type
  | blockResults _ => UInt64
  | baseFee _ => Option Nat
  | feeMarketParams => UInt32
  | account _ => AccountInfo
  | broadcast _ => BroadcastResponse

end Call

/-- The answer to a call, or why there is none. -/
abbrev Reply (c : Call) := Except RelayError c.Answer

/-- A node with a state. A call that it does not answer never returns. -/
abbrev Node (σ : Type) := σ → (c : Call) → Option (Reply c) × σ

end GasSponsor
