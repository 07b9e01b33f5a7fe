import GasSponsor.Program

/-!
# Fees

The price of gas that covers the base fee of the blocks up to the one that takes the envelope. In
each block the base fee grows by at most one part in `denominator`, so that after `lookahead` blocks
it is at most `baseFee * ((denominator + 1) / denominator) ^ lookahead`.
-/

namespace GasSponsor

inductive FeePolicy
  | lookahead
  | currentBaseFee
deriving DecidableEq, Repr

structure FeeQuote where
  amount : Nat
  denom : String
deriving DecidableEq, Repr

def FeeQuote.isZero (q : FeeQuote) : Bool := q.amount == 0

/-- The base fee compounded over the lookahead and rounded down, but at least one for each block. -/
def projectBaseFee (baseFee : Nat) (denominator lookahead : UInt32) : Except RelayError Nat :=
  if denominator = 0 then
    .error (.query "fee_market_params" "base fee change denominator is zero")
  else
    let d := denominator.toNat
    let l := lookahead.toNat
    .ok (max (baseFee * Nat.pow (d + 1) l / Nat.pow d l) l)

structure FeeEstimator where
  lookahead : UInt32
  policy : FeePolicy
deriving DecidableEq, Repr

namespace FeeEstimator

def price (e : FeeEstimator) (baseFee : Nat) : Program (Except RelayError Nat) :=
  match e.policy with
  | .currentBaseFee => return .ok baseFee
  | .lookahead => do
    let params ← Program.ask .feeMarketParams
    match params with
    | .error err => return .error err
    | .ok denominator => return projectBaseFee baseFee denominator e.lookahead

/-- Quotes the fee of a gas limit at the latest block. A base fee of zero is quoted as no fee
without asking for more, and leaves the price that is shown as it was. -/
def estimate (e : FeeEstimator) (gasLimit : UInt64) (denom : String) :
    Program (Except RelayError FeeQuote) := do
  let block ← Program.ask (.blockResults none)
  match block with
  | .error err => return .error err
  | .ok height => do
    let baseFee ← Program.ask (.baseFee height)
    match baseFee with
    | .error err => return .error err
    | .ok none =>
      return .error (.query "base_fee" ("no base fee at height " ++ Decimal.encode height.toNat))
    | .ok (some 0) => return .ok ⟨0, denom⟩
    | .ok (some fee) => do
      let price ← e.price fee
      match price with
      | .error err => return .error err
      | .ok price => do
        Program.note (.feePerGas price)
        return .ok ⟨price * gasLimit.toNat, denom⟩

end FeeEstimator

end GasSponsor
