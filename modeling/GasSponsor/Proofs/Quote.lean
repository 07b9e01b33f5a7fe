import GasSponsor.Fee
import GasSponsor.Proofs.Transcript

/-!
# How a fee is quoted

The transcripts of an estimate, one for each way in which it can end: the height of the latest
block, the base fee at that height, and the parameters of the fee market if the policy looks ahead
and there is a base fee to project. The first answer that is missing ends it.
-/

namespace GasSponsor

open Program

def absentBaseFee (height : UInt64) : RelayError :=
  .query "base_fee" ("no base fee at height " ++ Decimal.encode height.toNat)

def zeroDenominator : RelayError :=
  .query "fee_market_params" "base fee change denominator is zero"

theorem projectBaseFee_error {baseFee : Nat} {denominator lookahead : UInt32} {e : RelayError}
    (h : projectBaseFee baseFee denominator lookahead = .error e) :
    denominator = 0 ∧ e = zeroDenominator := by
  unfold projectBaseFee at h
  split at h
  · next hd => exact ⟨hd, (Except.error.inj h).symm⟩
  · cases h

inductive Quoted (e : FeeEstimator) (gas : UInt64) (denom : String) :
    List Exchange → Except RelayError FeeQuote → Prop
  | noBlock (err : RelayError) : Quoted e gas denom [⟨.blockResults none, some (.error err)⟩]
      (.error err)
  | noBaseFee (height : UInt64) (err : RelayError) : Quoted e gas denom
      [⟨.blockResults none, some (.ok height)⟩, ⟨.baseFee height, some (.error err)⟩] (.error err)
  | absent (height : UInt64) : Quoted e gas denom
      [⟨.blockResults none, some (.ok height)⟩, ⟨.baseFee height, some (.ok none)⟩]
      (.error (absentBaseFee height))
  | free (height : UInt64) : Quoted e gas denom
      [⟨.blockResults none, some (.ok height)⟩, ⟨.baseFee height, some (.ok (some 0))⟩]
      (.ok ⟨0, denom⟩)
  | current (height : UInt64) (fee : Nat) (hfee : fee ≠ 0) (hpolicy : e.policy = .currentBaseFee) :
      Quoted e gas denom
        [⟨.blockResults none, some (.ok height)⟩, ⟨.baseFee height, some (.ok (some fee))⟩]
        (.ok ⟨fee * gas.toNat, denom⟩)
  | noParams (height : UInt64) (fee : Nat) (err : RelayError) (hfee : fee ≠ 0)
      (hpolicy : e.policy = .lookahead) : Quoted e gas denom
        [⟨.blockResults none, some (.ok height)⟩, ⟨.baseFee height, some (.ok (some fee))⟩,
          ⟨.feeMarketParams, some (.error err)⟩]
        (.error err)
  | unprojected (height : UInt64) (fee : Nat) (denominator : UInt32) (err : RelayError)
      (hfee : fee ≠ 0) (hpolicy : e.policy = .lookahead)
      (h : projectBaseFee fee denominator e.lookahead = .error err) : Quoted e gas denom
        [⟨.blockResults none, some (.ok height)⟩, ⟨.baseFee height, some (.ok (some fee))⟩,
          ⟨.feeMarketParams, some (.ok denominator)⟩]
        (.error err)
  | projected (height : UInt64) (fee : Nat) (denominator : UInt32) (price : Nat) (hfee : fee ≠ 0)
      (hpolicy : e.policy = .lookahead)
      (h : projectBaseFee fee denominator e.lookahead = .ok price) : Quoted e gas denom
        [⟨.blockResults none, some (.ok height)⟩, ⟨.baseFee height, some (.ok (some fee))⟩,
          ⟨.feeMarketParams, some (.ok denominator)⟩]
        (.ok ⟨price * gas.toNat, denom⟩)

namespace FeeEstimator

variable {e : FeeEstimator} {gas : UInt64} {denom : String} {xs : List Exchange}

theorem completes_price {fee : Nat} {out : Except RelayError Nat}
    (h : Completes (e.price fee) xs out) :
    (e.policy = .currentBaseFee ∧ xs = [] ∧ out = .ok fee) ∨
      (e.policy = .lookahead ∧ ∃ reply, xs = [⟨.feeMarketParams, some reply⟩] ∧
        out = reply.bind fun denominator => projectBaseFee fee denominator e.lookahead) := by
  unfold price at h
  cases hpolicy : e.policy with
  | currentBaseFee =>
      rw [hpolicy] at h
      exact .inl ⟨rfl, completes_pure.1 h⟩
  | lookahead =>
      rw [hpolicy] at h
      obtain ⟨reply, ys, rfl, hrest⟩ := completes_ask_bind.1 h
      refine .inr ⟨rfl, reply, ?_⟩
      cases reply with
      | error err =>
          obtain ⟨rfl, rfl⟩ := completes_pure.1 hrest
          exact ⟨rfl, rfl⟩
      | ok denominator =>
          obtain ⟨rfl, rfl⟩ := completes_pure.1 hrest
          exact ⟨rfl, rfl⟩

theorem quoted_of_completes {out : Except RelayError FeeQuote}
    (h : Completes (e.estimate gas denom) xs out) : Quoted e gas denom xs out := by
  obtain ⟨block, ys, rfl, hblock⟩ := completes_ask_bind.1 h
  cases block with
  | error err =>
      obtain ⟨rfl, rfl⟩ := completes_pure.1 hblock
      exact .noBlock err
  | ok height =>
      obtain ⟨baseFee, zs, rfl, hfee⟩ := completes_ask_bind.1 hblock
      match baseFee, hfee with
      | .error err, hend =>
          obtain ⟨rfl, rfl⟩ := completes_pure.1 hend
          exact .noBaseFee height err
      | .ok none, hend =>
          obtain ⟨rfl, rfl⟩ := completes_pure.1 hend
          exact .absent height
      | .ok (some 0), hend =>
          obtain ⟨rfl, rfl⟩ := completes_pure.1 hend
          exact .free height
      | .ok (some (fee + 1)), hprice =>
          obtain ⟨_, price, ts, rfl, hcall, hend⟩ := completes_bind.1 hprice
          rcases completes_price hcall with ⟨hpolicy, rfl, rfl⟩ | ⟨hpolicy, reply, rfl, hout⟩
          · rw [completes_note_bind, completes_pure] at hend
            obtain ⟨rfl, rfl⟩ := hend
            exact .current height (fee + 1) (Nat.succ_ne_zero fee) hpolicy
          · cases reply with
            | error err =>
                subst hout
                obtain ⟨rfl, rfl⟩ := completes_pure.1 hend
                exact .noParams height (fee + 1) err (Nat.succ_ne_zero fee) hpolicy
            | ok denominator =>
                change price = projectBaseFee (fee + 1) denominator e.lookahead at hout
                cases price with
                | error err =>
                    obtain ⟨rfl, rfl⟩ := completes_pure.1 hend
                    exact .unprojected height (fee + 1) denominator err (Nat.succ_ne_zero fee)
                      hpolicy hout.symm
                | ok price =>
                    rw [completes_note_bind, completes_pure] at hend
                    obtain ⟨rfl, rfl⟩ := hend
                    exact .projected height (fee + 1) denominator price (Nat.succ_ne_zero fee)
                      hpolicy hout.symm

end FeeEstimator

end GasSponsor
