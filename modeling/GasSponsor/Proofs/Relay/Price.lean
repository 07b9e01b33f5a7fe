import GasSponsor.Proofs.Envelope.Contents
import GasSponsor.Proofs.Ethereum.Image
import GasSponsor.Proofs.Projection
import GasSponsor.Proofs.Relay.Outcome

/-!
# The fee of an envelope

Before a request is broadcast it has asked for the height of the latest block, for the base fee at
exactly that height, and, if the policy looks ahead and there is a fee to project, for the denominator
of the fee market. The envelope pays the price that these answers come to, for the gas of its own
message and in the denomination of its own request. No answer to another request has a part in it.
-/

namespace GasSponsor

open Ledger
open Program

def baseAnswers (height : UInt64) (base : Nat) : List Exchange :=
  [⟨.blockResults none, some (.ok height)⟩, ⟨.baseFee height, some (.ok (some base))⟩]

/-- The answers that price the gas of a request, with the base fee and the price of a unit of gas. -/
inductive Priced (e : FeeEstimator) : List Exchange → Nat → Nat → Prop
  | free (height : UInt64) : Priced e (baseAnswers height 0) 0 0
  | current (height : UInt64) (base : Nat) (hbase : base ≠ 0)
      (hpolicy : e.policy = .currentBaseFee) : Priced e (baseAnswers height base) base base
  | projected (height : UInt64) (base : Nat) (denominator : UInt32) (price : Nat) (hbase : base ≠ 0)
      (hpolicy : e.policy = .lookahead)
      (hprice : projectBaseFee base denominator e.lookahead = .ok price) :
      Priced e (baseAnswers height base ++ [⟨.feeMarketParams, some (.ok denominator)⟩]) base price

structure FeeAt (m : Ethereum.Message) (denom : String) (base price : Nat) (fee : Fee) : Prop where
  gasLimit : fee.gasLimit = m.gasLimit
  free : base = 0 ∨ m.gasLimit = 0 → fee.amount = []
  coin : base ≠ 0 → m.gasLimit ≠ 0 →
    fee.amount = [⟨denom, Decimal.encode (price * m.gasLimit.toNat)⟩]

def IsEnvelope (tx : Bytes) (message : MsgEthereumTx) (fee : Fee) : Prop :=
  ∃ (raw : TxRaw) (body : TxBody) (auth : AuthInfo),
    tx = Wire.encode raw ∧ raw.bodyBytes = Wire.encode body ∧
    raw.authInfoBytes = Wire.encode auth ∧
    body.messages = [Any.pack MsgEthereumTx.typeUrl message] ∧ auth.fee = some fee

def DecodesTo (tx : Bytes) (message : MsgEthereumTx) (fee : Fee) : Prop :=
  ∃ (raw : TxRaw) (body : TxBody) (auth : AuthInfo) (value : Bytes),
    Wire.decode tx = .ok raw ∧ Wire.decode raw.bodyBytes = .ok body ∧
    Wire.decode raw.authInfoBytes = .ok auth ∧
    body.messages = [⟨MsgEthereumTx.typeUrl, value⟩] ∧ Wire.decode value = .ok message ∧
    auth.fee = some fee

section

variable {e : FeeEstimator} {gas : UInt64} {denom : String} {xs : List Exchange}
  {base price : Nat} {m : Ethereum.Message}

/-- A unit of gas is never quoted below the base fee. -/
theorem Priced.base_le (h : Priced e xs base price) : base ≤ price := by
  cases h with
  | free height => exact Nat.le_refl 0
  | current height base hbase hpolicy => exact Nat.le_refl base
  | projected height base denominator price hbase hpolicy hprice => exact le_of_projectBaseFee hprice

theorem Priced.price_eq_zero (h : Priced e xs base price) (hbase : base = 0) : price = 0 := by
  cases h with
  | free height => rfl
  | current height base hne hpolicy => exact absurd hbase hne
  | projected height base denominator price hne hpolicy hprice => exact absurd hbase hne

theorem exists_priced {fee : FeeQuote} (h : Quoted e gas denom xs (.ok fee)) :
    ∃ base price, Priced e xs base price ∧ fee = ⟨price * gas.toNat, denom⟩ := by
  cases h with
  | free height => exact ⟨0, 0, .free height, by rw [Nat.zero_mul]⟩
  | current height fee hfee hpolicy => exact ⟨fee, fee, .current height fee hfee hpolicy, rfl⟩
  | projected height fee denominator price hfee hpolicy h =>
      exact ⟨fee, price, .projected height fee denominator price hfee hpolicy h, rfl⟩

theorem feeAt_of_priced (h : Priced e xs base price) (payer : String) :
    FeeAt m denom base price
      ⟨EnvelopeBuilder.coins ⟨price * m.gasLimit.toNat, denom⟩, m.gasLimit, payer, ""⟩ := by
  refine ⟨rfl, fun hnone => EnvelopeBuilder.coins_eq_nil_iff.2 ?_, fun hbase hgas =>
    EnvelopeBuilder.coins_of_ne_zero ?_⟩
  · rcases hnone with hbase | hgas
    · rw [h.price_eq_zero hbase, Nat.zero_mul]
    · rw [hgas]
      exact Nat.mul_zero price
  · have hpos : 0 < price := Nat.lt_of_lt_of_le (Nat.pos_of_ne_zero hbase) h.base_le
    have hunits : m.gasLimit.toNat ≠ 0 := fun hzero => hgas (UInt64.toNat_inj.1 hzero)
    exact Nat.mul_ne_zero (Nat.ne_of_gt hpos) hunits

end

namespace EnvelopeBuilder

variable {b : EnvelopeBuilder} {m : Ethereum.Message} {fee : FeeQuote} {account : AccountInfo}
  {envelope : SignedEnvelope}

theorem isEnvelope_of_build (h : b.build m fee account = .ok envelope) :
    IsEnvelope envelope.tx { m.toLedger with sender := "" }
      ⟨coins fee, m.gasLimit, b.identity.bech32, ""⟩ := by
  obtain ⟨_, signature, _, htx⟩ := build_ok h
  exact ⟨_, body m, b.authInfo m fee account.sequence, htx, rfl, rfl, rfl, rfl⟩

theorem length_body_le (h : b.build m fee account = .ok envelope) :
    (Wire.encode (body m)).length ≤ envelope.tx.length := by
  obtain ⟨_, signature, _, htx⟩ := build_ok h
  rw [htx]
  exact length_bodyBytes_le (b.signedTx m fee account signature)

theorem decodesTo_of_build (h : b.build m fee account = .ok envelope)
    (hlen : envelope.tx.length < UInt64.size) :
    DecodesTo envelope.tx { m.toLedger with sender := "" }
      ⟨coins fee, m.gasLimit, b.identity.bech32, ""⟩ := by
  have hbody : (Wire.encode (body m)).length < UInt64.size :=
    Nat.lt_of_le_of_lt (length_body_le h) hlen
  obtain ⟨_, signature, _, htx⟩ := build_ok h
  rw [htx] at hlen ⊢
  have hauth : (Wire.encode (b.authInfo m fee account.sequence)).length < UInt64.size :=
    Nat.lt_of_le_of_lt (length_authInfoBytes_le (b.signedTx m fee account signature)) hlen
  have hmessage : (Wire.encode { m.toLedger with sender := "" }).length < UInt64.size :=
    Nat.lt_of_le_of_lt (length_message_le m) hbody
  exact ⟨_, body m, b.authInfo m fee account.sequence, _, Wire.decode_encode _ hlen,
    Wire.decode_encode _ hbody, Wire.decode_encode _ hauth, rfl,
    (MsgEthereumTx.isNormal_of_size rfl).decode_encode hmessage, rfl⟩

theorem length_data_le (h : b.build m fee account = .ok envelope) :
    m.data.value.length ≤ envelope.tx.length := by
  have hmem : m.data.value ∈ Wire.parts { m.toLedger with sender := "" } := .head _
  have hdata := Wire.length_le_of_mem_parts hmem
  exact Nat.le_trans hdata (Nat.le_trans (length_message_le m) (length_body_le h))

end EnvelopeBuilder

/-- A message limits its gas as the transaction does that it was decoded from, and so does its data.
-/
theorem Ethereum.Message.exists_gas {raw : Bytes} {m : Ethereum.Message}
    (h : Ethereum.Message.decode raw = .ok m) :
    ∃ t g d, Ethereum.readSigned raw = .ok (t, g) ∧ t.gas.toNat = m.gasLimit.toNat ∧
      m.data = Ethereum.TxData.pack d ∧ d.gas = m.gasLimit := by
  obtain ⟨t, g, hread, hsigned⟩ := Ethereum.Message.exists_signed_of_decode h
  have hholds : m.Holds t g :=
    Ethereum.holds_of_ofSigned (Ethereum.boundTo_of_readSigned hread) hsigned
  obtain ⟨d, hdata, hback⟩ := hholds.data
  refine ⟨t, g, d, hread, hholds.gasLimit.symm, hdata, UInt64.toNat_inj.1 ?_⟩
  rw [hholds.gasLimit, ← Ethereum.TxData.widen_gas_of_signed hback, Ethereum.TxData.toNat_widen]

namespace Relay

section

variable {σ : Type} {worker : Worker} {w : World σ} {log : List Entry}

/-- Before each broadcast stand the account query, if there was one, and the answers from which its
envelope was priced and built. -/
theorem Logged.exists_build (h : Logged worker w log) {d : Dealing} (hd : d ∈ dealings log)
    {older newer : List Exchange} {x : Exchange} {tx : Bytes}
    (hx : d.exchanges = older ++ x :: newer) (htx : x.call = .broadcast tx) :
    ∃ (a b : AccountState) (ys zs : List Exchange) (info : AccountInfo) (fee : FeeQuote)
      (envelope : SignedEnvelope), older = ys ++ zs ∧
      Fetched worker.builder.identity.bech32 a ys b (.ok info) ∧
      Quoted worker.estimator d.request.message.gasLimit d.request.denom zs (.ok fee) ∧
      worker.builder.build d.request.message fee info = .ok envelope ∧ envelope.tx = tx := by
  obtain ⟨front, back, hds⟩ := List.append_of_mem hd
  have hrecorded := h.recorded
  rw [hds] at hrecorded
  obtain ⟨a, _, hbegun⟩ := hrecorded.begun
  obtain ⟨next, hfollows⟩ := hbegun.exists_call hx
  -- the broadcast need not have been answered, so any answer will do to bring the request to its end
  obtain ⟨more, ⟨c, result⟩, hend⟩ := hfollows.exists_completes_call (.error .workerUnavailable)
  have hrelayed := Worker.relayed_of_completes hend
  obtain ⟨ys, zs, b, info, fee, envelope, hold, hfetch, hquote, hbuild, hsame⟩ :=
    hrelayed.exists_build htx
  exact ⟨a, b, ys, zs, info, fee, envelope, hold, hfetch, hquote, hbuild, hsame⟩

theorem fetched_call {address : String} {a b : AccountState} {xs : List Exchange}
    {reply : Except RelayError AccountInfo} (h : Fetched address a xs b reply) :
    ∀ x ∈ xs, x.call = .account address := by
  cases h with
  | cached info h => simp
  | failed e h => exact List.forall_mem_singleton.2 rfl
  | queried info h => exact List.forall_mem_singleton.2 rfl

end

/-- Every broadcast was made for one request, after the answers to that request which price its gas.
The envelope limits its gas as the message does, the transaction that the message was decoded from,
and the data that it carries. It pays nothing if there is no base fee or no gas, and else one coin: the
price for the gas, which is never below the base fee for it. -/
theorem broadcasts_pay_price {σ : Type} (worker : Worker) (node : Node σ) (s : σ) (capacity : Nat)
    (events : List World.Event) :
    let w := (World.start s capacity).run worker node events
    let ds := dealings ((World.start s capacity).log worker node events)
    w.calls = (ds.flatMap Dealing.exchanges).map Exchange.call ∧
    ∀ d ∈ ds, ∀ older x newer, d.exchanges = older ++ x :: newer →
      ∀ tx, x.call = .broadcast tx →
      ∃ account quote base price, older = account ++ quote ∧
        (∀ y ∈ account, y.call = .account worker.builder.identity.bech32) ∧
        Priced worker.estimator quote base price ∧
        base * d.request.message.gasLimit.toNat ≤ price * d.request.message.gasLimit.toNat ∧
        ∃ message fee, IsEnvelope tx message fee ∧
          (tx.length < UInt64.size → DecodesTo tx message fee) ∧
          FeeAt d.request.message d.request.denom base price fee ∧
          message.data = some d.request.message.data ∧
          ∀ raw, Ethereum.Message.decode raw = .ok d.request.message →
            ∃ t g data, Ethereum.readSigned raw = .ok (t, g) ∧
              t.gas.toNat = fee.gasLimit.toNat ∧ data.gas = fee.gasLimit ∧
              d.request.message.data = Ethereum.TxData.pack data ∧
              (tx.length < UInt64.size →
                message.data.bind Ethereum.TxData.unpack? = some data) := by
  intro w ds
  have hlogged := logged worker node s capacity events
  constructor
  · rw [← hlogged.exchanges_eq]
    exact calls_eq worker node s capacity events
  · intro d hd older x newer hx tx htx
    obtain ⟨a, b, ys, zs, info, quote, envelope, rfl, hfetch, hquote, hbuild, rfl⟩ :=
      hlogged.exists_build hd hx htx
    obtain ⟨base, price, hpriced, rfl⟩ := exists_priced hquote
    refine ⟨ys, zs, base, price, rfl, fetched_call hfetch, hpriced,
      Nat.mul_le_mul_right _ hpriced.base_le, _, _, EnvelopeBuilder.isEnvelope_of_build hbuild,
      EnvelopeBuilder.decodesTo_of_build hbuild, feeAt_of_priced hpriced _, rfl, ?_⟩
    intro raw hraw
    obtain ⟨t, g, data, hread, hgas, hpack, hdata⟩ := Ethereum.Message.exists_gas hraw
    refine ⟨t, g, data, hread, hgas, hdata, hpack, fun hlen => ?_⟩
    have hvalue : d.request.message.data.value.length < UInt64.size :=
      Nat.lt_of_le_of_lt (EnvelopeBuilder.length_data_le hbuild) hlen
    rw [hpack] at hvalue
    change (some d.request.message.data).bind Ethereum.TxData.unpack? = some data
    rw [Option.bind_some, hpack]
    exact Ethereum.TxData.unpack?_pack hvalue

end Relay

end GasSponsor
