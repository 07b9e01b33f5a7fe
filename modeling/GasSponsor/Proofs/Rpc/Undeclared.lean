import GasSponsor.Proofs.Ledger.MessageType
import GasSponsor.Proofs.Rpc.AccountQuery
import GasSponsor.Proofs.Wire.Alike

/-!
# Replies with more than is declared

A ledger sends more fields than the relay declares. No message of any type is read differently for
them, and so the account and the change denominator that are found in a reply are those that the
declared fields say, wherever in the reply the others stand.
-/

namespace GasSponsor

open Ledger

namespace Wire

variable {α : Type} [Message α] {a : α} {bs : Bytes}

/-- Bytes of a message beside records of fields that are not declared, in another order of fields
perhaps. -/
structure Sent (a : α) (bs : Bytes) : Prop where
  lt : (encode a).length < UInt64.size
  alike : Alike (Message.fields α) (encode a) bs

theorem Sent.decode_eq [Exact α] (h : Sent a bs)
    (hheight : (Message.fields α).height < depthLimit) : decode bs = .ok a :=
  (h.alike.decode_iff hheight a).1 (decode_encode a h.lt)

end Wire

namespace Rpc

inductive SendsMore (base : BaseAccount) : Any → Prop
  | plain {value : Bytes} (h : Wire.Sent base value) : SendsMore base ⟨BaseAccount.typeUrl, value⟩
  | wrapped {codeHash : String} {value : Bytes}
      (h : Wire.Sent (⟨some base, codeHash⟩ : EthAccount) value) :
      SendsMore base ⟨EthAccount.typeUrl, value⟩

theorem SendsMore.isAccount {base : BaseAccount} {account : Any} (h : SendsMore base account) :
    IsAccount base account := by
  cases h with
  | plain h => exact .plain rfl (h.decode_eq (by decide))
  | wrapped h => exact .wrapped rfl (h.decode_eq (by decide))

theorem feeMarketReply_eq_ok {r : QueryResult} {denominator : UInt32} :
    feeMarketReply r = .ok denominator ↔ r.code = 0 ∧ ∃ bs params, r.bytes = .ok bs ∧
      Wire.decode bs = .ok (⟨some params⟩ : QueryFeeMarketParamsResponse) ∧
      denominator = params.baseFeeChangeDenominator := by
  rw [feeMarketReply, bind_eq_ok]
  constructor
  · rintro ⟨⟨params?⟩, hresponse, hend⟩
    obtain ⟨hcode, bs, hbytes, hread⟩ := QueryResult.response_eq_ok.1 hresponse
    cases params? with
    | some params => exact ⟨hcode, bs, params, hbytes, hread, (Except.ok.inj hend).symm⟩
    | none => cases hend
  · rintro ⟨hcode, bs, params, hbytes, hread, rfl⟩
    exact ⟨_, QueryResult.response_eq_ok.2 ⟨hcode, bs, hbytes, hread⟩, rfl⟩

theorem bytes_of_value {r : QueryResult} {bs : Bytes} (h : r.value = some (Base64.encode bs)) :
    r.bytes = .ok bs := by
  rw [QueryResult.bytes, h]
  exact Base64.decode_encode bs

namespace Connection

variable {ν : Type}

/-- What a query hears last is a result without a code, with these bytes as its value. -/
def Hears (network : Network ν) (c : Connection ν) (call : Call) (bs : Bytes) : Prop :=
  ∃ h r, (heard network c call).getLast? = some h ∧
    Provider.readAnswer QueryResult.reader h.answer = .ok r ∧ r.code = 0 ∧
    r.value = some (Base64.encode bs)

variable {network : Network ν} {c : Connection ν} {bs : Bytes}

theorem Hears.account {address : String} (h : Hears network c (.account address) bs)
    {base : BaseAccount} {account : Any}
    (hsent : Wire.Sent (⟨some account⟩ : QueryAccountResponse) bs) (hsends : SendsMore base account) :
    (answer network c (.account address)).1 = .ok ⟨base.accountNumber, base.sequence⟩ := by
  obtain ⟨h, r, hlast, hanswer, hcode, hvalue⟩ := h
  have hreply : (answer network c (.account address)).1 = accountReply address r :=
    exchange_of_last network hlast hanswer
  have hsaid : Says r (some account) := ⟨bs, bytes_of_value hvalue, hsent.decode_eq (by decide)⟩
  rw [hreply]
  exact accountReply_eq_ok.2 ⟨base, ⟨hcode, account, hsaid, hsends.isAccount⟩, rfl⟩

theorem Hears.feeMarketParams (h : Hears network c .feeMarketParams bs) {params : FeeMarketParams}
    (hsent : Wire.Sent (⟨some params⟩ : QueryFeeMarketParamsResponse) bs) :
    (answer network c .feeMarketParams).1 = .ok params.baseFeeChangeDenominator := by
  obtain ⟨h, r, hlast, hanswer, hcode, hvalue⟩ := h
  have hreply : (answer network c .feeMarketParams).1 = feeMarketReply r :=
    exchange_of_last network hlast hanswer
  rw [hreply]
  exact feeMarketReply_eq_ok.2
    ⟨hcode, bs, params, bytes_of_value hvalue, hsent.decode_eq (by decide), rfl⟩

/-- Records of fields that are not declared, put before any record of a message of any type or of a
message in it, and records of different fields in another order, change nothing in what is read. A
query is therefore answered with the account, and with the change denominator, that the declared
fields of the reply say. -/
theorem undeclared_ignored :
    (∀ (t : MessageType) (as bs : Bytes), Wire.Alike (Wire.Message.fields t.Carrier) as bs →
      ∀ a : t.Carrier, Wire.decode as = .ok a ↔ Wire.decode bs = .ok a) ∧
    ∀ {ν : Type} (network : Network ν) (c : Connection ν) (bs : Bytes),
      (∀ address base account, Hears network c (.account address) bs →
        Wire.Sent (⟨some account⟩ : QueryAccountResponse) bs → SendsMore base account →
        (answer network c (.account address)).1 = .ok ⟨base.accountNumber, base.sequence⟩) ∧
      ∀ params, Hears network c .feeMarketParams bs →
        Wire.Sent (⟨some params⟩ : QueryFeeMarketParamsResponse) bs →
        (answer network c .feeMarketParams).1 = .ok params.baseFeeChangeDenominator := by
  refine ⟨fun t as bs halike a => ?_, fun network c bs => ⟨?_, ?_⟩⟩
  · have hheight : (Wire.Message.fields t.Carrier).height < Wire.depthLimit := by
      cases t <;> decide
    exact halike.decode_iff hheight a
  · exact fun address base account hhears hsent hsends => hhears.account hsent hsends
  · exact fun params hhears hsent => hhears.feeMarketParams hsent

/-- Parameters in the other order behind a field that is not declared, and another such field before
them in the reply. -/
theorem undeclared_ignored_params :
    Wire.decode [0x48, 5, 0x0a, 6, 0x48, 5, 0x18, 2, 0x10, 8] =
      .ok (⟨some ⟨false, 8, 2⟩⟩ : QueryFeeMarketParamsResponse) := by
  have hother : Wire.IsPlainRecord 9 [0x48, 5] :=
    Wire.isPlainRecord_pair (by decide) rfl (by decide) (by decide)
  have hdenominator : Wire.IsPlainRecord 2 [0x10, 8] :=
    Wire.isPlainRecord_pair (by decide) rfl (by decide) (by decide)
  have helasticity : Wire.IsPlainRecord 3 [0x18, 2] :=
    Wire.isPlainRecord_pair (by decide) rfl (by decide) (by decide)
  have hswap : Wire.Alike (Wire.Message.fields FeeMarketParams)
      ([] ++ ([0x10, 8] ++ ([0x18, 2] ++ []))) ([] ++ ([0x18, 2] ++ ([0x10, 8] ++ []))) :=
    .swap Wire.areRecords_nil hdenominator.isRecord helasticity.isRecord (by decide)
  have hparams : Wire.Alike (Wire.Message.fields FeeMarketParams) [0x10, 8, 0x18, 2]
      [0x48, 5, 0x18, 2, 0x10, 8] :=
    hswap.trans (.undeclared Wire.areRecords_nil hother (by decide))
  have hkey : Wire.IsKey 1 .lengthDelimited [0x0a] :=
    ⟨by decide, by decide, Wire.Varint.isWord_singleton (b := 0x0a) (by decide)⟩
  have hsize : Wire.Varint.IsWord ([0x10, 8, 0x18, 2] : Bytes).length [4] :=
    Wire.Varint.isWord_singleton (b := 4) (by decide)
  have hsize' : Wire.Varint.IsWord ([0x48, 5, 0x18, 2, 0x10, 8] : Bytes).length [6] :=
    Wire.Varint.isWord_singleton (b := 6) (by decide)
  have hinner : (Wire.Message.fields QueryFeeMarketParamsResponse).innerAt 1 =
      some (Wire.Message.fields FeeMarketParams) := rfl
  have hinside : Wire.Alike (Wire.Message.fields QueryFeeMarketParamsResponse)
      ([] ++ ([0x0a] ++ (([4] ++ [0x10, 8, 0x18, 2]) ++ [])))
      ([] ++ ([0x0a] ++ (([6] ++ [0x48, 5, 0x18, 2, 0x10, 8]) ++ []))) :=
    .inside Wire.areRecords_nil hkey hinner hsize hsize' hparams
  have halike := hinside.trans (.undeclared Wire.areRecords_nil hother (by decide))
  exact (undeclared_ignored.1 .queryFeeMarketParamsResponse _ _ halike _).1 rfl

end Connection

end Rpc

end GasSponsor
