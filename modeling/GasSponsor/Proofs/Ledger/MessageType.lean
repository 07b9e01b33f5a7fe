import GasSponsor.Proofs.Ledger
import GasSponsor.Proofs.Wire.Canonical

/-!
# Every type of messages, there and back

A message of any type is read from its own bytes, and is what it was, except that a size that is a
negative zero is read as the positive one. Two messages of a type therefore have the same bytes just
when they are the same in everything but the sign of such a zero. A byte string that is accepted is
written again as bytes that are accepted, and these are written again as themselves. What is written
must be fewer than 2 ^ 64 bytes, the most that a length can say; a string of fewer than 2 ^ 63 bytes,
the longest that a machine can hold, is never read as a message that takes more.
-/

namespace GasSponsor.Ledger

inductive MessageType
  | any
  | coin
  | txRaw
  | txBody
  | authInfo
  | signerInfo
  | modeInfo
  | modeInfoSingle
  | fee
  | signDoc
  | secp256k1PubKey
  | msgEthereumTx
  | legacyTx
  | accessListTx
  | dynamicFeeTx
  | accessTuple
  | extensionOptionsEthereumTx
  | queryAccountRequest
  | queryAccountResponse
  | baseAccount
  | ethAccount
  | queryBaseFeeRequest
  | queryBaseFeeResponse
  | queryFeeMarketParamsRequest
  | queryFeeMarketParamsResponse
  | feeMarketParams
deriving DecidableEq, Repr

namespace MessageType

@[reducible] def Carrier : MessageType → Type
  | any => Any
  | coin => Coin
  | txRaw => TxRaw
  | txBody => TxBody
  | authInfo => AuthInfo
  | signerInfo => SignerInfo
  | modeInfo => ModeInfo
  | modeInfoSingle => ModeInfoSingle
  | fee => Fee
  | signDoc => SignDoc
  | secp256k1PubKey => Secp256k1PubKey
  | msgEthereumTx => MsgEthereumTx
  | legacyTx => LegacyTx
  | accessListTx => AccessListTx
  | dynamicFeeTx => DynamicFeeTx
  | accessTuple => AccessTuple
  | extensionOptionsEthereumTx => ExtensionOptionsEthereumTx
  | queryAccountRequest => QueryAccountRequest
  | queryAccountResponse => QueryAccountResponse
  | baseAccount => BaseAccount
  | ethAccount => EthAccount
  | queryBaseFeeRequest => QueryBaseFeeRequest
  | queryBaseFeeResponse => QueryBaseFeeResponse
  | queryFeeMarketParamsRequest => QueryFeeMarketParamsRequest
  | queryFeeMarketParamsResponse => QueryFeeMarketParamsResponse
  | feeMarketParams => FeeMarketParams

instance (t : MessageType) : Wire.Message t.Carrier :=
  match t with
  | any => inferInstanceAs (Wire.Message Any)
  | coin => inferInstanceAs (Wire.Message Coin)
  | txRaw => inferInstanceAs (Wire.Message TxRaw)
  | txBody => inferInstanceAs (Wire.Message TxBody)
  | authInfo => inferInstanceAs (Wire.Message AuthInfo)
  | signerInfo => inferInstanceAs (Wire.Message SignerInfo)
  | modeInfo => inferInstanceAs (Wire.Message ModeInfo)
  | modeInfoSingle => inferInstanceAs (Wire.Message ModeInfoSingle)
  | fee => inferInstanceAs (Wire.Message Fee)
  | signDoc => inferInstanceAs (Wire.Message SignDoc)
  | secp256k1PubKey => inferInstanceAs (Wire.Message Secp256k1PubKey)
  | msgEthereumTx => inferInstanceAs (Wire.Message MsgEthereumTx)
  | legacyTx => inferInstanceAs (Wire.Message LegacyTx)
  | accessListTx => inferInstanceAs (Wire.Message AccessListTx)
  | dynamicFeeTx => inferInstanceAs (Wire.Message DynamicFeeTx)
  | accessTuple => inferInstanceAs (Wire.Message AccessTuple)
  | extensionOptionsEthereumTx => inferInstanceAs (Wire.Message ExtensionOptionsEthereumTx)
  | queryAccountRequest => inferInstanceAs (Wire.Message QueryAccountRequest)
  | queryAccountResponse => inferInstanceAs (Wire.Message QueryAccountResponse)
  | baseAccount => inferInstanceAs (Wire.Message BaseAccount)
  | ethAccount => inferInstanceAs (Wire.Message EthAccount)
  | queryBaseFeeRequest => inferInstanceAs (Wire.Message QueryBaseFeeRequest)
  | queryBaseFeeResponse => inferInstanceAs (Wire.Message QueryBaseFeeResponse)
  | queryFeeMarketParamsRequest => inferInstanceAs (Wire.Message QueryFeeMarketParamsRequest)
  | queryFeeMarketParamsResponse => inferInstanceAs (Wire.Message QueryFeeMarketParamsResponse)
  | feeMarketParams => inferInstanceAs (Wire.Message FeeMarketParams)

/-- The size is the only field of any message that might not be read back. -/
theorem exact_of_ne {t : MessageType} (h : t ≠ .msgEthereumTx) : Wire.Exact t.Carrier := by
  cases t with
  | msgEthereumTx => exact absurd rfl h
  | _ => exact inferInstance

instance (t : MessageType) : Wire.Regular t.Carrier := by
  by_cases h : t = .msgEthereumTx
  · subst h
    exact inferInstanceAs (Wire.Regular MsgEthereumTx)
  · have := exact_of_ne h
    infer_instance

/-- A message as it is read from its bytes: a size of negative zero comes back as the positive one. -/
def readBack : (t : MessageType) → t.Carrier → t.Carrier
  | .msgEthereumTx, (m : MsgEthereumTx) =>
    { m with size := if m.size.bits = 0x8000000000000000 then ⟨0⟩ else m.size }
  | _, a => a

theorem readBack_of_ne {t : MessageType} (h : t ≠ .msgEthereumTx) (a : t.Carrier) :
    t.readBack a = a := by
  cases t with
  | msgEthereumTx => exact absurd rfl h
  | _ => rfl

theorem readBack_msgEthereumTx (m : MsgEthereumTx) :
    Wire.readBack m = readBack .msgEthereumTx m := by
  obtain ⟨data, ⟨bits⟩, hash, sender⟩ := m
  have hzero : Wire.Scalar.normal .double ⟨bits⟩ =
      if bits = 0x8000000000000000 then ⟨0⟩ else ⟨bits⟩ := by
    by_cases hbits : bits = 0
    · subst hbits
      rfl
    · simp [Wire.Scalar.normal, Wire.Scalar.isDefault, Wire.Scalar.default, hbits]
  rw [Wire.readBack, MsgEthereumTx.normal_toValue, Wire.Message.ofValue_toValue, hzero]
  rfl

theorem readBack_eq (t : MessageType) (a : t.Carrier) : Wire.readBack a = t.readBack a := by
  by_cases h : t = .msgEthereumTx
  · subst h
    exact readBack_msgEthereumTx a
  · have := exact_of_ne h
    rw [readBack_of_ne h, Wire.readBack_eq]

/-- Every message comes back from its bytes, the bytes are those of no other message, and what is
written for an accepted byte string is read as what was written. -/
theorem round_trip (t : MessageType) :
    (∀ a : t.Carrier, (Wire.encode a).length < UInt64.size →
      Wire.decode (Wire.encode a) = .ok (t.readBack a)) ∧
    (∀ a b : t.Carrier, (Wire.encode a).length < UInt64.size →
      (Wire.encode a = Wire.encode b ↔ t.readBack a = t.readBack b)) ∧
    ∀ (bs : Bytes) (a : t.Carrier), bs.length < 2 ^ 63 → Wire.decode bs = .ok a →
      Wire.decode (Wire.encode a) = .ok (t.readBack a) ∧
        Wire.encode (t.readBack a) = Wire.encode a := by
  simp only [← readBack_eq]
  refine ⟨Wire.decode_encode_eq, fun a b => Wire.encode_eq_iff, fun bs a hlen h => ⟨?_, ?_⟩⟩
  · exact Wire.decode_encode_eq a (Wire.length_encode_lt hlen h)
  · exact Wire.encode_readBack a

/-- A message that is there but empty, and a size that is a negative zero. -/
theorem round_trip_negative_zero :
    Wire.decode (Wire.encode (⟨some ⟨"", []⟩, ⟨0x8000000000000000⟩, "", ""⟩ : MsgEthereumTx)) =
        .ok (⟨some ⟨"", []⟩, ⟨0⟩, "", ""⟩ : MsgEthereumTx) ∧
      Wire.encode (⟨some ⟨"", []⟩, ⟨0x8000000000000000⟩, "", ""⟩ : MsgEthereumTx) =
        Wire.encode (⟨some ⟨"", []⟩, ⟨0⟩, "", ""⟩ : MsgEthereumTx) ∧
      Wire.decode [0x0a, 0, 0x11, 0, 0, 0, 0, 0, 0, 0, 0x80] =
        .ok (⟨some ⟨"", []⟩, ⟨0x8000000000000000⟩, "", ""⟩ : MsgEthereumTx) ∧
      Wire.encode (⟨some ⟨"", []⟩, ⟨0⟩, "", ""⟩ : MsgEthereumTx) =
        Wire.encode (⟨some ⟨"", []⟩, ⟨0x8000000000000000⟩, "", ""⟩ : MsgEthereumTx) := by
  obtain ⟨hback, hsame, hagain⟩ := round_trip .msgEthereumTx
  have hbytes : Wire.decode [0x0a, 0, 0x11, 0, 0, 0, 0, 0, 0, 0, 0x80] =
      .ok (⟨some ⟨"", []⟩, ⟨0x8000000000000000⟩, "", ""⟩ : MsgEthereumTx) := rfl
  have hlen := Wire.length_encode_lt (by decide) hbytes
  exact ⟨hback _ hlen, (hsame _ _ hlen).2 rfl, hbytes, (hagain _ _ (by decide) hbytes).2⟩

end MessageType

end GasSponsor.Ledger
