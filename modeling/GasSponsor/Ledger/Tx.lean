import GasSponsor.Ledger.Any

/-!
# Ledger transactions

The body and the authorisation of a transaction, the document that is signed, and the envelope that
is broadcast.
-/

namespace GasSponsor.Ledger

structure TxRaw where
  bodyBytes : Bytes
  authInfoBytes : Bytes
  signatures : List Bytes
deriving DecidableEq, Repr

instance : Wire.Message TxRaw where
  fields :=
    .plain 1 "TxRaw.body_bytes" .bytes <|
      .plain 2 "TxRaw.auth_info_bytes" .bytes <|
      .repeated 3 "TxRaw.signatures" .bytes <|
      .nil
  toValue m := (m.bodyBytes, m.authInfoBytes, m.signatures, ())
  ofValue | (bodyBytes, authInfoBytes, signatures, _) => ⟨bodyBytes, authInfoBytes, signatures⟩
  ofValue_toValue _ := rfl
  toValue_ofValue _ := rfl

structure TxBody where
  messages : List Any
  memo : String
  timeoutHeight : UInt64
  extensionOptions : List Any
deriving DecidableEq, Repr

instance : Wire.Message TxBody where
  fields :=
    .messages 1 "TxBody.messages" (Wire.Message.fields Any) <|
      .plain 2 "TxBody.memo" .string <|
      .plain 3 "TxBody.timeout_height" .uint64 <|
      .messages 1023 "TxBody.extension_options" (Wire.Message.fields Any) <|
      .nil
  toValue m :=
    (m.messages.map Wire.Message.toValue, m.memo, m.timeoutHeight,
      m.extensionOptions.map Wire.Message.toValue, ())
  ofValue
    | (messages, memo, timeoutHeight, extensionOptions, _) =>
      ⟨messages.map Wire.Message.ofValue, memo, timeoutHeight,
        extensionOptions.map Wire.Message.ofValue⟩
  ofValue_toValue _ := by simp only [Wire.Message.list_map_ofValue]
  toValue_ofValue _ := by simp only [Wire.Message.list_map_toValue]

structure ModeInfoSingle where
  mode : Int32
deriving DecidableEq, Repr

instance : Wire.Message ModeInfoSingle where
  fields :=
    .plain 1 "ModeInfoSingle.mode" .int32 <|
      .nil
  toValue m := (m.mode, ())
  ofValue | (mode, _) => ⟨mode⟩
  ofValue_toValue _ := rfl
  toValue_ofValue _ := rfl

/-- The signature covers the bytes of the document. -/
def ModeInfoSingle.direct : ModeInfoSingle := ⟨1⟩

structure ModeInfo where
  single : Option ModeInfoSingle
deriving DecidableEq, Repr

instance : Wire.Message ModeInfo where
  fields :=
    .message 1 "ModeInfo.single" (Wire.Message.fields ModeInfoSingle) <|
      .nil
  toValue m := (m.single.map Wire.Message.toValue, ())
  ofValue | (single, _) => ⟨single.map Wire.Message.ofValue⟩
  ofValue_toValue _ := by simp only [Wire.Message.option_map_ofValue]
  toValue_ofValue _ := by simp only [Wire.Message.option_map_toValue]

structure Secp256k1PubKey where
  key : Bytes
deriving DecidableEq, Repr

instance : Wire.Message Secp256k1PubKey where
  fields :=
    .plain 1 "Secp256k1PubKey.key" .bytes <|
      .nil
  toValue m := (m.key, ())
  ofValue | (key, _) => ⟨key⟩
  ofValue_toValue _ := rfl
  toValue_ofValue _ := rfl

def Secp256k1PubKey.typeUrl : String := "/cosmos.crypto.secp256k1.PubKey"

structure SignerInfo where
  publicKey : Option Any
  modeInfo : Option ModeInfo
  sequence : UInt64
deriving DecidableEq, Repr

instance : Wire.Message SignerInfo where
  fields :=
    .message 1 "SignerInfo.public_key" (Wire.Message.fields Any) <|
      .message 2 "SignerInfo.mode_info" (Wire.Message.fields ModeInfo) <|
      .plain 3 "SignerInfo.sequence" .uint64 <|
      .nil
  toValue m :=
    (m.publicKey.map Wire.Message.toValue, m.modeInfo.map Wire.Message.toValue, m.sequence,
      ())
  ofValue
    | (publicKey, modeInfo, sequence, _) =>
      ⟨publicKey.map Wire.Message.ofValue, modeInfo.map Wire.Message.ofValue, sequence⟩
  ofValue_toValue _ := by simp only [Wire.Message.option_map_ofValue]
  toValue_ofValue _ := by simp only [Wire.Message.option_map_toValue]

/-- An amount of one denomination, in decimal digits. -/
structure Coin where
  denom : String
  amount : String
deriving DecidableEq, Repr

instance : Wire.Message Coin where
  fields :=
    .plain 1 "Coin.denom" .string <|
      .plain 2 "Coin.amount" .string <|
      .nil
  toValue m := (m.denom, m.amount, ())
  ofValue | (denom, amount, _) => ⟨denom, amount⟩
  ofValue_toValue _ := rfl
  toValue_ofValue _ := rfl

structure Fee where
  amount : List Coin
  gasLimit : UInt64
  payer : String
  granter : String
deriving DecidableEq, Repr

instance : Wire.Message Fee where
  fields :=
    .messages 1 "Fee.amount" (Wire.Message.fields Coin) <|
      .plain 2 "Fee.gas_limit" .uint64 <|
      .plain 3 "Fee.payer" .string <|
      .plain 4 "Fee.granter" .string <|
      .nil
  toValue m := (m.amount.map Wire.Message.toValue, m.gasLimit, m.payer, m.granter, ())
  ofValue
    | (amount, gasLimit, payer, granter, _) =>
      ⟨amount.map Wire.Message.ofValue, gasLimit, payer, granter⟩
  ofValue_toValue _ := by simp only [Wire.Message.list_map_ofValue]
  toValue_ofValue _ := by simp only [Wire.Message.list_map_toValue]

structure AuthInfo where
  signerInfos : List SignerInfo
  fee : Option Fee
deriving DecidableEq, Repr

instance : Wire.Message AuthInfo where
  fields :=
    .messages 1 "AuthInfo.signer_infos" (Wire.Message.fields SignerInfo) <|
      .message 2 "AuthInfo.fee" (Wire.Message.fields Fee) <|
      .nil
  toValue m := (m.signerInfos.map Wire.Message.toValue, m.fee.map Wire.Message.toValue, ())
  ofValue
    | (signerInfos, fee, _) =>
      ⟨signerInfos.map Wire.Message.ofValue, fee.map Wire.Message.ofValue⟩
  ofValue_toValue _ := by simp only [Wire.Message.list_map_ofValue, Wire.Message.option_map_ofValue]
  toValue_ofValue _ := by simp only [Wire.Message.list_map_toValue, Wire.Message.option_map_toValue]

structure SignDoc where
  bodyBytes : Bytes
  authInfoBytes : Bytes
  chainId : String
  accountNumber : UInt64
deriving DecidableEq, Repr

instance : Wire.Message SignDoc where
  fields :=
    .plain 1 "SignDoc.body_bytes" .bytes <|
      .plain 2 "SignDoc.auth_info_bytes" .bytes <|
      .plain 3 "SignDoc.chain_id" .string <|
      .plain 4 "SignDoc.account_number" .uint64 <|
      .nil
  toValue m := (m.bodyBytes, m.authInfoBytes, m.chainId, m.accountNumber, ())
  ofValue
    | (bodyBytes, authInfoBytes, chainId, accountNumber, _) =>
      ⟨bodyBytes, authInfoBytes, chainId, accountNumber⟩
  ofValue_toValue _ := rfl
  toValue_ofValue _ := rfl

end GasSponsor.Ledger
