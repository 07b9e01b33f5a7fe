import GasSponsor.Ledger.Any

/-!
# Ethereum transactions as ledger messages

The three families of transactions, with amounts in decimal digits, addresses as text and the
numbers of the signature as bytes without leading zeros, and the message that carries one of them.
-/

namespace GasSponsor.Ledger

structure LegacyTx where
  nonce : UInt64
  gasPrice : String
  gas : UInt64
  recipient : String
  value : String
  data : Bytes
  v : Bytes
  r : Bytes
  s : Bytes
deriving DecidableEq, Repr

instance : Wire.Message LegacyTx where
  fields :=
    .plain 1 "LegacyTx.nonce" .uint64 <|
      .plain 2 "LegacyTx.gas_price" .string <|
      .plain 3 "LegacyTx.gas" .uint64 <|
      .plain 4 "LegacyTx.to" .string <|
      .plain 5 "LegacyTx.value" .string <|
      .plain 6 "LegacyTx.data" .bytes <|
      .plain 7 "LegacyTx.v" .bytes <|
      .plain 8 "LegacyTx.r" .bytes <|
      .plain 9 "LegacyTx.s" .bytes <|
      .nil
  toValue m := (m.nonce, m.gasPrice, m.gas, m.recipient, m.value, m.data, m.v, m.r, m.s, ())
  ofValue
    | (nonce, gasPrice, gas, recipient, value, data, v, r, s, _) =>
      ⟨nonce, gasPrice, gas, recipient, value, data, v, r, s⟩
  ofValue_toValue _ := rfl
  toValue_ofValue _ := rfl

def LegacyTx.typeUrl : String := "/ethermint.evm.v1.LegacyTx"

structure AccessTuple where
  address : String
  storageKeys : List String
deriving DecidableEq, Repr

instance : Wire.Message AccessTuple where
  fields :=
    .plain 1 "AccessTuple.address" .string <|
      .repeated 2 "AccessTuple.storage_keys" .string <|
      .nil
  toValue m := (m.address, m.storageKeys, ())
  ofValue | (address, storageKeys, _) => ⟨address, storageKeys⟩
  ofValue_toValue _ := rfl
  toValue_ofValue _ := rfl

structure AccessListTx where
  chainId : String
  nonce : UInt64
  gasPrice : String
  gas : UInt64
  recipient : String
  value : String
  data : Bytes
  accesses : List AccessTuple
  v : Bytes
  r : Bytes
  s : Bytes
deriving DecidableEq, Repr

instance : Wire.Message AccessListTx where
  fields :=
    .plain 1 "AccessListTx.chain_id" .string <|
      .plain 2 "AccessListTx.nonce" .uint64 <|
      .plain 3 "AccessListTx.gas_price" .string <|
      .plain 4 "AccessListTx.gas" .uint64 <|
      .plain 5 "AccessListTx.to" .string <|
      .plain 6 "AccessListTx.value" .string <|
      .plain 7 "AccessListTx.data" .bytes <|
      .messages 8 "AccessListTx.accesses" (Wire.Message.fields AccessTuple) <|
      .plain 9 "AccessListTx.v" .bytes <|
      .plain 10 "AccessListTx.r" .bytes <|
      .plain 11 "AccessListTx.s" .bytes <|
      .nil
  toValue m :=
    (m.chainId, m.nonce, m.gasPrice, m.gas, m.recipient, m.value, m.data,
      m.accesses.map Wire.Message.toValue, m.v, m.r, m.s, ())
  ofValue
    | (chainId, nonce, gasPrice, gas, recipient, value, data, accesses, v, r, s, _) =>
      ⟨chainId, nonce, gasPrice, gas, recipient, value, data,
        accesses.map Wire.Message.ofValue, v, r, s⟩
  ofValue_toValue _ := by simp only [Wire.Message.list_map_ofValue]
  toValue_ofValue _ := by simp only [Wire.Message.list_map_toValue]

def AccessListTx.typeUrl : String := "/ethermint.evm.v1.AccessListTx"

structure DynamicFeeTx where
  chainId : String
  nonce : UInt64
  gasTipCap : String
  gasFeeCap : String
  gas : UInt64
  recipient : String
  value : String
  data : Bytes
  accesses : List AccessTuple
  v : Bytes
  r : Bytes
  s : Bytes
deriving DecidableEq, Repr

instance : Wire.Message DynamicFeeTx where
  fields :=
    .plain 1 "DynamicFeeTx.chain_id" .string <|
      .plain 2 "DynamicFeeTx.nonce" .uint64 <|
      .plain 3 "DynamicFeeTx.gas_tip_cap" .string <|
      .plain 4 "DynamicFeeTx.gas_fee_cap" .string <|
      .plain 5 "DynamicFeeTx.gas" .uint64 <|
      .plain 6 "DynamicFeeTx.to" .string <|
      .plain 7 "DynamicFeeTx.value" .string <|
      .plain 8 "DynamicFeeTx.data" .bytes <|
      .messages 9 "DynamicFeeTx.accesses" (Wire.Message.fields AccessTuple) <|
      .plain 10 "DynamicFeeTx.v" .bytes <|
      .plain 11 "DynamicFeeTx.r" .bytes <|
      .plain 12 "DynamicFeeTx.s" .bytes <|
      .nil
  toValue m :=
    (m.chainId, m.nonce, m.gasTipCap, m.gasFeeCap, m.gas, m.recipient, m.value, m.data,
      m.accesses.map Wire.Message.toValue, m.v, m.r, m.s, ())
  ofValue
    | (chainId, nonce, gasTipCap, gasFeeCap, gas, recipient, value, data, accesses, v, r, s,
      _) =>
      ⟨chainId, nonce, gasTipCap, gasFeeCap, gas, recipient, value, data,
        accesses.map Wire.Message.ofValue, v, r, s⟩
  ofValue_toValue _ := by simp only [Wire.Message.list_map_ofValue]
  toValue_ofValue _ := by simp only [Wire.Message.list_map_toValue]

def DynamicFeeTx.typeUrl : String := "/ethermint.evm.v1.DynamicFeeTx"

structure MsgEthereumTx where
  data : Option Any
  size : Wire.Double
  hash : String
  sender : String
deriving DecidableEq, Repr

instance : Wire.Message MsgEthereumTx where
  fields :=
    .message 1 "MsgEthereumTx.data" (Wire.Message.fields Any) <|
      .plain 2 "MsgEthereumTx.size" .double <|
      .plain 3 "MsgEthereumTx.hash" .string <|
      .plain 4 "MsgEthereumTx.from" .string <|
      .nil
  toValue m := (m.data.map Wire.Message.toValue, m.size, m.hash, m.sender, ())
  ofValue | (data, size, hash, sender, _) => ⟨data.map Wire.Message.ofValue, size, hash, sender⟩
  ofValue_toValue _ := by simp only [Wire.Message.option_map_ofValue]
  toValue_ofValue _ := by simp only [Wire.Message.option_map_toValue]

def MsgEthereumTx.typeUrl : String := "/ethermint.evm.v1.MsgEthereumTx"

structure ExtensionOptionsEthereumTx where
deriving DecidableEq, Repr

instance : Wire.Message ExtensionOptionsEthereumTx where
  fields :=
    .nil
  toValue _ := ()
  ofValue _ := ⟨⟩
  ofValue_toValue _ := rfl
  toValue_ofValue := Wire.Fields.value_nil_eq

def ExtensionOptionsEthereumTx.typeUrl : String := "/ethermint.evm.v1.ExtensionOptionsEthereumTx"

end GasSponsor.Ledger
