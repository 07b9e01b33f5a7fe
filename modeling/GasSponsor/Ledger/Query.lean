import GasSponsor.Ledger.Any

/-!
# Ledger queries

Requests and responses of the three queries: an account, the base fee of a block, and the parameters
of the fee market.
-/

namespace GasSponsor.Ledger

structure QueryAccountRequest where
  address : String
deriving DecidableEq, Repr

instance : Wire.Message QueryAccountRequest where
  fields :=
    .plain 1 "QueryAccountRequest.address" .string <|
      .nil
  toValue m := (m.address, ())
  ofValue | (address, _) => ⟨address⟩
  ofValue_toValue _ := rfl
  toValue_ofValue _ := rfl

def QueryAccountRequest.path : String := "/cosmos.auth.v1beta1.Query/Account"

structure QueryAccountResponse where
  account : Option Any
deriving DecidableEq, Repr

instance : Wire.Message QueryAccountResponse where
  fields :=
    .message 1 "QueryAccountResponse.account" (Wire.Message.fields Any) <|
      .nil
  toValue m := (m.account.map Wire.Message.toValue, ())
  ofValue | (account, _) => ⟨account.map Wire.Message.ofValue⟩
  ofValue_toValue _ := by simp only [Wire.Message.option_map_ofValue]
  toValue_ofValue _ := by simp only [Wire.Message.option_map_toValue]

structure BaseAccount where
  address : String
  publicKey : Option Any
  accountNumber : UInt64
  sequence : UInt64
deriving DecidableEq, Repr

instance : Wire.Message BaseAccount where
  fields :=
    .plain 1 "BaseAccount.address" .string <|
      .message 2 "BaseAccount.pub_key" (Wire.Message.fields Any) <|
      .plain 3 "BaseAccount.account_number" .uint64 <|
      .plain 4 "BaseAccount.sequence" .uint64 <|
      .nil
  toValue m := (m.address, m.publicKey.map Wire.Message.toValue, m.accountNumber, m.sequence, ())
  ofValue
    | (address, publicKey, accountNumber, sequence, _) =>
      ⟨address, publicKey.map Wire.Message.ofValue, accountNumber, sequence⟩
  ofValue_toValue _ := by simp only [Wire.Message.option_map_ofValue]
  toValue_ofValue _ := by simp only [Wire.Message.option_map_toValue]

def BaseAccount.typeUrl : String := "/cosmos.auth.v1beta1.BaseAccount"

structure EthAccount where
  baseAccount : Option BaseAccount
  codeHash : String
deriving DecidableEq, Repr

instance : Wire.Message EthAccount where
  fields :=
    .message 1 "EthAccount.base_account" (Wire.Message.fields BaseAccount) <|
      .plain 2 "EthAccount.code_hash" .string <|
      .nil
  toValue m := (m.baseAccount.map Wire.Message.toValue, m.codeHash, ())
  ofValue | (baseAccount, codeHash, _) => ⟨baseAccount.map Wire.Message.ofValue, codeHash⟩
  ofValue_toValue _ := by simp only [Wire.Message.option_map_ofValue]
  toValue_ofValue _ := by simp only [Wire.Message.option_map_toValue]

def EthAccount.typeUrl : String := "/ethermint.types.v1.EthAccount"

structure QueryBaseFeeRequest where
deriving DecidableEq, Repr

instance : Wire.Message QueryBaseFeeRequest where
  fields :=
    .nil
  toValue _ := ()
  ofValue _ := ⟨⟩
  ofValue_toValue _ := rfl
  toValue_ofValue := Wire.Fields.value_nil_eq

def QueryBaseFeeRequest.path : String := "/ethermint.evm.v1.Query/BaseFee"

structure QueryBaseFeeResponse where
  baseFee : String
deriving DecidableEq, Repr

instance : Wire.Message QueryBaseFeeResponse where
  fields :=
    .plain 1 "QueryBaseFeeResponse.base_fee" .string <|
      .nil
  toValue m := (m.baseFee, ())
  ofValue | (baseFee, _) => ⟨baseFee⟩
  ofValue_toValue _ := rfl
  toValue_ofValue _ := rfl

structure QueryFeeMarketParamsRequest where
deriving DecidableEq, Repr

instance : Wire.Message QueryFeeMarketParamsRequest where
  fields :=
    .nil
  toValue _ := ()
  ofValue _ := ⟨⟩
  ofValue_toValue _ := rfl
  toValue_ofValue := Wire.Fields.value_nil_eq

def QueryFeeMarketParamsRequest.path : String := "/ethermint.feemarket.v1.Query/Params"

structure FeeMarketParams where
  noBaseFee : Bool
  baseFeeChangeDenominator : UInt32
  elasticityMultiplier : UInt32
deriving DecidableEq, Repr

instance : Wire.Message FeeMarketParams where
  fields :=
    .plain 1 "FeeMarketParams.no_base_fee" .bool <|
      .plain 2 "FeeMarketParams.base_fee_change_denominator" .uint32 <|
      .plain 3 "FeeMarketParams.elasticity_multiplier" .uint32 <|
      .nil
  toValue m := (m.noBaseFee, m.baseFeeChangeDenominator, m.elasticityMultiplier, ())
  ofValue
    | (noBaseFee, baseFeeChangeDenominator, elasticityMultiplier, _) =>
      ⟨noBaseFee, baseFeeChangeDenominator, elasticityMultiplier⟩
  ofValue_toValue _ := rfl
  toValue_ofValue _ := rfl

structure QueryFeeMarketParamsResponse where
  params : Option FeeMarketParams
deriving DecidableEq, Repr

instance : Wire.Message QueryFeeMarketParamsResponse where
  fields :=
    .message 1 "QueryFeeMarketParamsResponse.params" (Wire.Message.fields FeeMarketParams) <|
      .nil
  toValue m := (m.params.map Wire.Message.toValue, ())
  ofValue | (params, _) => ⟨params.map Wire.Message.ofValue⟩
  ofValue_toValue _ := by simp only [Wire.Message.option_map_ofValue]
  toValue_ofValue _ := by simp only [Wire.Message.option_map_toValue]

end GasSponsor.Ledger
