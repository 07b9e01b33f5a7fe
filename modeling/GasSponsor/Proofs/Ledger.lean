import GasSponsor.Ledger.EthereumData
import GasSponsor.Ledger.Query
import GasSponsor.Ledger.Tx
import GasSponsor.Proofs.Wire.RoundTrip

/-!
# Messages of the ledger, read back

The parts of an envelope, the three families of Ethereum transactions and the queries come back from
their bytes. So does the message that carries a transaction, with the size that the relay leaves at
zero. The size is a floating-point number, of which neither zero is written, so that a negative zero
comes back as the positive one.
-/

namespace GasSponsor.Ledger

instance : Wire.Exact Any := ⟨by decide, by decide, by decide⟩

instance : Wire.Exact Coin := ⟨by decide, by decide, by decide⟩

instance : Wire.Exact TxRaw := ⟨by decide, by decide, by decide⟩

instance : Wire.Exact TxBody := ⟨by decide, by decide, by decide⟩

instance : Wire.Exact AuthInfo := ⟨by decide, by decide, by decide⟩

instance : Wire.Exact SignerInfo := ⟨by decide, by decide, by decide⟩

instance : Wire.Exact ModeInfo := ⟨by decide, by decide, by decide⟩

instance : Wire.Exact ModeInfoSingle := ⟨by decide, by decide, by decide⟩

instance : Wire.Exact Fee := ⟨by decide, by decide, by decide⟩

instance : Wire.Exact SignDoc := ⟨by decide, by decide, by decide⟩

instance : Wire.Exact Secp256k1PubKey := ⟨by decide, by decide, by decide⟩

instance : Wire.Exact LegacyTx := ⟨by decide, by decide, by decide⟩

instance : Wire.Exact AccessListTx := ⟨by decide, by decide, by decide⟩

instance : Wire.Exact DynamicFeeTx := ⟨by decide, by decide, by decide⟩

instance : Wire.Exact AccessTuple := ⟨by decide, by decide, by decide⟩

instance : Wire.Exact ExtensionOptionsEthereumTx := ⟨by decide, by decide, by decide⟩

instance : Wire.Exact QueryAccountRequest := ⟨by decide, by decide, by decide⟩

instance : Wire.Exact QueryAccountResponse := ⟨by decide, by decide, by decide⟩

instance : Wire.Exact BaseAccount := ⟨by decide, by decide, by decide⟩

instance : Wire.Exact EthAccount := ⟨by decide, by decide, by decide⟩

instance : Wire.Exact QueryBaseFeeRequest := ⟨by decide, by decide, by decide⟩

instance : Wire.Exact QueryBaseFeeResponse := ⟨by decide, by decide, by decide⟩

instance : Wire.Exact QueryFeeMarketParamsRequest := ⟨by decide, by decide, by decide⟩

instance : Wire.Exact QueryFeeMarketParamsResponse := ⟨by decide, by decide, by decide⟩

instance : Wire.Exact FeeMarketParams := ⟨by decide, by decide, by decide⟩

instance : Wire.Regular MsgEthereumTx := ⟨by decide, by decide⟩

/-- The size is the only field of the message that might not be read back. -/
theorem MsgEthereumTx.normal_toValue (x : MsgEthereumTx) :
    (Wire.Message.fields MsgEthereumTx).normal (Wire.Message.toValue x) =
      Wire.Message.toValue { x with size := Wire.Scalar.normal .double x.size } := by
  obtain ⟨data, size, hash, sender⟩ := x
  have hdata : (data.map Wire.Message.toValue).map (Wire.Message.fields Any).normal =
      data.map Wire.Message.toValue := by
    cases data with
    | none => rfl
    | some data => exact congrArg some (Wire.isNormal data)
  have hhash : Wire.Scalar.normal .string hash = hash :=
    Wire.Scalar.normal_of_ne_double (s := .string) (by decide) hash
  have hsender : Wire.Scalar.normal .string sender = sender :=
    Wire.Scalar.normal_of_ne_double (s := .string) (by decide) sender
  exact Prod.ext hdata (Prod.ext rfl (Prod.ext hhash (Prod.ext hsender rfl)))

theorem MsgEthereumTx.isNormal_of_size {x : MsgEthereumTx} (h : x.size = ⟨0⟩) :
    Wire.IsNormal x := by
  obtain ⟨data, size, hash, sender⟩ := x
  obtain rfl : size = ⟨0⟩ := h
  exact MsgEthereumTx.normal_toValue _

end GasSponsor.Ledger
