import GasSponsor.Ethereum.Checksum
import GasSponsor.Ethereum.Transaction
import GasSponsor.Ledger.EthereumData
import GasSponsor.Text.Decimal

/-!
# Transactions as the ledger holds them

The ledger keeps the nonce and the gas limit in 64 bits; all other amounts are decimal text. A
legacy transaction keeps its `v`, a typed one the number of the nonce point that its `v` stands for.
-/

namespace GasSponsor.Ethereum

open Ledger

inductive Field
  | gas
  | nonce
deriving DecidableEq, Repr

def Field.name : Field → String
  | gas => "gas limit"
  | nonce => "nonce"

structure Overflow where
  field : Field
  value : Word
deriving DecidableEq, Repr

def Overflow.message (e : Overflow) : String :=
  e.field.name ++ " " ++ Decimal.encode e.value.toNat ++ " exceeds u64"

def narrow (field : Field) (value : Word) : Except Overflow UInt64 :=
  if value.toNat < UInt64.size then .ok (UInt64.ofNat value.toNat) else .error ⟨field, value⟩

def minimalBytes (value : Word) : Bytes := Bytes.minimal value.toNat

def recipientText : Option Address → String
  | none => ""
  | some address => checksummed address

def Access.tuple (a : Access) : AccessTuple :=
  ⟨checksummed a.address, a.keys.map fun key => Hex.encodePrefixed key.bytes⟩

def decimal (value : Word) : String := Decimal.encode value.toNat

/-- The recovery code of a signature as bytes without leading zeros. -/
def parityBytes (g : Signature) : Bytes := Bytes.minimal g.recoveryCode

def txData (t : Transaction) (g : Signature) : Except Overflow Any := do
  let nonce ← narrow .nonce t.nonce
  let gas ← narrow .gas t.gas
  match t.family with
  | .legacy _ gasPrice =>
    return Any.pack LegacyTx.typeUrl
      { nonce, gasPrice := decimal gasPrice, gas, recipient := recipientText t.recipient,
        value := decimal t.value, data := t.data, v := Bytes.minimal g.v.toNat,
        r := minimalBytes g.r, s := minimalBytes g.s : LegacyTx }
  | .accessList chainId gasPrice accesses =>
    return Any.pack AccessListTx.typeUrl
      { chainId := Decimal.encode chainId.toNat, nonce, gasPrice := decimal gasPrice, gas,
        recipient := recipientText t.recipient, value := decimal t.value, data := t.data,
        accesses := accesses.map Access.tuple, v := parityBytes g, r := minimalBytes g.r,
        s := minimalBytes g.s : AccessListTx }
  | .dynamicFee chainId tipCap feeCap accesses =>
    return Any.pack DynamicFeeTx.typeUrl
      { chainId := Decimal.encode chainId.toNat, nonce, gasTipCap := decimal tipCap,
        gasFeeCap := decimal feeCap, gas, recipient := recipientText t.recipient,
        value := decimal t.value, data := t.data, accesses := accesses.map Access.tuple,
        v := parityBytes g, r := minimalBytes g.r, s := minimalBytes g.s : DynamicFeeTx }

end GasSponsor.Ethereum
