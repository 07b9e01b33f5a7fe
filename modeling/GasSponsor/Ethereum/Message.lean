import GasSponsor.Error
import GasSponsor.Ethereum.Reader
import GasSponsor.Ethereum.TxData

/-!
# Relayed messages

A signed transaction as the relay takes it from a caller: decoded once, never altered, and carried
to the ledger in the ledger's own form together with its hash and its sender.
-/

namespace GasSponsor.Ethereum

open Ledger

structure Message where
  hash : Digest
  gasLimit : UInt64
  chainId : Option UInt64
  kind : Kind
  sender : Address
  data : Any
deriving DecidableEq

inductive DecodeError
  | empty
  | malformed (cause : Rlp.Error)
  | badSignature
  | overflow (cause : Overflow)
  | hex (cause : Hex.Error)
deriving DecidableEq

def rlpErrorName : Rlp.Error → String
  | .tooShort => "RlpIsTooShort"
  | .tooBig => "RlpIsTooBig"
  | .invalidIndirection => "RlpInvalidIndirection"
  | .lengthWithZeroPrefix => "RlpDataLenWithZeroPrefix"
  | .expectedBytes => "RlpExpectedToBeData"
  | .expectedList => "RlpExpectedToBeList"
  | .emptySlice => "Custom(\"empty slice\")"
  | .unknownType => "Custom(\"invalid tx type\")"

def DecodeError.text : DecodeError → String
  | empty => "empty transaction bytes"
  | malformed cause => "malformed transaction: " ++ rlpErrorName cause
  | badSignature => "malformed transaction: signature error"
  | overflow cause => cause.message
  | hex cause => "invalid hex: " ++ cause.message

def DecodeError.toBuildError (e : DecodeError) : BuildError := .invalidMessage e.text

namespace Message

/-- The message of a signed transaction, without its hash. The sender is recovered from the
canonical form of the transaction, whatever form it was read from. -/
def ofSigned (hash : Digest) (t : Transaction) (g : Signature) : Except DecodeError Message := do
  match g.recover? t.signingHash with
  | none => .error .badSignature
  | some sender => do
    let gasLimit ← (narrow .gas t.gas).mapError .overflow
    let data ← (txData t g).mapError .overflow
    return ⟨hash, gasLimit, t.family.chainId, t.family.kind, sender, data⟩

/-- Decodes the bytes of a signed transaction. The hash is that of all bytes given. -/
def decode (raw : Bytes) : Except DecodeError Message :=
  if raw.isEmpty then .error .empty
  else do
    let (t, g) ← (readSigned raw).mapError .malformed
    ofSigned (Keccak.hash raw) t g

def decodeHex (text : String) : Except DecodeError Message := do
  let raw ← (Hex.decode (Hex.dropMark text)).mapError .hex
  decode raw

def toLedger (m : Message) : MsgEthereumTx where
  data := some m.data
  size := ⟨0⟩
  hash := Hex.encodePrefixed m.hash.bytes
  sender := Hex.encodePrefixed m.sender.bytes

end Message

end GasSponsor.Ethereum
