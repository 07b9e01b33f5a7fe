import GasSponsor.Envelope
import GasSponsor.Wire.Buffer

/-!
# Envelopes built in buffers

The builder with the memory that it asks for: every message goes to a new buffer of its declared
length, and nothing is built where there can be no such buffer. A message that does not fit into its
buffer is an error of the builder.
-/

namespace GasSponsor.EnvelopeBuilder

open Ledger

def write {α : Type} [Wire.Message α] (a : α) : ExceptT BuildError Option Bytes :=
  (Wire.reserve (Wire.encodedLength a)).map fun buffer =>
    (Wire.encodeInto a buffer).mapError fun e => .encoding e.message

def buildBuffered (b : EnvelopeBuilder) (m : Ethereum.Message) (fee : FeeQuote)
    (account : AccountInfo) : ExceptT BuildError Option SignedEnvelope :=
  if refuses m then
    throw (.unsupportedVariant "legacy transaction without EIP-155 chain id")
  else do
    let bodyBytes ← write (body m)
    let authInfoBytes ← write (b.authInfo m fee account.sequence)
    let payload ← write
      (⟨bodyBytes, authInfoBytes, b.chainId, account.accountNumber⟩ : SignDoc)
    let signature ← ExceptT.mk (some (b.identity.sign payload))
    let tx ← write (⟨bodyBytes, authInfoBytes, [signature]⟩ : TxRaw)
    return ⟨tx, Hex.encodeUpper (Sha256.hash tx).bytes, account.sequence⟩

end GasSponsor.EnvelopeBuilder
