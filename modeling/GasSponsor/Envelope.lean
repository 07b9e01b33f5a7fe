import GasSponsor.Ethereum.Message
import GasSponsor.Fee
import GasSponsor.Ledger.Tx
import GasSponsor.Payer

/-!
# Envelopes

A ledger transaction that carries one relayed message and is paid for and signed by the payer. The
sender that the message names is dropped: the payer alone answers for the envelope.
-/

namespace GasSponsor

open Ledger

structure SignedEnvelope where
  tx : Bytes
  hash : String
  sequence : UInt64
deriving DecidableEq, Repr

structure EnvelopeBuilder where
  identity : PayerIdentity
  chainId : String

namespace EnvelopeBuilder

def extension : Any :=
  Any.pack ExtensionOptionsEthereumTx.typeUrl (⟨⟩ : ExtensionOptionsEthereumTx)

def body (m : Ethereum.Message) : TxBody where
  messages := [Any.pack MsgEthereumTx.typeUrl { m.toLedger with sender := "" }]
  memo := ""
  timeoutHeight := 0
  extensionOptions := [extension]

def coins (fee : FeeQuote) : List Coin :=
  if fee.isZero then [] else [⟨fee.denom, Decimal.encode fee.amount⟩]

def authInfo (b : EnvelopeBuilder) (m : Ethereum.Message) (fee : FeeQuote) (sequence : UInt64) :
    AuthInfo where
  signerInfos := [{
    publicKey := some (Any.pack Secp256k1PubKey.typeUrl
      (⟨b.identity.publicKey⟩ : Secp256k1PubKey))
    modeInfo := some ⟨some .direct⟩
    sequence }]
  fee := some {
    amount := coins fee
    gasLimit := m.gasLimit
    payer := b.identity.bech32
    granter := "" }

def signDoc (b : EnvelopeBuilder) (m : Ethereum.Message) (fee : FeeQuote)
    (account : AccountInfo) : SignDoc where
  bodyBytes := Wire.encode (body m)
  authInfoBytes := Wire.encode (b.authInfo m fee account.sequence)
  chainId := b.chainId
  accountNumber := account.accountNumber

/-- The ledger refuses legacy transactions that could be replayed on another chain. -/
def refuses (m : Ethereum.Message) : Bool := m.kind == .legacy && m.chainId.isNone

def build (b : EnvelopeBuilder) (m : Ethereum.Message) (fee : FeeQuote) (account : AccountInfo) :
    Except BuildError SignedEnvelope :=
  if refuses m then
    .error (.unsupportedVariant "legacy transaction without EIP-155 chain id")
  else do
    let doc := b.signDoc m fee account
    let signature ← b.identity.sign (Wire.encode doc)
    let tx := Wire.encode
      ({ bodyBytes := doc.bodyBytes, authInfoBytes := doc.authInfoBytes,
         signatures := [signature] } : TxRaw)
    return ⟨tx, Hex.encodeUpper (Sha256.hash tx).bytes, account.sequence⟩

end EnvelopeBuilder

end GasSponsor
