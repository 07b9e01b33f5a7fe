import GasSponsor.Proofs.Envelope

/-!
# What is read in an envelope

The builder refuses a legacy message that names no chain, and fails otherwise only where the key does
not sign. In every envelope that it makes, a ledger reads back layer by layer what the envelope was
made from: the message without its sender, the payer as the only signer and the one who pays, and
the payer's signature of exactly the bytes that were read.
-/

namespace GasSponsor

open Ledger

/-- Nothing in the message keeps it from being replayed on another chain. -/
def Ethereum.Message.Replayable (m : Ethereum.Message) : Prop := m.kind = .legacy ∧ m.chainId = none

structure CarriesMessage (body : TxBody) (m : Ethereum.Message) : Prop where
  message : ∃ value, body.messages = [⟨MsgEthereumTx.typeUrl, value⟩] ∧
    Wire.decode value = .ok { m.toLedger with sender := "" }
  extension : ∃ value, body.extensionOptions = [⟨ExtensionOptionsEthereumTx.typeUrl, value⟩] ∧
    Wire.decode value = .ok (⟨⟩ : ExtensionOptionsEthereumTx)
  memo : body.memo = ""
  timeoutHeight : body.timeoutHeight = 0

structure NamesPayer (auth : AuthInfo) (p : PayerIdentity) (m : Ethereum.Message) (fee : FeeQuote)
    (sequence : UInt64) : Prop where
  signer : ∃ value, auth.signerInfos =
      [⟨some ⟨Secp256k1PubKey.typeUrl, value⟩, some ⟨some .direct⟩, sequence⟩] ∧
    Wire.decode value = .ok (⟨p.publicKey⟩ : Secp256k1PubKey)
  fee : ∃ coins, auth.fee = some ⟨coins, m.gasLimit, p.bech32, ""⟩ ∧
    (coins = [] ↔ fee.amount = 0) ∧
    (fee.amount ≠ 0 → coins = [⟨fee.denom, Decimal.encode fee.amount⟩])

/-- The payer's only signature, of the bytes of the body and the authorisation as they stand in the
envelope. It verifies under the payer's key wherever all signatures of the payer do. -/
structure SignedBy (raw : TxRaw) (p : PayerIdentity) (chainId : String) (accountNumber : UInt64)
    (signature : Bytes) : Prop where
  signatures : raw.signatures = [signature]
  signed : p.sign (Wire.encode
    (⟨raw.bodyBytes, raw.authInfoBytes, chainId, accountNumber⟩ : SignDoc)) = .ok signature
  verifies : ∀ verify : Bytes → Bytes → Bytes → Prop,
    (∀ payload s, p.sign payload = .ok s → verify p.publicKey payload s) →
    verify p.publicKey (Wire.encode
      (⟨raw.bodyBytes, raw.authInfoBytes, chainId, accountNumber⟩ : SignDoc)) signature

namespace EnvelopeBuilder

variable {b : EnvelopeBuilder} {m : Ethereum.Message} {fee : FeeQuote} {account : AccountInfo}

theorem refuses_iff : refuses m = true ↔ m.Replayable := by
  rw [refuses, Bool.and_eq_true, beq_iff_eq, Option.isNone_iff_eq_none]
  rfl

theorem isZero_iff : fee.isZero = true ↔ fee.amount = 0 := beq_iff_eq

theorem coins_eq_nil_iff : coins fee = [] ↔ fee.amount = 0 := by
  rw [coins, ← isZero_iff]
  split
  · next hzero => exact iff_of_true rfl hzero
  · next hzero => exact iff_of_false (List.cons_ne_nil _ _) hzero

theorem coins_of_ne_zero (h : fee.amount ≠ 0) :
    coins fee = [⟨fee.denom, Decimal.encode fee.amount⟩] := by
  rw [coins, if_neg (mt isZero_iff.1 h)]

def signedTx (b : EnvelopeBuilder) (m : Ethereum.Message) (fee : FeeQuote) (account : AccountInfo)
    (signature : Bytes) : TxRaw :=
  ⟨Wire.encode (body m), Wire.encode (b.authInfo m fee account.sequence), [signature]⟩

/-- What is built of a message that is not refused depends on the signature alone. -/
theorem build_of_not_replayable (b : EnvelopeBuilder) (fee : FeeQuote) (account : AccountInfo)
    (h : ¬ m.Replayable) :
    b.build m fee account =
      (b.identity.sign (Wire.encode (b.signDoc m fee account))).map fun signature =>
        let tx := Wire.encode (b.signedTx m fee account signature)
        ⟨tx, Hex.encodeUpper (Sha256.hash tx).bytes, account.sequence⟩ := by
  rw [build, if_neg (mt refuses_iff.1 h)]
  dsimp only
  cases b.identity.sign (Wire.encode (b.signDoc m fee account)) with
  | error e => rfl
  | ok signature => rfl

theorem length_message_le (m : Ethereum.Message) :
    (Wire.encode { m.toLedger with sender := "" }).length ≤ (Wire.encode (body m)).length := by
  have hmem : Wire.encode { m.toLedger with sender := "" } ∈ Wire.parts (body m) := .head _
  exact Wire.length_le_of_mem_parts hmem

theorem length_publicKey_le (b : EnvelopeBuilder) (m : Ethereum.Message) (fee : FeeQuote)
    (sequence : UInt64) :
    (Wire.encode (⟨b.identity.publicKey⟩ : Secp256k1PubKey)).length ≤
      (Wire.encode (b.authInfo m fee sequence)).length := by
  have hmem : Wire.encode (⟨b.identity.publicKey⟩ : Secp256k1PubKey) ∈
      Wire.parts (b.authInfo m fee sequence) := .head _
  exact Wire.length_le_of_mem_parts hmem

theorem carriesMessage_body (hlen : (Wire.encode (body m)).length < UInt64.size) :
    CarriesMessage (body m) m := by
  have hle := length_message_le m
  have hread : Wire.decode (Wire.encode { m.toLedger with sender := "" }) =
      .ok { m.toLedger with sender := "" } :=
    (MsgEthereumTx.isNormal_of_size rfl).decode_encode (Nat.lt_of_le_of_lt hle hlen)
  exact ⟨⟨_, rfl, hread⟩, ⟨_, rfl, rfl⟩, rfl, rfl⟩

theorem namesPayer_authInfo {sequence : UInt64}
    (hlen : (Wire.encode (b.authInfo m fee sequence)).length < UInt64.size) :
    NamesPayer (b.authInfo m fee sequence) b.identity m fee sequence := by
  have hle := b.length_publicKey_le m fee sequence
  have hread : Wire.decode (Wire.encode (⟨b.identity.publicKey⟩ : Secp256k1PubKey)) =
      .ok (⟨b.identity.publicKey⟩ : Secp256k1PubKey) :=
    Wire.decode_encode _ (Nat.lt_of_le_of_lt hle hlen)
  exact ⟨⟨_, rfl, hread⟩, ⟨_, rfl, coins_eq_nil_iff, coins_of_ne_zero⟩⟩

/-- A message is refused exactly if it could be replayed. Otherwise an envelope is built as soon as
the key signs, and a ledger reads in it, layer by layer, what it was built from. Lengths are written
in 64 bits. -/
theorem envelope_read_back (b : EnvelopeBuilder) (m : Ethereum.Message) (fee : FeeQuote)
    (account : AccountInfo) :
    (m.Replayable → b.build m fee account =
      .error (.unsupportedVariant "legacy transaction without EIP-155 chain id")) ∧
    (¬ m.Replayable → ∀ e, b.identity.sign (Wire.encode (b.signDoc m fee account)) = .error e →
      b.build m fee account = .error e) ∧
    (¬ m.Replayable → ∀ signature,
      b.identity.sign (Wire.encode (b.signDoc m fee account)) = .ok signature →
      ∃ envelope, b.build m fee account = .ok envelope ∧ envelope.sequence = account.sequence ∧
        (envelope.tx.length < UInt64.size → ∃ raw body auth,
          Wire.decode envelope.tx = .ok raw ∧ Wire.decode raw.bodyBytes = .ok body ∧
          Wire.decode raw.authInfoBytes = .ok auth ∧ CarriesMessage body m ∧
          NamesPayer auth b.identity m fee account.sequence ∧
          SignedBy raw b.identity b.chainId account.accountNumber signature)) := by
  refine ⟨fun hreplayable => ?_, fun hbound e hsign => ?_, fun hbound signature hsign => ?_⟩
  · rw [build, if_pos (refuses_iff.2 hreplayable)]
  · rw [b.build_of_not_replayable fee account hbound, hsign]
    rfl
  · have hbuild := build_of_not_replayable b fee account hbound
    rw [hsign] at hbuild
    refine ⟨_, hbuild, rfl, fun hlen => ?_⟩
    have hread : Wire.decode (Wire.encode (b.signedTx m fee account signature)) =
        .ok (b.signedTx m fee account signature) :=
      Wire.decode_encode _ hlen
    have hbody : (Wire.encode (body m)).length < UInt64.size :=
      Nat.lt_of_le_of_lt (length_bodyBytes_le (b.signedTx m fee account signature)) hlen
    have hauth : (Wire.encode (b.authInfo m fee account.sequence)).length < UInt64.size :=
      Nat.lt_of_le_of_lt (length_authInfoBytes_le (b.signedTx m fee account signature)) hlen
    have hreadBody : Wire.decode (Wire.encode (body m)) = .ok (body m) :=
      Wire.decode_encode _ hbody
    have hreadAuth : Wire.decode (Wire.encode (b.authInfo m fee account.sequence)) =
        .ok (b.authInfo m fee account.sequence) :=
      Wire.decode_encode _ hauth
    exact ⟨_, _, _, hread, hreadBody, hreadAuth, carriesMessage_body hbody, namesPayer_authInfo hauth,
      rfl, hsign, fun verify hverify => hverify _ _ hsign⟩

end EnvelopeBuilder

end GasSponsor
