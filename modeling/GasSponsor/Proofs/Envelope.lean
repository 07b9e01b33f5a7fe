import GasSponsor.Envelope
import GasSponsor.Node.Scripted
import GasSponsor.Proofs.Ledger
import GasSponsor.Proofs.Wire.Parts

/-!
# What an envelope holds

An envelope that the builder makes for an account names the next sequence of that account at its
only signer, and is signed for the number of the account. A ledger that decodes the envelope reads
the same sequence, and the message inside names the hash of the transaction that it carries.
-/

namespace GasSponsor

open Ledger

/-- The bytes are an envelope of one signer with the sequence of the account, signed for the chain
of the builder and the number of the account. -/
def SignedFor (b : EnvelopeBuilder) (tx : Bytes) (account : AccountInfo) : Prop :=
  ∃ (raw : TxRaw) (auth : AuthInfo) (signer : SignerInfo) (signature : Bytes),
    tx = Wire.encode raw ∧ raw.authInfoBytes = Wire.encode auth ∧
    auth.signerInfos = [signer] ∧ signer.sequence = account.sequence ∧
    raw.signatures = [signature] ∧
    b.identity.sign (Wire.encode
      (⟨raw.bodyBytes, raw.authInfoBytes, b.chainId, account.accountNumber⟩ : SignDoc)) =
      .ok signature

def CarriesSequence (tx : Bytes) (sequence : UInt64) : Prop :=
  ∃ (raw : TxRaw) (auth : AuthInfo) (signer : SignerInfo),
    tx = Wire.encode raw ∧ raw.authInfoBytes = Wire.encode auth ∧
    auth.signerInfos = [signer] ∧ signer.sequence = sequence

theorem SignedFor.carriesSequence {b : EnvelopeBuilder} {tx : Bytes} {account : AccountInfo}
    (h : SignedFor b tx account) : CarriesSequence tx account.sequence := by
  obtain ⟨raw, auth, signer, _, htx, hauth, hsigners, hsequence, _, _⟩ := h
  exact ⟨raw, auth, signer, htx, hauth, hsigners, hsequence⟩

def CarriesHash (tx : Bytes) (hash : Digest) : Prop :=
  ∃ (raw : TxRaw) (body : TxBody) (message : MsgEthereumTx),
    tx = Wire.encode raw ∧ raw.bodyBytes = Wire.encode body ∧
    body.messages = [Any.pack MsgEthereumTx.typeUrl message] ∧
    message.hash = Hex.encodePrefixed hash.bytes

namespace EnvelopeBuilder

variable {b : EnvelopeBuilder} {m : Ethereum.Message} {fee : FeeQuote} {account : AccountInfo}
  {envelope : SignedEnvelope}

theorem build_ok (h : b.build m fee account = .ok envelope) :
    refuses m = false ∧ ∃ signature,
      b.identity.sign (Wire.encode (b.signDoc m fee account)) = .ok signature ∧
      envelope.tx = Wire.encode
        (⟨Wire.encode (body m), Wire.encode (b.authInfo m fee account.sequence), [signature]⟩ :
          TxRaw) := by
  unfold build at h
  split at h
  · cases h
  · next hrefuses =>
      refine ⟨Bool.eq_false_iff.2 hrefuses, ?_⟩
      dsimp only at h
      cases hsign : b.identity.sign (Wire.encode (b.signDoc m fee account)) with
      | error e =>
          rw [hsign] at h
          cases h
      | ok signature =>
          rw [hsign] at h
          cases h
          exact ⟨signature, rfl, rfl⟩

theorem signedFor_of_build (h : b.build m fee account = .ok envelope) :
    SignedFor b envelope.tx account := by
  obtain ⟨_, signature, hsign, htx⟩ := build_ok h
  exact ⟨_, b.authInfo m fee account.sequence, _, signature, htx, rfl, rfl, rfl, rfl, hsign⟩

theorem carriesHash_of_build (h : b.build m fee account = .ok envelope) :
    CarriesHash envelope.tx m.hash := by
  obtain ⟨_, signature, _, htx⟩ := build_ok h
  exact ⟨_, body m, _, htx, rfl, rfl, rfl⟩

end EnvelopeBuilder

theorem length_bodyBytes_le (raw : TxRaw) : raw.bodyBytes.length ≤ (Wire.encode raw).length := by
  have hmem : raw.bodyBytes ∈ Wire.parts raw := .head _
  exact Wire.length_le_of_mem_parts hmem

theorem length_authInfoBytes_le (raw : TxRaw) :
    raw.authInfoBytes.length ≤ (Wire.encode raw).length := by
  have hmem : raw.authInfoBytes ∈ Wire.parts raw := .tail _ (.head _)
  exact Wire.length_le_of_mem_parts hmem

/-- The sequence is what a ledger reads, as long as it can count the bytes. -/
theorem CarriesSequence.sequenceOf_eq {tx : Bytes} {sequence : UInt64}
    (h : CarriesSequence tx sequence) (hlen : tx.length < UInt64.size) :
    ScriptedNode.sequenceOf tx = sequence := by
  obtain ⟨raw, auth, signer, rfl, hauth, hsigners, hsequence⟩ := h
  have hraw : (Wire.decode (Wire.encode raw) : Wire.Result TxRaw) = .ok raw :=
    Wire.decode_encode raw hlen
  have hinfo : (Wire.decode raw.authInfoBytes : Wire.Result AuthInfo) = .ok auth := by
    have hle := length_authInfoBytes_le raw
    rw [hauth] at hle ⊢
    exact Wire.decode_encode auth (Nat.lt_of_le_of_lt hle hlen)
  simp only [ScriptedNode.sequenceOf, ScriptedNode.authInfo?, hraw, hinfo, hsigners,
    List.head?_cons, Option.map_some, Option.getD_some, hsequence]

end GasSponsor
