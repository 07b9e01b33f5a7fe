import GasSponsor.Proofs.Bech32.Text
import GasSponsor.Proofs.Envelope.Binding
import GasSponsor.Proofs.Relay.Sequence

/-!
# The address of the payer

The text under which the payer's account is queried, and which is named as the payer in every envelope,
stands for the public key of the payer: it is a Bech32 text for the prefix in lower case, and the bits of
its data are the hash of the key that signs the envelope.
-/

namespace GasSponsor

open Ledger

namespace Bech32

/-- The text has this human-readable part, and its data are these bytes, bit for bit and as the verifier
reads them. -/
structure Denotes (text hrp : String) (data : Bytes) : Prop where
  exists_units : ∃ units, IsText text hrp units ∧
    units.flatMap (bits 5) = data.flatMap fun b => bits 8 b.toNat
  verify : verify? text = some (Bytes.ofText hrp, data)

/-- Twenty bytes, or any other multiple of five, fill their units. -/
theorem denotes_of_encode {hrp text : String} {data : Bytes}
    (h : encode (Bytes.ofText hrp) data = .ok text) (hfull : data.length % 5 = 0) :
    Denotes text hrp.toLower data := by
  have htext := isText_of_encode h
  have hfilling : filling data = 0 := by
    rw [filling]
    omega
  have hbits := flatMap_bits_regroup data
  rw [hfilling, List.replicate_zero, List.append_nil] at hbits
  refine ⟨⟨regroup data, htext, hbits⟩, ?_⟩
  rw [htext.verify, ungroup_regroup]

end Bech32

namespace PayerIdentity

variable {hrp : String} {p q : PayerIdentity}

inductive MadeFor (hrp : String) (p : PayerIdentity) : Prop
  | key (key : PrivateKey) (h : ofKey key hrp = .ok p)
  | hex (text : String) (h : ofHex text hrp = .ok p)
  | environment (environment : String → Option String) (name : String)
      (h : ofEnvironment environment name hrp = .ok p)

theorem exists_key_of_ofHex {text : String} (h : ofHex text hrp = .ok p) :
    ∃ key, ofKey key hrp = .ok p := by
  unfold ofHex at h
  dsimp only at h
  split at h
  · cases h
  · split at h
    · cases h
    · split at h
      · cases h
      · exact ⟨_, h⟩

/-- All of them come down to a private key. -/
theorem MadeFor.exists_key (h : p.MadeFor hrp) : ∃ key, ofKey key hrp = .ok p := by
  cases h with
  | key key h => exact ⟨key, h⟩
  | hex text h => exact exists_key_of_ofHex h
  | environment environment name h =>
      unfold ofEnvironment at h
      split at h
      · cases h
      · exact exists_key_of_ofHex h

theorem encode_of_ofKey {key : PrivateKey} (h : ofKey key hrp = .ok p) :
    Bech32.encode (Bytes.ofText hrp) (addressOf p.publicKey).bytes = .ok p.bech32 := by
  rw [ofKey] at h
  split at h
  · cases h
  · next hencode =>
      cases h
      exact hencode

theorem MadeFor.denotes (h : p.MadeFor hrp) :
    Bech32.Denotes p.bech32 hrp.toLower (addressOf p.publicKey).bytes := by
  obtain ⟨key, hkey⟩ := h.exists_key
  refine Bech32.denotes_of_encode (encode_of_ofKey hkey) ?_
  rw [FixedBytes.length_eq]

theorem MadeFor.address_eq (h : p.MadeFor hrp) : p.address = addressOf p.publicKey := by
  obtain ⟨key, hkey⟩ := h.exists_key
  exact IsMade.address_eq ⟨key, hrp, hkey⟩

/-- The text and the prefix fix the address. -/
theorem MadeFor.address_inj (h : p.MadeFor hrp) (h' : q.MadeFor hrp) (htext : q.bech32 = p.bech32) :
    q.address = p.address := by
  have hread := h'.denotes.verify
  rw [htext, h.denotes.verify] at hread
  rw [h.address_eq, h'.address_eq]
  exact FixedBytes.ext (congrArg Prod.snd (Option.some.inj hread)).symm

/-- Whether there is an identity depends on the prefix alone. -/
theorem exists_ofKey_iff (key : PrivateKey) :
    (∃ p, ofKey key hrp = .ok p) ↔ Bech32.Admissible (Bytes.ofText hrp) := by
  constructor
  · rintro ⟨p, h⟩
    exact Bech32.admissible_of_encode (encode_of_ofKey h)
  · intro h
    rw [ofKey, Bech32.encode_of_admissible h]
    exact ⟨_, rfl⟩

end PayerIdentity

/-- An envelope with one signer, who has the public key, and a fee that the payer pays. A ledger reads
them in it. Lengths are written in 64 bits. -/
def PaidBy (tx : Bytes) (payer : String) (publicKey : Bytes) : Prop :=
  ∃ (raw : TxRaw) (auth : AuthInfo) (signer : SignerInfo) (value : Bytes) (fee : Fee),
    tx = Wire.encode raw ∧ raw.authInfoBytes = Wire.encode auth ∧
    auth.signerInfos = [signer] ∧ signer.publicKey = some ⟨Secp256k1PubKey.typeUrl, value⟩ ∧
    value = Wire.encode (⟨publicKey⟩ : Secp256k1PubKey) ∧ auth.fee = some fee ∧ fee.payer = payer ∧
    (tx.length < UInt64.size → Wire.decode tx = .ok raw ∧
      Wire.decode raw.authInfoBytes = .ok auth ∧
      Wire.decode value = .ok (⟨publicKey⟩ : Secp256k1PubKey))

theorem EnvelopeBuilder.paidBy_of_build {b : EnvelopeBuilder} {m : Ethereum.Message} {fee : FeeQuote}
    {account : AccountInfo} {envelope : SignedEnvelope} (h : b.build m fee account = .ok envelope) :
    PaidBy envelope.tx b.identity.bech32 b.identity.publicKey := by
  obtain ⟨-, signature, -, htx⟩ := build_ok h
  refine ⟨_, b.authInfo m fee account.sequence, _, _, _, htx, rfl, rfl, rfl, rfl, rfl, rfl,
    fun hlen => ?_⟩
  rw [htx] at hlen
  have hauth : (Wire.encode (b.authInfo m fee account.sequence)).length < UInt64.size :=
    Nat.lt_of_le_of_lt (length_authInfoBytes_le (b.signedTx m fee account signature)) hlen
  have hkey := Nat.lt_of_le_of_lt (b.length_publicKey_le m fee account.sequence) hauth
  refine ⟨?_, Wire.decode_encode _ hauth, Wire.decode_encode _ hkey⟩
  rw [htx]
  exact Wire.decode_encode _ hlen

namespace Relay

/-- The only account that is ever queried is that of the payer. -/
theorem Logged.queried {σ : Type} {worker : Worker} {w : World σ} {log : List Entry}
    (h : Logged worker w log) {x : Exchange} (hx : x ∈ exchanges log) {address : String}
    (haddress : x.call = .account address) : address = worker.builder.identity.bech32 := by
  obtain ⟨older, newer, hlog⟩ := List.append_of_mem hx
  have hlaw := h.lawful
  rw [hlog] at hlaw
  have hallowed := hlaw.allowed
  rw [haddress] at hallowed
  cases hknown : knownAfter none older with
  | none =>
      rw [hknown] at hallowed
      injection hallowed
  | some info =>
      rw [hknown] at hallowed
      exact hallowed.elim

end Relay

/-- Whatever key and prefix an identity is made of, its text is a Bech32 text for the prefix in lower case
whose data are the hash of the public key, bit for bit. Every envelope names this text as its payer and
this key as its signer, and no other account is queried. The text leaves no doubt of the address. -/
theorem PayerIdentity.bech32_denotes_key {hrp : String} {p : PayerIdentity} (h : p.MadeFor hrp) :
    p.address = addressOf p.publicKey ∧
    Bech32.Denotes p.bech32 hrp.toLower (addressOf p.publicKey).bytes ∧
    (∀ (b : EnvelopeBuilder) (m : Ethereum.Message) (fee : FeeQuote) (account : AccountInfo)
      (envelope : SignedEnvelope), b.identity = p → b.build m fee account = .ok envelope →
        PaidBy envelope.tx p.bech32 p.publicKey) ∧
    (∀ {σ : Type} (worker : Relay.Worker) (node : Node σ) (s : σ) (capacity : Nat)
      (events : List Relay.World.Event), worker.builder.identity = p →
        ∀ x ∈ Relay.exchanges ((Relay.World.start s capacity).log worker node events),
          ∀ address, x.call = .account address → address = p.bech32) ∧
    ∀ q : PayerIdentity, q.MadeFor hrp → q.bech32 = p.bech32 → q.address = p.address := by
  refine ⟨h.address_eq, h.denotes, ?_, ?_, fun q h' htext => h.address_inj h' htext⟩
  · rintro b m fee account envelope rfl hbuild
    exact EnvelopeBuilder.paidBy_of_build hbuild
  · rintro σ worker node s capacity events rfl x hx address haddress
    exact (Relay.logged worker node s capacity events).queried hx haddress

/-- A prefix in capitals is written in lower case. -/
theorem PayerIdentity.bech32_denotes_key_capitals :
    ∃ p, ofKey EnvelopeBuilder.smallKey "EVMOS" = .ok p ∧
      Bech32.Denotes p.bech32 "evmos" p.address.bytes := by
  have hadmissible : Bech32.Admissible (Bytes.ofText "EVMOS") :=
    Bech32.checkHrp_eq_ok.1 (by decide)
  have hlower : "EVMOS".toLower = "evmos" := by
    apply String.toList_inj.1
    rw [Bytes.toList_toLower]
    decide
  obtain ⟨p, hkey⟩ := (exists_ofKey_iff EnvelopeBuilder.smallKey).2 hadmissible
  obtain ⟨haddress, hdenotes, -⟩ := bech32_denotes_key (.key EnvelopeBuilder.smallKey hkey)
  rw [hlower, ← haddress] at hdenotes
  exact ⟨p, hkey, hdenotes⟩

end GasSponsor
