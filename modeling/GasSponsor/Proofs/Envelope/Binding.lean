import GasSponsor.Proofs.Bytes.Hex
import GasSponsor.Proofs.Envelope.Contents
import GasSponsor.Proofs.Text.Decimal

/-!
# What a signature binds

Two envelopes are signed over the same bytes exactly if they agree in everything that the payer
answers for: chain, account, sequence, key, payer, gas, the message that is carried, and the fee. The
sender that the message came with and the denomination of no fee are not signed. So a signature
authorises no other envelope.
-/

namespace GasSponsor

open Ledger

theorem length_bodyBytes_le_signDoc (doc : SignDoc) :
    doc.bodyBytes.length ≤ (Wire.encode doc).length := by
  have hmem : doc.bodyBytes ∈ Wire.parts doc := .head _
  exact Wire.length_le_of_mem_parts hmem

theorem length_authInfoBytes_le_signDoc (doc : SignDoc) :
    doc.authInfoBytes.length ≤ (Wire.encode doc).length := by
  have hmem : doc.authInfoBytes ∈ Wire.parts doc := .tail _ (.head _)
  exact Wire.length_le_of_mem_parts hmem

def PayerIdentity.IsMade (p : PayerIdentity) : Prop := ∃ key hrp, ofKey key hrp = .ok p

theorem PayerIdentity.IsMade.address_eq {p : PayerIdentity} (h : p.IsMade) :
    p.address = addressOf p.publicKey := by
  obtain ⟨key, hrp, hkey⟩ := h
  rw [ofKey] at hkey
  split at hkey
  · cases hkey
  · cases hkey
    rfl

namespace EnvelopeBuilder

variable {b b' : EnvelopeBuilder} {m m' : Ethereum.Message} {fee fee' : FeeQuote}
  {account account' : AccountInfo}

/-- Two envelopes agree in everything that the payer answers for. -/
structure SameTerms (b b' : EnvelopeBuilder) (m m' : Ethereum.Message) (fee fee' : FeeQuote)
    (account account' : AccountInfo) : Prop where
  chainId : b.chainId = b'.chainId
  accountNumber : account.accountNumber = account'.accountNumber
  sequence : account.sequence = account'.sequence
  publicKey : b.identity.publicKey = b'.identity.publicKey
  payer : b.identity.bech32 = b'.identity.bech32
  gasLimit : m.gasLimit = m'.gasLimit
  data : m.data = m'.data
  hash : m.hash = m'.hash
  amount : fee.amount = fee'.amount
  denom : fee.amount ≠ 0 → fee.denom = fee'.denom

theorem coins_eq_iff :
    coins fee = coins fee' ↔ fee.amount = fee'.amount ∧ (fee.amount ≠ 0 → fee.denom = fee'.denom) := by
  by_cases h : fee.amount = 0
  · have hnil : coins fee = [] := coins_eq_nil_iff.2 h
    constructor
    · intro hcoins
      have h' : fee'.amount = 0 := coins_eq_nil_iff.1 (hcoins.symm.trans hnil)
      exact ⟨h.trans h'.symm, fun hne => absurd h hne⟩
    · rintro ⟨hamount, -⟩
      have hnil' : coins fee' = [] := coins_eq_nil_iff.2 (hamount.symm.trans h)
      exact hnil.trans hnil'.symm
  · constructor
    · intro hcoins
      have h' : fee'.amount ≠ 0 := fun hzero =>
        h (coins_eq_nil_iff.1 (hcoins.trans (coins_eq_nil_iff.2 hzero)))
      rw [coins_of_ne_zero h, coins_of_ne_zero h'] at hcoins
      obtain ⟨hdenom, hamount⟩ := Coin.mk.inj (List.cons.inj hcoins).1
      exact ⟨Decimal.encode_inj hamount, fun _ => hdenom⟩
    · rintro ⟨hamount, hdenom⟩
      have h' : fee'.amount ≠ 0 := fun hzero => h (hamount.trans hzero)
      rw [coins_of_ne_zero h, coins_of_ne_zero h', hamount, hdenom h]

/-- The body holds the data and the hash of its message, and nothing else of it. -/
theorem body_eq (hdata : m.data = m'.data) (hhash : m.hash = m'.hash) : body m = body m' := by
  rw [body, body, Ethereum.Message.toLedger, Ethereum.Message.toLedger, hdata, hhash]

theorem of_body_eq (hlen : (Wire.encode (body m)).length < UInt64.size) (h : body m = body m') :
    m.data = m'.data ∧ m.hash = m'.hash := by
  have hmessages := congrArg TxBody.messages h
  have hvalue := (Any.mk.inj (List.cons.inj hmessages).1).2
  have hmessage : { m.toLedger with sender := "" } = { m'.toLedger with sender := "" } :=
    (MsgEthereumTx.isNormal_of_size rfl).eq_of_encode_eq (MsgEthereumTx.isNormal_of_size rfl)
      (Nat.lt_of_le_of_lt (length_message_le m) hlen) hvalue
  have hdata := congrArg MsgEthereumTx.data hmessage
  have hhash := congrArg MsgEthereumTx.hash hmessage
  exact ⟨Option.some.inj hdata, FixedBytes.ext (Hex.encodePrefixed_inj hhash)⟩

theorem of_authInfo_eq {sequence sequence' : UInt64}
    (hlen : (Wire.encode (b.authInfo m fee sequence)).length < UInt64.size)
    (h : b.authInfo m fee sequence = b'.authInfo m' fee' sequence') :
    b.identity.publicKey = b'.identity.publicKey ∧ sequence = sequence' ∧
      b.identity.bech32 = b'.identity.bech32 ∧ m.gasLimit = m'.gasLimit ∧ coins fee = coins fee' := by
  obtain ⟨hsigners, hfees⟩ := AuthInfo.mk.inj h
  obtain ⟨hkeys, -, hsequence⟩ := SignerInfo.mk.inj (List.cons.inj hsigners).1
  obtain ⟨hcoins, hgas, hpayer, -⟩ := Fee.mk.inj (Option.some.inj hfees)
  have hvalue := (Any.mk.inj (Option.some.inj hkeys)).2
  have hkey : (⟨b.identity.publicKey⟩ : Secp256k1PubKey) = ⟨b'.identity.publicKey⟩ :=
    Wire.eq_of_encode_eq (Nat.lt_of_le_of_lt (b.length_publicKey_le m fee sequence) hlen) hvalue
  exact ⟨Secp256k1PubKey.mk.inj hkey, hsequence, hpayer, hgas, hcoins⟩

theorem signDoc_eq_of_sameTerms (h : SameTerms b b' m m' fee fee' account account') :
    b.signDoc m fee account = b'.signDoc m' fee' account' := by
  have hbody : body m = body m' := body_eq h.data h.hash
  have hcoins : coins fee = coins fee' := coins_eq_iff.2 ⟨h.amount, h.denom⟩
  have hauth : b.authInfo m fee account.sequence = b'.authInfo m' fee' account'.sequence := by
    rw [authInfo, authInfo, h.publicKey, h.sequence, h.payer, h.gasLimit, hcoins]
  rw [signDoc, signDoc, hbody, hauth, h.chainId, h.accountNumber]

theorem sameTerms_of_encode_eq
    (hlen : (Wire.encode (b.signDoc m fee account)).length < UInt64.size)
    (h : Wire.encode (b.signDoc m fee account) = Wire.encode (b'.signDoc m' fee' account')) :
    SameTerms b b' m m' fee fee' account account' := by
  have hdoc : b.signDoc m fee account = b'.signDoc m' fee' account' :=
    Wire.eq_of_encode_eq hlen h
  obtain ⟨hbodyBytes, hauthBytes, hchain, hnumber⟩ := SignDoc.mk.inj hdoc
  have hbodyLength : (Wire.encode (body m)).length < UInt64.size :=
    Nat.lt_of_le_of_lt (length_bodyBytes_le_signDoc (b.signDoc m fee account)) hlen
  have hauthLength : (Wire.encode (b.authInfo m fee account.sequence)).length < UInt64.size :=
    Nat.lt_of_le_of_lt (length_authInfoBytes_le_signDoc (b.signDoc m fee account)) hlen
  have hbody : body m = body m' :=
    Wire.eq_of_encode_eq hbodyLength hbodyBytes
  have hauth : b.authInfo m fee account.sequence = b'.authInfo m' fee' account'.sequence :=
    Wire.eq_of_encode_eq hauthLength hauthBytes
  obtain ⟨hdata, hhash⟩ := of_body_eq hbodyLength hbody
  obtain ⟨hkey, hsequence, hpayer, hgas, hcoins⟩ := of_authInfo_eq hauthLength hauth
  obtain ⟨hamount, hdenom⟩ := coins_eq_iff.1 hcoins
  exact ⟨hchain, hnumber, hsequence, hkey, hpayer, hgas, hdata, hhash, hamount, hdenom⟩

/-- The bytes that are signed are the same exactly for the same terms. Equal keys have equal
addresses. Neither the sender of the message nor the denomination of no fee is signed. -/
theorem signDoc_binds (b b' : EnvelopeBuilder) (m m' : Ethereum.Message) (fee fee' : FeeQuote)
    (account account' : AccountInfo)
    (hlen : (Wire.encode (b.signDoc m fee account)).length < UInt64.size) :
    (Wire.encode (b.signDoc m fee account) = Wire.encode (b'.signDoc m' fee' account') ↔
      SameTerms b b' m m' fee fee' account account') ∧
    (b.identity.IsMade → b'.identity.IsMade →
      Wire.encode (b.signDoc m fee account) = Wire.encode (b'.signDoc m' fee' account') →
      b.identity.address = b'.identity.address) ∧
    (∀ sender, Wire.encode (b.signDoc { m with sender } fee account) =
      Wire.encode (b.signDoc m fee account)) ∧
    (fee.amount = 0 → ∀ denom, Wire.encode (b.signDoc m { fee with denom } account) =
      Wire.encode (b.signDoc m fee account)) := by
  refine ⟨⟨sameTerms_of_encode_eq hlen, fun h => ?_⟩, fun hmade hmade' h => ?_, fun sender => ?_,
    fun hzero denom => ?_⟩
  · rw [signDoc_eq_of_sameTerms h]
  · have hkey := (sameTerms_of_encode_eq hlen h).publicKey
    rw [hmade.address_eq, hmade'.address_eq, hkey]
  · have hsame : SameTerms b b { m with sender } m fee fee account account :=
      ⟨rfl, rfl, rfl, rfl, rfl, rfl, rfl, rfl, rfl, fun _ => rfl⟩
    rw [signDoc_eq_of_sameTerms hsame]
  · have hsame : SameTerms b b m m { fee with denom } fee account account :=
      ⟨rfl, rfl, rfl, rfl, rfl, rfl, rfl, rfl, rfl, fun hne => absurd hzero hne⟩
    rw [signDoc_eq_of_sameTerms hsame]

def smallKey : PrivateKey := ⟨3, by decide, by decide⟩

def shortMessage : Ethereum.Message where
  hash := ⟨Bytes.fixed 32 5, rfl⟩
  gasLimit := 21000
  chainId := some 9001
  kind := .legacy
  sender := ⟨Bytes.fixed 20 6, rfl⟩
  data := ⟨LegacyTx.typeUrl, [8, 1]⟩

/-- Another sequence is signed otherwise, another sender is not. -/
theorem signDoc_binds_smallKey :
    ∃ p, PayerIdentity.ofKey smallKey "evmos" = .ok p ∧
      let b : EnvelopeBuilder := ⟨p, "evmos_9001-2"⟩
      let signed (m : Ethereum.Message) (sequence : UInt64) : Bytes :=
        Wire.encode (b.signDoc m ⟨5, "aevmos"⟩ ⟨2, sequence⟩)
      (signed shortMessage 7).length < UInt64.size ∧
        signed shortMessage 7 ≠ signed shortMessage 8 ∧
        signed { shortMessage with sender := ⟨Bytes.fixed 20 7, rfl⟩ } 7 = signed shortMessage 7 := by
  have hsmall : ∃ p, PayerIdentity.ofKey smallKey "evmos" = .ok p ∧
      (Wire.encode ((⟨p, "evmos_9001-2"⟩ : EnvelopeBuilder).signDoc shortMessage ⟨5, "aevmos"⟩
        ⟨2, 7⟩)).length < UInt64.size := by
    have hall : (PayerIdentity.ofKey smallKey "evmos").toOption.any (fun p => decide
        ((Wire.encode ((⟨p, "evmos_9001-2"⟩ : EnvelopeBuilder).signDoc shortMessage ⟨5, "aevmos"⟩
          ⟨2, 7⟩)).length < UInt64.size)) = true := by decide +kernel
    cases hkey : PayerIdentity.ofKey smallKey "evmos" with
    | error e =>
        rw [hkey] at hall
        cases hall
    | ok p =>
        rw [hkey] at hall
        exact ⟨p, rfl, of_decide_eq_true hall⟩
  obtain ⟨p, hkey, hlen⟩ := hsmall
  let b : EnvelopeBuilder := ⟨p, "evmos_9001-2"⟩
  have hbinds := signDoc_binds b b shortMessage shortMessage ⟨5, "aevmos"⟩ ⟨5, "aevmos"⟩ ⟨2, 7⟩
    ⟨2, 8⟩ hlen
  refine ⟨p, hkey, hlen, fun h => ?_, hbinds.2.2.1 ⟨Bytes.fixed 20 7, rfl⟩⟩
  exact absurd (hbinds.1.1 h).sequence (by decide)

end EnvelopeBuilder

end GasSponsor
