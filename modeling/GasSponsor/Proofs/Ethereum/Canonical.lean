import GasSponsor.Proofs.Ethereum.LedgerForm
import GasSponsor.Proofs.Ethereum.Message

/-!
# Decoding the canonical form

A signed transaction in its canonical form is decoded exactly if its nonce and its gas fit in 64 bits
and a sender is recovered from it. The message then holds everything of the transaction. In every
other case the message is invalid, for one of these three reasons.
-/

namespace GasSponsor.Ethereum

/-- A message holds a signed transaction: its hash apart, everything in it is the transaction's. -/
structure Message.Holds (m : Message) (t : Transaction) (g : Signature) : Prop where
  kind : m.kind = t.family.kind
  gasLimit : m.gasLimit.toNat = t.gas.toNat
  chainId : m.chainId = t.family.chainId
  sender : g.recover? t.signingHash = some m.sender
  data : ∃ d : TxData, m.data = d.pack ∧ d.signed? = some (t, g.kept t.family)

inductive Refused (t : Transaction) (g : Signature) : DecodeError → Prop
  | signature (h : g.recover? t.signingHash = none) : Refused t g .badSignature
  | gas (h : UInt64.size ≤ t.gas.toNat) : Refused t g (.overflow ⟨.gas, t.gas⟩)
  | nonce (h : UInt64.size ≤ t.nonce.toNat) : Refused t g (.overflow ⟨.nonce, t.nonce⟩)

theorem txData_of_nonce {t : Transaction} (g : Signature) (h : UInt64.size ≤ t.nonce.toNat) :
    txData t g = .error ⟨.nonce, t.nonce⟩ := by
  rw [txData, narrow_of_le h]
  rfl

/-- What becomes of a transaction that was read. -/
theorem ofSigned_cases {t : Transaction} {g : Signature} (hbound : t.boundTo g = t)
    (hash : Digest) :
    (∃ m, Message.ofSigned hash t g = .ok m ∧ m.hash = hash ∧ m.Holds t g ∧
      t.nonce.toNat < UInt64.size ∧ t.gas.toNat < UInt64.size) ∨
    ∃ e, Message.ofSigned hash t g = .error e ∧ Refused t g e := by
  cases hsender : g.recover? t.signingHash with
  | none =>
      refine .inr ⟨.badSignature, ?_, .signature hsender⟩
      rw [Message.ofSigned, hsender]
  | some sender =>
      rcases Nat.lt_or_ge t.gas.toNat UInt64.size with hgas | hgas
      · rcases Nat.lt_or_ge t.nonce.toNat UInt64.size with hnonce | hnonce
        · obtain ⟨d, hdata, hsigned⟩ := exists_txData g hnonce hgas
          rw [hbound] at hsigned
          have hgasLimit : narrow .gas t.gas = .ok (UInt64.ofNat t.gas.toNat) := narrow_of_lt hgas
          refine .inl ⟨_, Message.ofSigned_eq_ok.2 ⟨sender, _, _, hsender, hgasLimit, hdata, rfl⟩, rfl,
            ?_, hnonce, hgas⟩
          exact ⟨rfl, UInt64.toNat_ofNat_of_lt' hgas, rfl, hsender, d, rfl, hsigned⟩
        · refine .inr ⟨_, ?_, .nonce hnonce⟩
          rw [Message.ofSigned, hsender, narrow_of_lt hgas, txData_of_nonce g hnonce]
          rfl
      · refine .inr ⟨_, ?_, .gas hgas⟩
        rw [Message.ofSigned, hsender, narrow_of_le hgas]
        rfl

theorem Transaction.signedBytes_ne_nil (t : Transaction) (g : Signature) : t.signedBytes g ≠ [] := by
  intro hnil
  have hle := length_list_le t g
  have hpos := length_flatten_pos t g
  have hflatten := Rlp.length_flatten_le (t.items ++ g.items)
  rw [hnil, List.length_nil] at hle
  omega

theorem decode_of_readSigned {raw : Bytes} {t : Transaction} {g : Signature}
    (hraw : raw ≠ []) (h : readSigned raw = .ok (t, g)) :
    Message.decode raw = Message.ofSigned (Keccak.hash raw) t g := by
  rw [Message.decode, if_neg (by rw [List.isEmpty_iff]; exact hraw), h]
  rfl

/-- What follows a transaction is hashed with it, but is not read. -/
theorem decode_append {t : Transaction} {g : Signature}
    (h : (t.signedBytes g).length < UInt64.size) (rest : Bytes) :
    Message.decode (t.signedBytes g ++ rest) =
      Message.ofSigned (Keccak.hash (t.signedBytes g ++ rest)) (t.boundTo g) g := by
  refine decode_of_readSigned (fun hnil => ?_) (readSigned_signedBytes h rest)
  exact t.signedBytes_ne_nil g (List.append_eq_nil_iff.1 hnil).1

/-- The canonical form of a signed transaction is decoded exactly if its nonce and gas fit and its
sender is recovered, and the message holds the transaction. A header has no room for the length of
more bytes than eight bytes can count. -/
theorem decode_signedBytes {t : Transaction} {g : Signature}
    (hlength : (t.signedBytes g).length < UInt64.size) :
    ((∃ m, Message.decode (t.signedBytes g) = .ok m) ↔
      t.nonce.toNat < UInt64.size ∧ t.gas.toNat < UInt64.size ∧
        ∃ sender, g.recover? (t.boundTo g).signingHash = some sender) ∧
    (∀ m, Message.decode (t.signedBytes g) = .ok m →
      m.hash = Keccak.hash (t.signedBytes g) ∧ m.Holds (t.boundTo g) g) ∧
    ∀ e, Message.decode (t.signedBytes g) = .error e →
      Refused (t.boundTo g) g e ∧ e.toBuildError = .invalidMessage e.text := by
  have hdecode := decode_append hlength []
  rw [List.append_nil] at hdecode
  rw [hdecode]
  rcases ofSigned_cases (t.boundTo_boundTo g) (Keccak.hash (t.signedBytes g)) with
    ⟨m, hok, hhash, hholds, hnonce, hgas⟩ | ⟨e, herror, hrefused⟩
  · rw [hok]
    refine ⟨⟨fun _ => ⟨hnonce, hgas, _, hholds.sender⟩, fun _ => ⟨m, rfl⟩⟩, ?_, nofun⟩
    intro m' hm'
    cases hm'
    exact ⟨hhash, hholds⟩
  · rw [herror]
    refine ⟨⟨nofun, ?_⟩, nofun, ?_⟩
    · rintro ⟨hnonce, hgas, sender, hsender⟩
      cases hrefused with
      | signature h =>
          rw [hsender] at h
          cases h
      | gas h => exact absurd hgas (Nat.not_lt_of_le h)
      | nonce h => exact absurd hnonce (Nat.not_lt_of_le h)
    · intro e' he'
      cases he'
      exact ⟨hrefused, rfl⟩

def creation : Transaction := ⟨0, 21000, none, 0, [], .legacy none 0⟩

def creationSignature : Signature := ⟨27, 1, 1⟩

theorem signedBytes_creation : creation.signedBytes creationSignature =
    [0xcb, 0x80, 0x80, 0x82, 0x52, 0x08, 0x80, 0x80, 0x80, 0x1b, 0x01, 0x01] := by decide +kernel

theorem length_signedBytes_creation :
    (creation.signedBytes creationSignature).length < UInt64.size := by
  rw [signedBytes_creation]
  decide

theorem exists_sender_creation : ∃ sender,
    creationSignature.recover? (creation.boundTo creationSignature).signingHash = some sender := by
  have hsome : (creationSignature.recover?
      (creation.boundTo creationSignature).signingHash).isSome = true := by decide +kernel
  exact Option.isSome_iff_exists.1 hsome

theorem decode_signedBytes_creation :
    (creation.signedBytes creationSignature).length < UInt64.size ∧
    ∃ m, Message.decode (creation.signedBytes creationSignature) = .ok m ∧
      m.hash = Keccak.hash (creation.signedBytes creationSignature) ∧ m.gasLimit.toNat = 21000 ∧
      m.chainId = none ∧ m.kind = .legacy := by
  obtain ⟨hsucceeds, hholds, -⟩ := decode_signedBytes length_signedBytes_creation
  obtain ⟨m, hm⟩ := hsucceeds.2 ⟨by decide, by decide, exists_sender_creation⟩
  obtain ⟨hhash, h⟩ := hholds m hm
  exact ⟨length_signedBytes_creation, m, hm, hhash, h.gasLimit, h.chainId, h.kind⟩

end GasSponsor.Ethereum
