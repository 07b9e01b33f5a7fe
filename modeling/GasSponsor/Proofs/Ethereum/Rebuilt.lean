import GasSponsor.Proofs.Ethereum.Canonical
import GasSponsor.Proofs.Ledger

/-!
# What the ledger rebuilds

The ledger rebuilds the signed bytes of a transaction from the message's data alone. What it rebuilds
is always in canonical form, and is decoded to the same message under its own hash. The bytes that a
message was decoded from need not be in that form: the reader is lenient, and of a typed transaction
only the recovery code is kept. The ledger rebuilds exactly those bytes that are canonical.
-/

namespace GasSponsor.Ethereum

open Ledger

def rebuild (data : Any) : Option Bytes :=
  ((TxData.unpack? data).bind TxData.signed?).map fun signed => signed.1.signedBytes signed.2

/-- The canonical form of a signed transaction. A typed one has a recovery code for its `v`. -/
def Canonical (raw : Bytes) : Prop :=
  ∃ t g, raw = Transaction.signedBytes t g ∧ (t.family.kind = .legacy ∨ g.v.toNat ≤ 3)

theorem TxData.unpack?_pack {d : TxData} (h : d.pack.value.length < UInt64.size) :
    unpack? d.pack = some d := by
  cases d with
  | legacy x =>
      have hread : Wire.decode (Wire.encode x) = .ok x :=
        Wire.decode_encode x h
      have htype : (legacy x).pack.typeUrl = LegacyTx.typeUrl := rfl
      rw [unpack?, if_pos htype]
      exact congrArg (fun r => r.toOption.map legacy) hread
  | accessList x =>
      have hread : Wire.decode (Wire.encode x) = .ok x :=
        Wire.decode_encode x h
      have htype : (accessList x).pack.typeUrl = AccessListTx.typeUrl := rfl
      rw [unpack?, htype, if_neg (by decide), if_pos rfl]
      exact congrArg (fun r => r.toOption.map accessList) hread
  | dynamicFee x =>
      have hread : Wire.decode (Wire.encode x) = .ok x :=
        Wire.decode_encode x h
      have htype : (dynamicFee x).pack.typeUrl = DynamicFeeTx.typeUrl := rfl
      rw [unpack?, htype, if_neg (by decide), if_neg (by decide), if_pos rfl]
      exact congrArg (fun r => r.toOption.map dynamicFee) hread

theorem Message.Holds.rebuild {m : Message} {t : Transaction} {g : Signature} (h : m.Holds t g)
    (hlength : m.data.value.length < UInt64.size) :
    rebuild m.data = some (t.signedBytes (g.kept t.family)) := by
  obtain ⟨d, hdata, hsigned⟩ := h.data
  rw [hdata] at hlength ⊢
  rw [Ethereum.rebuild, TxData.unpack?_pack hlength, Option.bind_some, hsigned]
  rfl

theorem ofSigned_kept (hash : Digest) (t : Transaction) (g : Signature) :
    Message.ofSigned hash t (g.kept t.family) = Message.ofSigned hash t g := by
  rw [Message.ofSigned, Message.ofSigned, g.recover?_kept, txData_kept]

theorem ofSigned_hash {hash : Digest} {t : Transaction} {g : Signature} {m : Message}
    (h : Message.ofSigned hash t g = .ok m) (other : Digest) :
    Message.ofSigned other t g = .ok { m with hash := other } := by
  obtain ⟨sender, gasLimit, data, hsender, hgas, hdata, rfl⟩ := Message.ofSigned_eq_ok.1 h
  exact Message.ofSigned_eq_ok.2 ⟨sender, gasLimit, data, hsender, hgas, hdata, rfl⟩

theorem holds_of_ofSigned {hash : Digest} {t : Transaction} {g : Signature} {m : Message}
    (hbound : t.boundTo g = t) (h : Message.ofSigned hash t g = .ok m) : m.Holds t g := by
  rcases ofSigned_cases hbound hash with ⟨m', hm', -, hholds, -⟩ | ⟨e, herror, -⟩
  · rw [h] at hm'
    cases hm'
    exact hholds
  · rw [h] at herror
    cases herror

theorem canonical_kept (t : Transaction) (g : Signature) :
    Canonical (t.signedBytes (g.kept t.family)) := by
  refine ⟨t, _, rfl, ?_⟩
  by_cases hkind : t.family.kind = .legacy
  · exact .inl hkind
  · have hcode := Signature.toNat_kept (g := g) hkind
    have hlt := g.recoveryCode_lt
    exact .inr (by omega)

theorem kept_of_canonical {t : Transaction} {g : Signature}
    (h : t.family.kind = .legacy ∨ g.v.toNat ≤ 3) : g.kept t.family = g := by
  rcases h with hkind | hv
  · exact Signature.kept_of_legacy hkind
  · exact Signature.kept_of_le hv t.family

/-- The bytes of a message are rebuilt by the ledger exactly if they are canonical. The ledger
always rebuilds canonical bytes, which are decoded to the same message under their own hash. Both
formats write lengths in at most 64 bits. -/
theorem rebuild_eq_iff {raw : Bytes} {m : Message} (hdecode : Message.decode raw = .ok m)
    (hraw : raw.length < UInt64.size) (hdata : m.data.value.length < UInt64.size) :
    m.hash = Keccak.hash raw ∧
    (rebuild m.data = some raw ↔ Canonical raw) ∧
    ∃ rebuilt, rebuild m.data = some rebuilt ∧ Canonical rebuilt ∧
      (rebuilt.length < UInt64.size →
        Message.decode rebuilt = .ok { m with hash := Keccak.hash rebuilt }) := by
  obtain ⟨t, g, hread, hsigned⟩ := Message.exists_signed_of_decode hdecode
  have hbound := boundTo_of_readSigned hread
  have hrebuild := (holds_of_ofSigned hbound hsigned).rebuild hdata
  have hcanonical := canonical_kept t g
  refine ⟨Message.hash_of_ofSigned hsigned, ⟨?_, ?_⟩, _, hrebuild, hcanonical, ?_⟩
  · -- What is rebuilt is canonical.
    intro hsame
    rw [hrebuild] at hsame
    rw [← Option.some.inj hsame]
    exact hcanonical
  · -- Canonical bytes are read as what they were made from, of which the ledger loses nothing.
    rintro ⟨t', g', rfl, hv⟩
    have hreadRaw := readSigned_signedBytes hraw []
    rw [List.append_nil, hread] at hreadRaw
    cases hreadRaw
    have hkept : g.kept (t'.boundTo g).family = g :=
      kept_of_canonical (hv.imp (fun h => (t'.kind_boundTo g).trans h) id)
    rw [hrebuild, hkept, t'.signedBytes_boundTo]
  · -- The sender and the ledger's form depend on `v` by the recovery code only.
    intro hlength
    have hdecodeRebuilt := decode_append hlength []
    rw [List.append_nil, t.boundTo_kept, hbound, ofSigned_kept] at hdecodeRebuilt
    rw [hdecodeRebuilt]
    exact ofSigned_hash hsigned _

theorem exists_decode_creation (rest : Bytes) :
    ∃ m, Message.decode (creation.signedBytes creationSignature ++ rest) = .ok m ∧
      m.Holds (creation.boundTo creationSignature) creationSignature ∧
      m.data.value.length < UInt64.size := by
  have hdecode := decode_append length_signedBytes_creation rest
  have hbound := creation.boundTo_boundTo creationSignature
  have hsmall : (txData (creation.boundTo creationSignature) creationSignature).toOption.all
      (fun data => data.value.length < UInt64.size) = true := by decide +kernel
  rcases ofSigned_cases hbound (Keccak.hash (creation.signedBytes creationSignature ++ rest)) with
    ⟨m, hok, -, hholds, -⟩ | ⟨e, -, hrefused⟩
  · obtain ⟨sender, gasLimit, data, -, -, hdata, rfl⟩ := Message.ofSigned_eq_ok.1 hok
    rw [hok] at hdecode
    rw [hdata] at hsmall
    exact ⟨_, hdecode, hholds, of_decide_eq_true hsmall⟩
  · obtain ⟨sender, hsender⟩ := exists_sender_creation
    cases hrefused with
    | signature h =>
        rw [hsender] at h
        cases h
    | gas h => exact absurd h (by decide)
    | nonce h => exact absurd h (by decide)

theorem rebuild_eq_iff_creation :
    ∃ m, Message.decode (creation.signedBytes creationSignature) = .ok m ∧
      rebuild m.data = some (creation.signedBytes creationSignature) := by
  obtain ⟨m, hdecode, -, hdata⟩ := exists_decode_creation []
  rw [List.append_nil] at hdecode
  exact ⟨m, hdecode, (rebuild_eq_iff hdecode length_signedBytes_creation hdata).2.1.2
    ⟨creation, creationSignature, rfl, .inl rfl⟩⟩

/-- A byte behind a transaction is accepted and hashed, but the ledger does not rebuild it. -/
theorem trailing_byte_not_rebuilt :
    let raw : Bytes := [0xcb, 0x80, 0x80, 0x82, 0x52, 0x08, 0x80, 0x80, 0x80, 0x1b, 0x01, 0x01, 0x00]
    ∃ m, Message.decode raw = .ok m ∧ m.hash = Keccak.hash raw ∧
      rebuild m.data =
        some [0xcb, 0x80, 0x80, 0x82, 0x52, 0x08, 0x80, 0x80, 0x80, 0x1b, 0x01, 0x01] := by
  obtain ⟨m, hdecode, hholds, hdata⟩ := exists_decode_creation [0x00]
  have hrebuild := hholds.rebuild hdata
  rw [signedBytes_creation] at hdecode
  rw [Signature.kept_of_legacy rfl, creation.signedBytes_boundTo, signedBytes_creation] at hrebuild
  exact ⟨m, hdecode, Message.hash_of_decode hdecode, hrebuild⟩

end GasSponsor.Ethereum
