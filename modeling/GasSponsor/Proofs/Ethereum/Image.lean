import GasSponsor.Proofs.Ethereum.Rebuilt

/-!
# The image of a transaction on the ledger

Whatever bytes a message was decoded from, canonical or not, its data loses nothing of the transaction
that was read: the ledger reads the same transaction back from the texts and bytes of the data, finds
the hash that was signed, and recovers the sender that the relay has recovered.
-/

namespace GasSponsor.Ethereum

open Ledger

namespace TxData

def gas : TxData → UInt64
  | legacy x => x.gas
  | accessList x => x.gas
  | dynamicFee x => x.gas

/-- The hash that was signed, found from the data alone. -/
def signingHash? (d : TxData) : Option Digest := d.signed?.map fun signed => signed.1.signingHash

def signer? (d : TxData) : Option Address :=
  d.signed?.bind fun signed => signed.2.recover? signed.1.signingHash

variable {d : TxData} {t : Transaction} {g : Signature}

theorem widen_gas_of_signed (h : d.signed? = some (t, g)) : widen d.gas = t.gas := by
  cases d with
  | legacy x =>
      simp only [signed?, Option.bind_eq_bind, Option.bind_eq_some_iff, Option.pure_def,
        Option.some.injEq, Prod.mk.injEq] at h
      obtain ⟨_, _, _, _, _, _, _, _, rfl, _⟩ := h
      rfl
  | accessList x =>
      simp only [signed?, Option.bind_eq_bind, Option.bind_eq_some_iff, Option.pure_def,
        Option.some.injEq, Prod.mk.injEq] at h
      obtain ⟨_, _, _, _, _, _, _, _, _, _, _, _, rfl, _⟩ := h
      rfl
  | dynamicFee x =>
      simp only [signed?, Option.bind_eq_bind, Option.bind_eq_some_iff, Option.pure_def,
        Option.some.injEq, Prod.mk.injEq] at h
      obtain ⟨_, _, _, _, _, _, _, _, _, _, _, _, _, _, rfl, _⟩ := h
      rfl

theorem toNat_widen (n : UInt64) : (widen n).toNat = n.toNat := by
  have hlt : n.toNat < 2 ^ 256 := Nat.lt_trans n.toNat_lt (by decide)
  rw [widen, BitVec.toNat_ofNat, Nat.mod_eq_of_lt hlt]

theorem signingHash?_of_signed (h : d.signed? = some (t, g)) :
    d.signingHash? = some t.signingHash := by
  rw [signingHash?, h]
  rfl

theorem signer?_of_signed (h : d.signed? = some (t, g)) :
    d.signer? = g.recover? t.signingHash := by
  rw [signer?, h]
  rfl

end TxData

/-- The data of a message gives back the transaction that was read and its signature, of a typed one
with the recovery code for its `v`. So the ledger finds the hash that was signed, the sender and the
gas limit of the message. Lengths are written in 64 bits. -/
theorem toLedger_lossless {raw : Bytes} {m : Message} (hdecode : Message.decode raw = .ok m)
    (hdata : m.data.value.length < UInt64.size) :
    ∃ t g d, readSigned raw = .ok (t, g) ∧ m.toLedger.data.bind TxData.unpack? = some d ∧
      d.signed? = some (t, g.kept t.family) ∧
      d.signingHash? = some t.signingHash ∧ g.recover? t.signingHash = some m.sender ∧
      d.signer? = some m.sender ∧ d.gas = m.gasLimit := by
  obtain ⟨t, g, hread, hsigned⟩ := Message.exists_signed_of_decode hdecode
  have hholds : m.Holds t g := holds_of_ofSigned (boundTo_of_readSigned hread) hsigned
  obtain ⟨d, hpack, hback⟩ := hholds.data
  have hunpack : m.toLedger.data.bind TxData.unpack? = some d := by
    rw [hpack] at hdata
    rw [Message.toLedger, Option.bind_some, hpack]
    exact TxData.unpack?_pack hdata
  have hsigner : d.signer? = some m.sender := by
    rw [TxData.signer?_of_signed hback, g.recover?_kept]
    exact hholds.sender
  have hgas : d.gas = m.gasLimit := by
    apply UInt64.toNat_inj.1
    rw [hholds.gasLimit, ← TxData.widen_gas_of_signed hback, TxData.toNat_widen]
  exact ⟨t, g, d, hread, hunpack, hback, TxData.signingHash?_of_signed hback, hholds.sender, hsigner,
    hgas⟩

/-- A transaction with bytes behind it, which are not part of its canonical form. -/
theorem toLedger_lossless_creation :
    ∃ m, Message.decode (creation.signedBytes creationSignature ++ [0x00, 0x01]) = .ok m ∧
      m.data.value.length < UInt64.size ∧
      ∃ d, m.toLedger.data.bind TxData.unpack? = some d ∧ d.signer? = some m.sender ∧
        d.gas = 21000 := by
  obtain ⟨m, hdecode, hholds, hdata⟩ := exists_decode_creation [0x00, 0x01]
  obtain ⟨_, _, d, _, hunpack, _, _, _, hsigner, hgas⟩ := toLedger_lossless hdecode hdata
  have hlimit : m.gasLimit = 21000 := UInt64.toNat_inj.1 hholds.gasLimit
  exact ⟨m, hdecode, hdata, d, hunpack, hsigner, hgas.trans hlimit⟩

end GasSponsor.Ethereum
