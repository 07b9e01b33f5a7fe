import GasSponsor.Ethereum.Message

/-!
# What is in a decoded message

A message is made of a signed transaction in one way: its sender is recovered, its gas fits, and it
has a form on the ledger. The hash is that of the bytes that were given.
-/

namespace GasSponsor.Ethereum.Message

theorem ofSigned_eq_ok {hash : Digest} {t : Transaction} {g : Signature} {m : Message} :
    ofSigned hash t g = .ok m ↔ ∃ sender gasLimit data,
      g.recover? t.signingHash = some sender ∧ narrow .gas t.gas = .ok gasLimit ∧
      txData t g = .ok data ∧ m = ⟨hash, gasLimit, t.family.chainId, t.family.kind, sender, data⟩ := by
  constructor
  · intro h
    rw [ofSigned] at h
    cases hsender : g.recover? t.signingHash with
    | none =>
        rw [hsender] at h
        cases h
    | some sender =>
        cases hgas : narrow .gas t.gas with
        | error e =>
            rw [hsender, hgas] at h
            cases h
        | ok gasLimit =>
            cases hdata : txData t g with
            | error e =>
                rw [hsender, hgas, hdata] at h
                cases h
            | ok data =>
                rw [hsender, hgas, hdata] at h
                cases h
                exact ⟨sender, gasLimit, data, rfl, rfl, rfl, rfl⟩
  · rintro ⟨sender, gasLimit, data, hsender, hgas, hdata, rfl⟩
    rw [ofSigned, hsender, hgas, hdata]
    rfl

theorem hash_of_ofSigned {hash : Digest} {t : Transaction} {g : Signature} {m : Message}
    (h : ofSigned hash t g = .ok m) : m.hash = hash := by
  obtain ⟨_, _, _, _, _, _, rfl⟩ := ofSigned_eq_ok.1 h
  rfl

theorem exists_signed_of_decode {raw : Bytes} {m : Message} (h : decode raw = .ok m) :
    ∃ t g, readSigned raw = .ok (t, g) ∧ ofSigned (Keccak.hash raw) t g = .ok m := by
  rw [decode] at h
  split at h
  · cases h
  · cases hread : readSigned raw with
    | error e =>
        rw [hread] at h
        cases h
    | ok signed =>
        rw [hread] at h
        exact ⟨signed.1, signed.2, rfl, h⟩

/-- The hash of a decoded message is that of all the bytes it was decoded from. -/
theorem hash_of_decode {raw : Bytes} {m : Message} (h : decode raw = .ok m) :
    m.hash = Keccak.hash raw := by
  obtain ⟨t, g, -, hsigned⟩ := exists_signed_of_decode h
  exact hash_of_ofSigned hsigned

theorem decodeHex_eq_ok {text : String} {m : Message} : decodeHex text = .ok m ↔
    ∃ raw, Hex.decode (Hex.dropMark text) = .ok raw ∧ decode raw = .ok m := by
  rw [decodeHex]
  cases Hex.decode (Hex.dropMark text) with
  | error e =>
      change Except.error (DecodeError.hex e) = Except.ok m ↔ _
      simp
  | ok raw =>
      change decode raw = .ok m ↔ _
      simp

end GasSponsor.Ethereum.Message
