import GasSponsor.Ethereum.TxData
import GasSponsor.Proofs.Bytes.Hex
import GasSponsor.Proofs.Bytes.Number
import GasSponsor.Proofs.Ethereum.Reading
import GasSponsor.Proofs.Text.Decimal

/-!
# What the ledger reads

The ledger reads a signed transaction from the message of its family alone: amounts from decimal
text, accounts and storage slots from hexadecimal text, the numbers of the signature from bytes.
What it reads is the transaction that the message was made from, with its signature; of a typed
transaction it has only the recovery code that `v` stands for.
-/

namespace GasSponsor.Ethereum

open Ledger

inductive TxData
  | legacy (x : LegacyTx)
  | accessList (x : AccessListTx)
  | dynamicFee (x : DynamicFeeTx)

def TxData.pack : TxData → Any
  | legacy x => .pack LegacyTx.typeUrl x
  | accessList x => .pack AccessListTx.typeUrl x
  | dynamicFee x => .pack DynamicFeeTx.typeUrl x

def TxData.unpack? (data : Any) : Option TxData :=
  if data.typeUrl = LegacyTx.typeUrl then (Wire.decode data.value).toOption.map legacy
  else if data.typeUrl = AccessListTx.typeUrl then (Wire.decode data.value).toOption.map accessList
  else if data.typeUrl = DynamicFeeTx.typeUrl then (Wire.decode data.value).toOption.map dynamicFee
  else none

def word? (n : Nat) : Option Word :=
  if n < Nat.pow 2 256 then some (BitVec.ofNat 256 n) else none

def uint64? (n : Nat) : Option UInt64 :=
  if n < UInt64.size then some (UInt64.ofNat n) else none

def amount? (text : String) : Option Word := (Decimal.decode text.toList).bind word?

def chainId? (text : String) : Option UInt64 := (Decimal.decode text.toList).bind uint64?

def fixed? {n : Nat} (text : String) : Option (FixedBytes n) :=
  (Hex.decode (Hex.dropMark text)).toOption.bind FixedBytes.ofBytes?

def recipient? (text : String) : Option (Option Address) :=
  if text = "" then some none else (fixed? text).map some

def access? (x : AccessTuple) : Option Access := do
  let address ← fixed? x.address
  let keys ← x.storageKeys.mapM fixed?
  return ⟨address, keys⟩

def signature? (v r s : Bytes) : Option Signature := do
  let v ← uint64? v.toNat
  let r ← word? r.toNat
  let s ← word? s.toNat
  return ⟨v, r, s⟩

def widen (n : UInt64) : Word := BitVec.ofNat 256 n.toNat

def TxData.signed? : TxData → Option (Transaction × Signature)
  | legacy x => do
    let g ← signature? x.v x.r x.s
    return (⟨widen x.nonce, widen x.gas, ← recipient? x.recipient, ← amount? x.value, x.data,
      .legacy (chainIdOfV g.v) (← amount? x.gasPrice)⟩, g)
  | accessList x => do
    let g ← signature? x.v x.r x.s
    return (⟨widen x.nonce, widen x.gas, ← recipient? x.recipient, ← amount? x.value, x.data,
      .accessList (← chainId? x.chainId) (← amount? x.gasPrice) (← x.accesses.mapM access?)⟩, g)
  | dynamicFee x => do
    let g ← signature? x.v x.r x.s
    return (⟨widen x.nonce, widen x.gas, ← recipient? x.recipient, ← amount? x.value, x.data,
      .dynamicFee (← chainId? x.chainId) (← amount? x.gasTipCap) (← amount? x.gasFeeCap)
        (← x.accesses.mapM access?)⟩, g)

theorem word?_toNat (x : Word) : word? x.toNat = some x := by
  rw [word?, if_pos x.isLt, BitVec.ofNat_toNat, BitVec.setWidth_eq]

theorem uint64?_toNat (x : UInt64) : uint64? x.toNat = some x := by
  rw [uint64?, if_pos x.toNat_lt, UInt64.ofNat_toNat]

theorem amount?_decimal (x : Word) : amount? (decimal x) = some x := by
  rw [amount?, decimal, Decimal.decode_encode, Option.bind_some, word?_toNat]

theorem chainId?_encode (x : UInt64) : chainId? (Decimal.encode x.toNat) = some x := by
  rw [chainId?, Decimal.decode_encode, Option.bind_some, uint64?_toNat]

theorem ofBytes?_bytes {n : Nat} (x : FixedBytes n) : FixedBytes.ofBytes? x.bytes = some x := by
  rw [FixedBytes.ofBytes?, dif_pos x.length_eq]

theorem fixed?_checksummed (address : Address) : fixed? (checksummed address) = some address := by
  rw [fixed?, decode_checksummed]
  exact ofBytes?_bytes address

theorem fixed?_encodePrefixed {n : Nat} (x : FixedBytes n) :
    fixed? (Hex.encodePrefixed x.bytes) = some x := by
  rw [fixed?, Hex.decode_encodePrefixed]
  exact ofBytes?_bytes x

theorem recipient?_recipientText (recipient : Option Address) :
    recipient? (recipientText recipient) = some recipient := by
  cases recipient with
  | none => rfl
  | some address =>
      have hnonempty : checksummed address ≠ "" := by
        intro hempty
        have hread := fixed?_checksummed address
        have hnone : (fixed? "" : Option Address) = none := by decide
        rw [hempty, hnone] at hread
        cases hread
      rw [recipientText, recipient?, if_neg hnonempty, fixed?_checksummed]
      rfl

theorem access?_tuple (a : Access) : access? a.tuple = some a := by
  have hkeys : (a.keys.map fun key => Hex.encodePrefixed key.bytes).mapM fixed? = some a.keys := by
    have hread : (fixed? ∘ fun key : Digest => Hex.encodePrefixed key.bytes) = pure :=
      funext fixed?_encodePrefixed
    rw [List.mapM_map, hread]
    exact List.mapM_pure.trans (congrArg some (List.map_id _))
  simp only [access?, Access.tuple, fixed?_checksummed, hkeys]
  rfl

theorem mapM_access? (accesses : List Access) :
    (accesses.map Access.tuple).mapM access? = some accesses := by
  have hread : (access? ∘ Access.tuple) = pure := funext access?_tuple
  rw [List.mapM_map, hread]
  exact List.mapM_pure.trans (congrArg some (List.map_id _))

/-- The signature as the ledger has it. -/
def Signature.kept (g : Signature) : Family → Signature
  | .legacy .. => g
  | _ => { g with v := UInt64.ofNat g.recoveryCode }

namespace Signature

theorem recoveryCode_lt (g : Signature) : g.recoveryCode < 4 := by
  rw [recoveryCode]
  split
  · omega
  · split <;> omega

theorem recoveryCode_of_le {g : Signature} (h : g.v.toNat ≤ 3) : g.recoveryCode = g.v.toNat := by
  have hsmall : g.v.toNat ≤ 26 := by omega
  rw [recoveryCode, if_pos hsmall]
  omega

theorem toNat_kept {g : Signature} {family : Family} (h : family.kind ≠ .legacy) :
    (g.kept family).v.toNat = g.recoveryCode := by
  have hcode : g.recoveryCode < UInt64.size := Nat.lt_trans g.recoveryCode_lt (by decide)
  cases family with
  | legacy => exact absurd rfl h
  | accessList => exact UInt64.toNat_ofNat_of_lt' hcode
  | dynamicFee => exact UInt64.toNat_ofNat_of_lt' hcode

theorem kept_of_legacy {g : Signature} {family : Family} (h : family.kind = .legacy) :
    g.kept family = g := by
  cases family with
  | legacy => rfl
  | accessList => cases h
  | dynamicFee => cases h

theorem kept_of_le {g : Signature} (h : g.v.toNat ≤ 3) (family : Family) : g.kept family = g := by
  have hsame : { g with v := UInt64.ofNat g.recoveryCode } = g := by
    rw [recoveryCode_of_le h, UInt64.ofNat_toNat]
  cases family with
  | legacy => rfl
  | accessList => exact hsame
  | dynamicFee => exact hsame

theorem recoveryCode_kept (g : Signature) (family : Family) :
    (g.kept family).recoveryCode = g.recoveryCode := by
  by_cases h : family.kind = .legacy
  · rw [kept_of_legacy h]
  · have hcode := toNat_kept (g := g) h
    have hlt := g.recoveryCode_lt
    rw [recoveryCode_of_le (by omega), hcode]

theorem recover?_kept (g : Signature) (family : Family) (hash : Digest) :
    (g.kept family).recover? hash = g.recover? hash := by
  have hr : (g.kept family).r = g.r := by cases family <;> rfl
  have hs : (g.kept family).s = g.s := by cases family <;> rfl
  rw [recover?, recover?, recoveryId, recoveryId, recoveryCode_kept, hr, hs]

end Signature

theorem Transaction.boundTo_kept (t : Transaction) (g : Signature) :
    t.boundTo (g.kept t.family) = t.boundTo g := by
  obtain ⟨nonce, gas, recipient, value, data, family⟩ := t
  cases family <;> rfl

theorem txData_kept (t : Transaction) (g : Signature) :
    txData t (g.kept t.family) = txData t g := by
  have hparity : parityBytes (g.kept t.family) = parityBytes g :=
    congrArg Bytes.minimal (g.recoveryCode_kept t.family)
  obtain ⟨nonce, gas, recipient, value, data, family⟩ := t
  dsimp only at hparity ⊢
  rw [txData, txData]
  cases family with
  | legacy => rfl
  | accessList =>
      dsimp only
      rw [hparity]
      rfl
  | dynamicFee =>
      dsimp only
      rw [hparity]
      rfl

theorem signature?_minimal {v : Nat} (hv : v < UInt64.size) (r s : Word) :
    signature? (Bytes.minimal v) (minimalBytes r) (minimalBytes s) =
      some ⟨UInt64.ofNat v, r, s⟩ := by
  simp only [signature?, minimalBytes, Bytes.toNat_minimal, word?_toNat, uint64?, if_pos hv]
  rfl

theorem narrow_of_lt {field : Field} {x : Word} (h : x.toNat < UInt64.size) :
    narrow field x = .ok (UInt64.ofNat x.toNat) := if_pos h

theorem narrow_of_le {field : Field} {x : Word} (h : UInt64.size ≤ x.toNat) :
    narrow field x = .error ⟨field, x⟩ := if_neg (Nat.not_lt_of_le h)

theorem widen_ofNat {x : Word} (h : x.toNat < UInt64.size) : widen (UInt64.ofNat x.toNat) = x := by
  rw [widen, UInt64.toNat_ofNat_of_lt' h, BitVec.ofNat_toNat, BitVec.setWidth_eq]

/-- The message of a transaction whose nonce and gas fit holds it. -/
theorem exists_txData {t : Transaction} (g : Signature) (hnonce : t.nonce.toNat < UInt64.size)
    (hgas : t.gas.toNat < UInt64.size) :
    ∃ d : TxData, txData t g = .ok d.pack ∧ d.signed? = some (t.boundTo g, g.kept t.family) := by
  obtain ⟨nonce, gas, recipient, value, data, family⟩ := t
  have hv : g.v.toNat < UInt64.size := g.v.toNat_lt
  have hcode : g.recoveryCode < UInt64.size := Nat.lt_trans g.recoveryCode_lt (by decide)
  rw [txData, narrow_of_lt hnonce, narrow_of_lt hgas]
  cases family with
  | legacy chainId gasPrice =>
      refine ⟨.legacy _, rfl, ?_⟩
      simp only [TxData.signed?, signature?_minimal hv, recipient?_recipientText, amount?_decimal,
        widen_ofNat hnonce, widen_ofNat hgas, UInt64.ofNat_toNat]
      rfl
  | accessList chainId gasPrice accesses =>
      refine ⟨.accessList _, rfl, ?_⟩
      simp only [TxData.signed?, parityBytes, signature?_minimal hcode, recipient?_recipientText,
        amount?_decimal, chainId?_encode, mapM_access?, widen_ofNat hnonce, widen_ofNat hgas]
      rfl
  | dynamicFee chainId tipCap feeCap accesses =>
      refine ⟨.dynamicFee _, rfl, ?_⟩
      simp only [TxData.signed?, parityBytes, signature?_minimal hcode, recipient?_recipientText,
        amount?_decimal, chainId?_encode, mapM_access?, widen_ofNat hnonce, widen_ofNat hgas]
      rfl

end GasSponsor.Ethereum
