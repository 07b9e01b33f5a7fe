import GasSponsor.Curve.Ecdsa
import GasSponsor.Hash.Keccak
import GasSponsor.Rlp

/-!
# Ethereum transactions

The three families of signed transactions, the bytes that the sender signs, the canonical signed
form, and the recovery of the sender.
-/

namespace GasSponsor.Ethereum

/-- An account and those of its storage slots that a transaction announces. -/
structure Access where
  address : Address
  keys : List Digest
deriving DecidableEq

inductive Family
  | legacy (chainId : Option UInt64) (gasPrice : Word)
  | accessList (chainId : UInt64) (gasPrice : Word) (accesses : List Access)
  | dynamicFee (chainId : UInt64) (tipCap feeCap : Word) (accesses : List Access)
deriving DecidableEq

/-- A transaction without recipient creates a contract. -/
structure Transaction where
  nonce : Word
  gas : Word
  recipient : Option Address
  value : Word
  data : Bytes
  family : Family
deriving DecidableEq

structure Signature where
  v : UInt64
  r : Word
  s : Word
deriving DecidableEq

inductive Kind
  | legacy
  | accessList
  | dynamicFee
deriving DecidableEq, Repr

def Family.kind : Family → Kind
  | legacy .. => .legacy
  | accessList .. => .accessList
  | dynamicFee .. => .dynamicFee

def Family.chainId : Family → Option UInt64
  | legacy chainId _ => chainId
  | accessList chainId .. => some chainId
  | dynamicFee chainId .. => some chainId

namespace Access

def item (a : Access) : Bytes :=
  Rlp.list [Rlp.bytes a.address.bytes, Rlp.list (a.keys.map fun k => Rlp.bytes k.bytes)]

def items (accesses : List Access) : Bytes := Rlp.list (accesses.map item)

end Access

namespace Transaction

def recipientItem (t : Transaction) : Bytes :=
  match t.recipient with
  | none => Rlp.bytes []
  | some address => Rlp.bytes address.bytes

def items (t : Transaction) : List Bytes :=
  let tail := [Rlp.number t.gas.toNat, t.recipientItem, Rlp.number t.value.toNat, Rlp.bytes t.data]
  match t.family with
  | .legacy _ gasPrice => Rlp.number t.nonce.toNat :: Rlp.number gasPrice.toNat :: tail
  | .accessList chainId gasPrice accesses =>
    Rlp.number chainId.toNat :: Rlp.number t.nonce.toNat :: Rlp.number gasPrice.toNat :: tail ++
      [Access.items accesses]
  | .dynamicFee chainId tipCap feeCap accesses =>
    Rlp.number chainId.toNat :: Rlp.number t.nonce.toNat :: Rlp.number tipCap.toNat ::
      Rlp.number feeCap.toNat :: tail ++ [Access.items accesses]

def typeByte (t : Transaction) : Bytes :=
  match t.family with
  | .legacy .. => []
  | .accessList .. => [0x01]
  | .dynamicFee .. => [0x02]

/-- A legacy transaction that names its chain is signed with the chain and two empty fields. -/
def chainMark (t : Transaction) : List Bytes :=
  match t.family with
  | .legacy (some chainId) _ => [Rlp.number chainId.toNat, Rlp.number 0, Rlp.number 0]
  | _ => []

def signingBytes (t : Transaction) : Bytes :=
  t.typeByte ++ Rlp.list (t.items ++ t.chainMark)

def signingHash (t : Transaction) : Digest := Keccak.hash t.signingBytes

def signedBytes (t : Transaction) (g : Signature) : Bytes :=
  t.typeByte ++ Rlp.list (t.items ++
    [Rlp.number g.v.toNat, Rlp.number g.r.toNat, Rlp.number g.s.toNat])

end Transaction

def chainIdOfV (v : UInt64) : Option UInt64 :=
  if 35 ≤ v then some ((v - 35) / 2) else none

namespace Signature

/-- The number from zero to three that `v` stands for. -/
def recoveryCode (g : Signature) : Nat :=
  let v := g.v.toNat
  if v ≤ 26 then v % 4 else if v ≤ 34 then (v - 27) % 4 else (v - 1) % 2

def recoveryId (g : Signature) : Ecdsa.RecoveryId :=
  ⟨g.recoveryCode % 2 = 1, 2 ≤ g.recoveryCode⟩

/-- The account whose key signed a hash: the last twenty bytes of the hash of its point. -/
def recover? (g : Signature) (hash : Digest) : Option Address := do
  let scalars ← Ecdsa.Signature.ofScalars? g.r.toNat g.s.toNat
  let (x, y) ← Ecdsa.recover? hash scalars g.recoveryId
  let digest := Keccak.hash (Bytes.fixed 32 x ++ Bytes.fixed 32 y)
  some ⟨digest.bytes.drop 12, by simp [digest.length_eq]⟩

end Signature

end GasSponsor.Ethereum
