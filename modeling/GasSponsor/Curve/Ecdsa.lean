import GasSponsor.Curve
import GasSponsor.Hash.Sha256

/-!
# Signatures on the curve

Signing with the deterministic nonce of RFC 6979, and recovery of the signer's point from a
signature and two bits that select the nonce point. Signatures are written with the smaller of the
two possible values of `s`.
-/

namespace GasSponsor.Ecdsa

open Curve

structure Signature where
  r : Nat
  s : Nat
deriving DecidableEq, Repr

def Signature.ofScalars? (r s : Nat) : Option Signature :=
  if 0 < r ∧ r < n ∧ 0 < s ∧ s < n then some ⟨r, s⟩ else none

def Signature.bytes (g : Signature) : Bytes := Bytes.fixed 32 g.r ++ Bytes.fixed 32 g.s

def isHigh (s : Nat) : Bool := s > n / 2

/-- The generator of nonces of RFC 6979, section 3.2: a key and a value. -/
structure NonceState where
  key : Bytes
  value : Bytes

def NonceState.start (secret : Nat) (digest : Digest) : NonceState :=
  let seed := Bytes.fixed 32 secret ++ Bytes.fixed 32 (digest.bytes.toNat % n)
  let v := List.replicate 32 1
  let k := Sha256.mac (List.replicate 32 0) (v ++ 0 :: seed)
  let v := Sha256.mac k v
  let k := Sha256.mac k (v ++ 1 :: seed)
  ⟨k, Sha256.mac k v⟩

def NonceState.candidate (g : NonceState) : Bytes := Sha256.mac g.key g.value

def NonceState.next (g : NonceState) : NonceState :=
  let v := g.candidate
  let k := Sha256.mac g.key (v ++ [0])
  ⟨k, Sha256.mac k v⟩

def signWith? (k secret : Nat) (z : Nat) : Option Signature := do
  let (x, _) ← (Point.base.scale k).affine?
  let r := x % n
  let s := inverse n k * ((z + r * secret) % n) % n
  Signature.ofScalars? r (if isHigh s then n - s else s)

def signFrom (secret : Nat) (z : Nat) : Nat → NonceState → Option Signature
  | 0, _ => none
  | tries + 1, g =>
    let k := g.candidate.toNat
    if 0 < k ∧ k < n then signWith? k secret z
    else signFrom secret z tries g.next

/-- Signs a digest. A nonce is refused with a probability below `2 ^ -127`. -/
def sign? (secret : Nat) (digest : Digest) : Option Signature :=
  signFrom secret (digest.bytes.toNat % n) 64 (.start secret digest)

/-- Selects the nonce point of a signature: the parity of its ordinate, and whether its abscissa
is `r + n` instead of `r`. -/
structure RecoveryId where
  odd : Bool
  reduced : Bool
deriving DecidableEq, Repr

/-- The point that signed a digest. A signature with a high `s` stands for the one with `n - s` and
the opposite parity. -/
def recover? (digest : Digest) (g : Signature) (id : RecoveryId) : Option (Nat × Nat) := do
  let (s, odd) := if isHigh g.s then (n - g.s, !id.odd) else (g.s, id.odd)
  let nonce ← Point.lift? (if id.reduced then g.r + n else g.r) odd
  let ri := inverse n g.r
  let z := digest.bytes.toNat % n
  ((Point.base.scale ((n - ri * z % n) % n)).add (nonce.scale (ri * s % n))).affine?

end GasSponsor.Ecdsa
