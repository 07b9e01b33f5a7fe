import GasSponsor.Bytes

/-!
# Keccak-256

The sponge with a rate of 136 bytes over the permutation of 25 lanes of 64 bits, padded with a
first bit and a last bit and no domain separation.
-/

namespace GasSponsor.Keccak

/-- Lane `(x, y)` stands at `5 * y + x`. -/
abbrev State := Vector UInt64 25

def rotateLeft (w : UInt64) (k : UInt64) : UInt64 :=
  if k = 0 then w else (w <<< k) ||| (w >>> (64 - k))

def rotations : Vector UInt64 25 :=
  #v[0, 1, 62, 28, 27, 36, 44, 6, 55, 20, 3, 10, 43, 25, 39, 41, 45, 15, 21, 8, 18, 2, 61, 56, 14]

def roundConstants : List UInt64 :=
  [0x0000000000000001, 0x0000000000008082, 0x800000000000808a, 0x8000000080008000,
   0x000000000000808b, 0x0000000080000001, 0x8000000080008081, 0x8000000000008009,
   0x000000000000008a, 0x0000000000000088, 0x0000000080008009, 0x000000008000000a,
   0x000000008000808b, 0x800000000000008b, 0x8000000000008089, 0x8000000000008003,
   0x8000000000008002, 0x8000000000000080, 0x000000000000800a, 0x800000008000000a,
   0x8000000080008081, 0x8000000000008080, 0x0000000080000001, 0x8000000080008008]

def State.lane (a : State) (x y : Nat) : UInt64 :=
  a.get ⟨5 * (y % 5) + x % 5, by omega⟩

def theta (a : State) : State :=
  let parity : Vector UInt64 5 := .ofFn fun x =>
    a.lane x 0 ^^^ a.lane x 1 ^^^ a.lane x 2 ^^^ a.lane x 3 ^^^ a.lane x 4
  .ofFn fun i =>
    a[i] ^^^ parity.get ⟨(i.val + 4) % 5, by omega⟩ ^^^
      rotateLeft (parity.get ⟨(i.val + 1) % 5, by omega⟩) 1

/-- Rotates each lane and moves lane `(x, y)` to `(y, 2 x + 3 y)`. -/
def rhoPi (a : State) : State :=
  let turned : State := .ofFn fun i => rotateLeft a[i] rotations[i]
  .ofFn fun i =>
    let x := i.val % 5
    let y := i.val / 5
    turned.lane (x + 3 * y) x

def chi (a : State) : State :=
  .ofFn fun i =>
    let x := i.val % 5
    let y := i.val / 5
    a[i] ^^^ ((~~~ (a.lane (x + 1) y)) &&& a.lane (x + 2) y)

def round (a : State) (constant : UInt64) : State :=
  let b := chi (rhoPi (theta a))
  b.set 0 (b[0] ^^^ constant)

def permute (a : State) : State := roundConstants.foldl round a

def rate : Nat := 136

/-- One set bit after the message and one at the end of its last block. -/
def pad (message : Bytes) : Bytes :=
  let free := rate - message.length % rate
  if free = 1 then message ++ [0x81]
  else message ++ 0x01 :: List.replicate (free - 2) 0 ++ [0x80]

def absorbBlock (a : State) (block : Array UInt8) : State :=
  .ofFn fun i =>
    if i.val < 17 then
      let word : UInt64 := (List.range 8).foldr
        (fun k (acc : UInt64) => (acc <<< 8) ||| (block.getD (8 * i.val + k) 0).toUInt64) 0
      a[i] ^^^ word
    else a[i]

def absorb : Nat → State → Bytes → State
  | 0, a, _ => a
  | blocks + 1, a, bs =>
    absorb blocks (permute (absorbBlock a (bs.take rate).toArray)) (bs.drop rate)

/-- The first 32 bytes of the state, each lane with its least significant byte first. -/
def squeeze (a : State) : Bytes :=
  Bytes.littleEndian 8 a[0].toNat ++ Bytes.littleEndian 8 a[1].toNat ++
    Bytes.littleEndian 8 a[2].toNat ++ Bytes.littleEndian 8 a[3].toNat

def hash (message : Bytes) : Digest :=
  let padded := pad message
  ⟨squeeze (absorb (padded.length / rate) (Vector.replicate 25 0) padded), by simp [squeeze]⟩

end GasSponsor.Keccak
