import GasSponsor.Bytes
import GasSponsor.Wire.Error

/-!
# Variable-length integers

Seven bits to a byte, the lowest first, the high bit set on every byte but the last. A number of 64
bits takes at most ten bytes.
-/

namespace GasSponsor.Wire.Varint

def encode (n : Nat) : Bytes :=
  if n < 128 then [UInt8.ofNat n] else UInt8.ofNat (n % 128 + 128) :: encode (n / 128)

def size (n : Nat) : Nat := (9 * Nat.log2 (n ||| 1) + 73) / 64

/-- Reads a number of at most `bytes` bytes. The last byte of the longest form may hold only the
lowest bit. -/
def readUpTo : Nat → Bytes → Result (Nat × Bytes)
  | 0, _ => fail .invalidVarint
  | _, [] => fail .invalidVarint
  | bytes + 1, b :: rest =>
    if b.toNat < 128 then
      if bytes = 0 ∧ 2 ≤ b.toNat then fail .invalidVarint else .ok (b.toNat, rest)
    else do
      let (high, rest) ← readUpTo bytes rest
      .ok (b.toNat - 128 + 128 * high, rest)

def read (bs : Bytes) : Result (Nat × Bytes) := readUpTo 10 bs

end GasSponsor.Wire.Varint
