/-!
# Byte strings

A byte string is a list of bytes. Numbers are written big-endian, either with as few bytes as
possible or in a fixed width, and a value of fixed length carries its length as a proof.
-/

namespace GasSponsor

abbrev Bytes := List UInt8

namespace Bytes

/-- The number that a byte string denotes, most significant byte first. -/
def toNat (bs : Bytes) : Nat :=
  bs.foldl (fun n b => 256 * n + b.toNat) 0

/-- The big-endian form of a number without leading zeros; zero is empty. -/
def minimal (n : Nat) : Bytes :=
  if n = 0 then [] else minimal (n / 256) ++ [UInt8.ofNat n]

/-- The lowest `width` bytes of a number, most significant byte first. -/
def fixed : Nat → Nat → Bytes
  | 0, _ => []
  | width + 1, n => fixed width (n / 256) ++ [UInt8.ofNat n]

def littleEndian : Nat → Nat → Bytes
  | 0, _ => []
  | width + 1, n => UInt8.ofNat n :: littleEndian width (n / 256)

@[simp] theorem length_fixed (width n : Nat) : (fixed width n).length = width := by
  induction width generalizing n with
  | zero => rfl
  | succ width ih => simp [fixed, ih]

@[simp] theorem length_littleEndian (width n : Nat) : (littleEndian width n).length = width := by
  induction width generalizing n with
  | zero => rfl
  | succ width ih => simp [littleEndian, ih]

def toNatLE : Bytes → Nat
  | [] => 0
  | b :: bs => b.toNat + 256 * toNatLE bs

def ofText (s : String) : Bytes := s.toByteArray.data.toList

def toText? (bs : Bytes) : Option String := String.fromUTF8? ⟨bs.toArray⟩

end Bytes

structure FixedBytes (n : Nat) where
  bytes : Bytes
  length_eq : bytes.length = n

namespace FixedBytes

variable {n : Nat}

theorem ext {x y : FixedBytes n} (h : x.bytes = y.bytes) : x = y := by
  cases x; cases y; cases h; rfl

instance : DecidableEq (FixedBytes n) := fun x y =>
  if h : x.bytes = y.bytes then .isTrue (ext h) else .isFalse fun e => h (e ▸ rfl)

def ofNat (n v : Nat) : FixedBytes n := ⟨Bytes.fixed n v, by simp⟩

instance : Inhabited (FixedBytes n) := ⟨ofNat n 0⟩

def ofBytes? (bs : Bytes) : Option (FixedBytes n) :=
  if h : bs.length = n then some ⟨bs, h⟩ else none

end FixedBytes

/-- An account on the execution layer, or the hash of a public key. -/
abbrev Address := FixedBytes 20

abbrev Digest := FixedBytes 32

abbrev Word := BitVec 256

end GasSponsor
