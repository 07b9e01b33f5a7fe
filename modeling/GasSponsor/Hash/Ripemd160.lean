import GasSponsor.Bytes

/-!
# RIPEMD-160

Two lines of eighty steps over sixteen little-endian words of each block, added crosswise.
-/

namespace GasSponsor.Ripemd160

structure State where
  a : UInt32
  b : UInt32
  c : UInt32
  d : UInt32
  e : UInt32

def initial : State := ⟨0x67452301, 0xefcdab89, 0x98badcfe, 0x10325476, 0xc3d2e1f0⟩

/-- The word, the rotation and the number of the round of each step of a line. -/
def leftWords : List Nat :=
  [0, 1, 2, 3, 4, 5, 6, 7, 8, 9, 10, 11, 12, 13, 14, 15,
   7, 4, 13, 1, 10, 6, 15, 3, 12, 0, 9, 5, 2, 14, 11, 8,
   3, 10, 14, 4, 9, 15, 8, 1, 2, 7, 0, 6, 13, 11, 5, 12,
   1, 9, 11, 10, 0, 8, 12, 4, 13, 3, 7, 15, 14, 5, 6, 2,
   4, 0, 5, 9, 7, 12, 2, 10, 14, 1, 3, 8, 11, 6, 15, 13]

def rightWords : List Nat :=
  [5, 14, 7, 0, 9, 2, 11, 4, 13, 6, 15, 8, 1, 10, 3, 12,
   6, 11, 3, 7, 0, 13, 5, 10, 14, 15, 8, 12, 4, 9, 1, 2,
   15, 5, 1, 3, 7, 14, 6, 9, 11, 8, 12, 2, 10, 0, 4, 13,
   8, 6, 4, 1, 3, 11, 15, 0, 5, 12, 2, 13, 9, 7, 10, 14,
   12, 15, 10, 4, 1, 5, 8, 7, 6, 2, 13, 14, 0, 3, 9, 11]

def leftTurns : List UInt32 :=
  [11, 14, 15, 12, 5, 8, 7, 9, 11, 13, 14, 15, 6, 7, 9, 8,
   7, 6, 8, 13, 11, 9, 7, 15, 7, 12, 15, 9, 11, 7, 13, 12,
   11, 13, 6, 7, 14, 9, 13, 15, 14, 8, 13, 6, 5, 12, 7, 5,
   11, 12, 14, 15, 14, 15, 9, 8, 9, 14, 5, 6, 8, 6, 5, 12,
   9, 15, 5, 11, 6, 8, 13, 12, 5, 12, 13, 14, 11, 8, 5, 6]

def rightTurns : List UInt32 :=
  [8, 9, 9, 11, 13, 15, 15, 5, 7, 7, 8, 11, 14, 14, 12, 6,
   9, 13, 15, 7, 12, 8, 9, 11, 7, 7, 12, 7, 6, 15, 13, 11,
   9, 7, 15, 11, 8, 6, 6, 14, 12, 13, 5, 14, 13, 13, 7, 5,
   15, 5, 8, 11, 14, 14, 6, 14, 6, 9, 12, 9, 12, 5, 15, 8,
   8, 5, 12, 9, 12, 5, 14, 6, 8, 13, 6, 5, 15, 13, 11, 11]

def leftConstant : Nat → UInt32
  | 0 => 0
  | 1 => 0x5a827999
  | 2 => 0x6ed9eba1
  | 3 => 0x8f1bbcdc
  | _ => 0xa953fd4e

def rightConstant : Nat → UInt32
  | 0 => 0x50a28be6
  | 1 => 0x5c4dd124
  | 2 => 0x6d703ef3
  | 3 => 0x7a6d76e9
  | _ => 0

/-- The Boolean function of round `i`; the right line takes them in reverse. -/
def mix (i : Nat) (x y z : UInt32) : UInt32 :=
  match i with
  | 0 => x ^^^ y ^^^ z
  | 1 => (x &&& y) ||| (~~~x &&& z)
  | 2 => (x ||| ~~~y) ^^^ z
  | 3 => (x &&& z) ||| (y &&& ~~~z)
  | _ => x ^^^ (y ||| ~~~z)

def rotateLeft (w k : UInt32) : UInt32 := (w <<< k) ||| (w >>> (32 - k))

def step (s : State) (mixed word constant turn : UInt32) : State :=
  let t := rotateLeft (s.a + mixed + word + constant) turn + s.e
  ⟨s.e, t, s.b, rotateLeft s.c 10, s.d⟩

def line (block : Array UInt32) (function : Nat → Nat) (constant : Nat → UInt32) (ws : List Nat)
    (turns : List UInt32) (s : State) : State :=
  ((List.range 80).zip (ws.zip turns)).foldl
    (fun s step' =>
      let i := step'.1 / 16
      step s (mix (function i) s.b s.c s.d) (block.getD step'.2.1 0) (constant i) step'.2.2) s

def words : Bytes → List UInt32
  | b0 :: b1 :: b2 :: b3 :: rest =>
    (b0.toUInt32 ||| (b1.toUInt32 <<< 8) ||| (b2.toUInt32 <<< 16) ||| (b3.toUInt32 <<< 24)) ::
      words rest
  | _ => []

def compress (s : State) (block : Bytes) : State :=
  let ws := (words block).toArray
  let l := line ws id leftConstant leftWords leftTurns s
  let r := line ws (4 - ·) rightConstant rightWords rightTurns s
  ⟨s.b + l.c + r.d, s.c + l.d + r.e, s.d + l.e + r.a, s.e + l.a + r.b, s.a + l.b + r.c⟩

def pad (message : Bytes) : Bytes :=
  message ++ 0x80 :: List.replicate ((119 - message.length % 64) % 64) 0 ++
    Bytes.littleEndian 8 (8 * message.length)

def absorb : Nat → State → Bytes → State
  | 0, s, _ => s
  | blocks + 1, s, bs => absorb blocks (compress s (bs.take 64)) (bs.drop 64)

def State.bytes (s : State) : Bytes :=
  Bytes.littleEndian 4 s.a.toNat ++ Bytes.littleEndian 4 s.b.toNat ++
    Bytes.littleEndian 4 s.c.toNat ++ Bytes.littleEndian 4 s.d.toNat ++
    Bytes.littleEndian 4 s.e.toNat

def hash (message : Bytes) : Address :=
  let padded := pad message
  ⟨(absorb (padded.length / 64) initial padded).bytes, by simp [State.bytes]⟩

end GasSponsor.Ripemd160
