import GasSponsor.Bytes

/-!
# SHA-256 and its keyed form

The hash of FIPS 180-4, and the message authentication code of RFC 2104 over it.
-/

namespace GasSponsor.Sha256

structure State where
  a : UInt32
  b : UInt32
  c : UInt32
  d : UInt32
  e : UInt32
  f : UInt32
  g : UInt32
  h : UInt32

def initial : State :=
  ⟨0x6a09e667, 0xbb67ae85, 0x3c6ef372, 0xa54ff53a,
    0x510e527f, 0x9b05688c, 0x1f83d9ab, 0x5be0cd19⟩

def constants : List UInt32 :=
  [0x428a2f98, 0x71374491, 0xb5c0fbcf, 0xe9b5dba5, 0x3956c25b, 0x59f111f1, 0x923f82a4, 0xab1c5ed5,
   0xd807aa98, 0x12835b01, 0x243185be, 0x550c7dc3, 0x72be5d74, 0x80deb1fe, 0x9bdc06a7, 0xc19bf174,
   0xe49b69c1, 0xefbe4786, 0x0fc19dc6, 0x240ca1cc, 0x2de92c6f, 0x4a7484aa, 0x5cb0a9dc, 0x76f988da,
   0x983e5152, 0xa831c66d, 0xb00327c8, 0xbf597fc7, 0xc6e00bf3, 0xd5a79147, 0x06ca6351, 0x14292967,
   0x27b70a85, 0x2e1b2138, 0x4d2c6dfc, 0x53380d13, 0x650a7354, 0x766a0abb, 0x81c2c92e, 0x92722c85,
   0xa2bfe8a1, 0xa81a664b, 0xc24b8b70, 0xc76c51a3, 0xd192e819, 0xd6990624, 0xf40e3585, 0x106aa070,
   0x19a4c116, 0x1e376c08, 0x2748774c, 0x34b0bcb5, 0x391c0cb3, 0x4ed8aa4a, 0x5b9cca4f, 0x682e6ff3,
   0x748f82ee, 0x78a5636f, 0x84c87814, 0x8cc70208, 0x90befffa, 0xa4506ceb, 0xbef9a3f7, 0xc67178f2]

def rotateRight (w k : UInt32) : UInt32 := (w >>> k) ||| (w <<< (32 - k))

/-- The next schedule word from the sixteen before it, the oldest first. -/
def nextWord (w0 w1 w9 w14 : UInt32) : UInt32 :=
  let s0 := rotateRight w1 7 ^^^ rotateRight w1 18 ^^^ (w1 >>> 3)
  let s1 := rotateRight w14 17 ^^^ rotateRight w14 19 ^^^ (w14 >>> 10)
  w0 + s0 + w9 + s1

def extend (ws : Array UInt32) (i : Nat) : Array UInt32 :=
  ws.push (nextWord (ws.getD i 0) (ws.getD (i + 1) 0) (ws.getD (i + 9) 0) (ws.getD (i + 14) 0))

def words : Bytes → List UInt32
  | b0 :: b1 :: b2 :: b3 :: rest =>
    ((b0.toUInt32 <<< 24) ||| (b1.toUInt32 <<< 16) ||| (b2.toUInt32 <<< 8) ||| b3.toUInt32) ::
      words rest
  | _ => []

def schedule (block : Bytes) : Array UInt32 :=
  (List.range 48).foldl extend (words block).toArray

def round (s : State) (constant word : UInt32) : State :=
  let s1 := rotateRight s.e 6 ^^^ rotateRight s.e 11 ^^^ rotateRight s.e 25
  let choice := (s.e &&& s.f) ^^^ (~~~s.e &&& s.g)
  let t1 := s.h + s1 + choice + constant + word
  let s0 := rotateRight s.a 2 ^^^ rotateRight s.a 13 ^^^ rotateRight s.a 22
  let majority := (s.a &&& s.b) ^^^ (s.a &&& s.c) ^^^ (s.b &&& s.c)
  ⟨t1 + s0 + majority, s.a, s.b, s.c, s.d + t1, s.e, s.f, s.g⟩

def compress (s : State) (block : Bytes) : State :=
  let t := (constants.zip (schedule block).toList).foldl (fun t kw => round t kw.1 kw.2) s
  ⟨s.a + t.a, s.b + t.b, s.c + t.c, s.d + t.d, s.e + t.e, s.f + t.f, s.g + t.g, s.h + t.h⟩

def pad (message : Bytes) : Bytes :=
  message ++ 0x80 :: List.replicate ((119 - message.length % 64) % 64) 0 ++
    Bytes.fixed 8 (8 * message.length)

def absorb : Nat → State → Bytes → State
  | 0, s, _ => s
  | blocks + 1, s, bs => absorb blocks (compress s (bs.take 64)) (bs.drop 64)

def State.bytes (s : State) : Bytes :=
  Bytes.fixed 4 s.a.toNat ++ Bytes.fixed 4 s.b.toNat ++ Bytes.fixed 4 s.c.toNat ++
    Bytes.fixed 4 s.d.toNat ++ Bytes.fixed 4 s.e.toNat ++ Bytes.fixed 4 s.f.toNat ++
    Bytes.fixed 4 s.g.toNat ++ Bytes.fixed 4 s.h.toNat

def hash (message : Bytes) : Digest :=
  let padded := pad message
  ⟨(absorb (padded.length / 64) initial padded).bytes, by simp [State.bytes]⟩

/-- The authentication code of a message under a key of at most one block. -/
def mac (key message : Bytes) : Bytes :=
  let block := key ++ List.replicate (64 - key.length) 0
  let inner := hash (block.map (· ^^^ 0x36) ++ message)
  (hash (block.map (· ^^^ 0x5c) ++ inner.bytes)).bytes

end GasSponsor.Sha256
