import GasSponsor.Bytes

/-!
# Recursive length prefix: writing

A byte string or a list, each behind a header that gives its length. Numbers are byte strings
without leading zeros.
-/

namespace GasSponsor.Rlp

/-- The header of a payload, with the offsets of its kind: `0x80` for bytes, `0xc0` for a list. -/
def header (offset length : Nat) : Bytes :=
  if length ≤ 55 then [UInt8.ofNat (offset + length)]
  else
    let size := Bytes.minimal length
    UInt8.ofNat (offset + 55 + size.length) :: size

/-- A byte string. A single byte below `0x80` stands for itself. -/
def bytes (payload : Bytes) : Bytes :=
  match payload with
  | [b] => if b.toNat < 0x80 then [b] else [0x81, b]
  | _ => header 0x80 payload.length ++ payload

def number (n : Nat) : Bytes := bytes (Bytes.minimal n)

def list (items : List Bytes) : Bytes :=
  let payload := items.flatten
  header 0xc0 payload.length ++ payload

end GasSponsor.Rlp
