import GasSponsor.Bytes.Hex
import GasSponsor.Hash.Keccak

/-!
# Checksummed addresses

An address in hexadecimal whose letters are upper case where the hash of the lower-case digits has a
high nibble.
-/

namespace GasSponsor.Ethereum

def nibbles (bs : Bytes) : List Nat :=
  bs.flatMap fun b => [b.toNat / 16, b.toNat % 16]

def capitalise (c : Char) (nibble : Nat) : Char :=
  if 8 ≤ nibble then c.toUpper else c

def checksummed (address : Address) : String :=
  let digits := Hex.digits address.bytes
  let hash := Keccak.hash (Bytes.ofText (String.ofList digits))
  "0x" ++ String.ofList (List.zipWith capitalise digits (nibbles hash.bytes))

end GasSponsor.Ethereum
