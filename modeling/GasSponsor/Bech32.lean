import GasSponsor.Bytes

/-!
# Bech32

A human-readable part, the digit one as a separator, and data in units of five bits, followed by six
units of checksum. The writer puts the human-readable part in lower case; the verifier is written
apart from it.
-/

namespace GasSponsor.Bech32

def alphabet : List Char := "qpzry9x8gf2tvdw0s3jn54khce6mua7l".toList

def generators : List Nat := [0x3b6a57b2, 0x26508e6d, 0x1ea119fa, 0x3d4233dd, 0x2a1462b3]

/-- One step of the division of the code word by the generator polynomial. -/
def polymodStep (checksum unit : Nat) : Nat :=
  let top := checksum >>> 25
  let shifted := ((checksum &&& 0x1ffffff) <<< 5) ^^^ unit
  ((List.range 5).zip generators).foldl
    (fun c ig => if top.testBit ig.1 then c ^^^ ig.2 else c) shifted

def polymod (units : List Nat) : Nat := units.foldl polymodStep 1

def expand (hrp : Bytes) : List Nat :=
  hrp.map (fun b => b.toNat / 32) ++ 0 :: hrp.map (fun b => b.toNat % 32)

def checksum (hrp : Bytes) (units : List Nat) : List Nat :=
  let rest := polymod (expand hrp ++ units ++ List.replicate 6 0) ^^^ 1
  [25, 20, 15, 10, 5, 0].map fun shift => (rest >>> shift) % 32

/-- Bytes in units of five bits, the last unit filled up with zeros. -/
def regroup (bs : Bytes) : List Nat :=
  let bits := 8 * bs.length
  let count := (bits + 4) / 5
  let value := bs.toNat <<< (5 * count - bits)
  (List.range count).map fun i => (value >>> (5 * (count - 1 - i))) % 32

/-- The bytes held by units of five bits, without the bits that do not fill a byte. -/
def ungroup (units : List Nat) : Bytes :=
  let bits := 5 * units.length
  Bytes.fixed (bits / 8) (units.foldl (fun n u => 32 * n + u) 0 >>> (bits % 8))

inductive Error
  | invalidLength
  | invalidChar (byte : UInt8)
  | mixedCase
deriving DecidableEq, Repr

def Error.message : Error → String
  | invalidLength => "invalid length"
  | invalidChar byte =>
    "invalid character (code=" ++ String.singleton (Char.ofNat byte.toNat) ++ ")"
  | mixedCase => "mixed-case strings not allowed"

def isLower (b : UInt8) : Bool := 97 ≤ b.toNat && b.toNat ≤ 122

def isUpper (b : UInt8) : Bool := 65 ≤ b.toNat && b.toNat ≤ 90

/-- Goes through a human-readable part up to the first byte that is no visible character or brings
in the other case. -/
def checkFrom (lower upper : Bool) : Bytes → Except Error Unit
  | [] => .ok ()
  | b :: rest =>
    if b.toNat < 33 ∨ 126 < b.toNat then .error (.invalidChar b)
    else
      let lower := lower || isLower b
      let upper := upper || isUpper b
      if lower && upper then .error .mixedCase else checkFrom lower upper rest

def checkHrp (hrp : Bytes) : Except Error Unit :=
  if hrp.isEmpty ∨ 83 < hrp.length then .error .invalidLength else checkFrom false false hrp

def lowercase (hrp : Bytes) : Bytes := hrp.map fun b => if isUpper b then b + 32 else b

def symbol (unit : Nat) : Char := alphabet.getD unit 'q'

def encode (hrp data : Bytes) : Except Error String := do
  checkHrp hrp
  let hrp := lowercase hrp
  let units := regroup data
  return String.ofList (hrp.map (fun b => Char.ofNat b.toNat) ++ '1' ::
    (units ++ checksum hrp units).map symbol)

def unit? (c : Char) : Option Nat := alphabet.findIdx? (· == c)

def verify? (text : String) : Option (Bytes × Bytes) := do
  let cs := text.toList.reverse
  let tail := (cs.takeWhile (· != '1')).reverse
  let hrp := Bytes.ofText (String.ofList (cs.dropWhile (· != '1')).tail.reverse)
  let units ← tail.mapM unit?
  if units.length < 6 ∨ hrp.isEmpty ∨ polymod (expand hrp ++ units) ≠ 1 then none
  else some (hrp, ungroup (units.take (units.length - 6)))

end GasSponsor.Bech32
