import GasSponsor.Bytes
import GasSponsor.Text.Decimal
import GasSponsor.Text.Quoted

/-!
# Hexadecimal text

Two digits for each byte, written in lower case and read in either case.
-/

namespace GasSponsor.Hex

def digit (n : Nat) : Char :=
  if n < 10 then Char.ofNat (48 + n) else Char.ofNat (87 + n)

def upperDigit (n : Nat) : Char :=
  if n < 10 then Char.ofNat (48 + n) else Char.ofNat (55 + n)

def digits (bs : Bytes) : List Char :=
  bs.flatMap fun b => [digit (b.toNat / 16), digit (b.toNat % 16)]

def encode (bs : Bytes) : String := String.ofList (digits bs)

def encodeUpper (bs : Bytes) : String :=
  String.ofList (bs.flatMap fun b => [upperDigit (b.toNat / 16), upperDigit (b.toNat % 16)])

def encodePrefixed (bs : Bytes) : String := "0x" ++ encode bs

def digitValue? (b : UInt8) : Option Nat :=
  let n := b.toNat
  if 48 ≤ n ∧ n ≤ 57 then some (n - 48)
  else if 97 ≤ n ∧ n ≤ 102 then some (n - 87)
  else if 65 ≤ n ∧ n ≤ 70 then some (n - 55)
  else none

inductive Error
  | oddLength
  | invalidDigit (byte : UInt8) (position : Nat)
deriving DecidableEq, Repr

def Error.message : Error → String
  | oddLength => "Odd number of digits"
  | invalidDigit byte position =>
    "Invalid character " ++ Quoted.char (Char.ofNat byte.toNat) ++ " at position " ++
      Decimal.encode position

/-- Reads pairs of digits; `position` is the index of the first one in the whole text. -/
def decodePairs (position : Nat) : Bytes → Except Error Bytes
  | [] => .ok []
  | [_] => .error .oddLength
  | hi :: lo :: rest =>
    match digitValue? hi, digitValue? lo with
    | none, _ => .error (.invalidDigit hi position)
    | some _, none => .error (.invalidDigit lo (position + 1))
    | some h, some l => do
      let bs ← decodePairs (position + 2) rest
      return UInt8.ofNat (16 * h + l) :: bs

/-- Reads the UTF-8 bytes of a text as digits. An odd count is reported before any bad digit. -/
def decode (text : Bytes) : Except Error Bytes :=
  if text.length % 2 = 1 then .error .oddLength else decodePairs 0 text

def dropMark (s : String) : Bytes :=
  match Bytes.ofText s with
  | 0x30 :: 0x78 :: rest => rest
  | bs => bs

end GasSponsor.Hex
