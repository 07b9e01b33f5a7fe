import GasSponsor.Bytes
import GasSponsor.Text.Decimal

/-!
# Base64 text

Four symbols for three bytes, with padding to a multiple of four. Reading accepts exactly the text
that writing produces, and tells the first fault otherwise.
-/

namespace GasSponsor.Base64

def symbol (n : Nat) : Char :=
  if n < 26 then Char.ofNat (65 + n)
  else if n < 52 then Char.ofNat (71 + n)
  else if n < 62 then Char.ofNat (n - 4)
  else if n = 62 then '+'
  else '/'

def symbolValue? (b : UInt8) : Option Nat :=
  let n := b.toNat
  if 65 ≤ n ∧ n ≤ 90 then some (n - 65)
  else if 97 ≤ n ∧ n ≤ 122 then some (n - 71)
  else if 48 ≤ n ∧ n ≤ 57 then some (n + 4)
  else if n = 43 then some 62
  else if n = 47 then some 63
  else none

def symbols : Bytes → List Char
  | [] => []
  | [a] =>
    let n := a.toNat * 16
    [symbol (n / 64), symbol (n % 64), '=', '=']
  | [a, b] =>
    let n := (a.toNat * 256 + b.toNat) * 4
    [symbol (n / 4096), symbol (n / 64 % 64), symbol (n % 64), '=']
  | a :: b :: c :: rest =>
    let n := (a.toNat * 256 + b.toNat) * 256 + c.toNat
    symbol (n / 262144) :: symbol (n / 4096 % 64) :: symbol (n / 64 % 64) :: symbol (n % 64) ::
      symbols rest

def encode (bs : Bytes) : String := String.ofList (symbols bs)

inductive Error
  | invalidByte (byte : UInt8) (offset : Nat)
  | invalidLength
  | invalidLastSymbol (byte : UInt8) (offset : Nat)
  | invalidPadding
deriving DecidableEq, Repr

def Error.message : Error → String
  | invalidByte byte offset =>
    "Invalid byte " ++ Decimal.encode byte.toNat ++ ", offset " ++ Decimal.encode offset ++ "."
  | invalidLength => "Encoded text cannot have a 6-bit remainder."
  | invalidLastSymbol byte offset =>
    "Invalid last symbol " ++ Decimal.encode byte.toNat ++ ", offset " ++
      Decimal.encode offset ++ "."
  | invalidPadding => "Invalid padding"

def padding : UInt8 := 61

def values (offset : Nat) : Bytes → Except Error (List Nat)
  | [] => .ok []
  | b :: rest =>
    match symbolValue? b with
    | none => .error (.invalidByte b offset)
    | some v => do return v :: (← values (offset + 1) rest)

/-- The values of the symbols of the tail, which ends with the padding. Behind padding stands no
symbol, and none of the first two places of a group is padding. -/
def tailValues (offset index : Nat) (firstPadding : Option Nat) : Bytes → Except Error (List Nat)
  | [] => .ok []
  | b :: rest =>
    if b = padding then
      if index % 4 < 2 then .error (.invalidByte padding (offset + firstPadding.getD index))
      else tailValues offset (index + 1) (some (firstPadding.getD index)) rest
    else
      match firstPadding, symbolValue? b with
      | some first, _ => .error (.invalidByte padding (offset + first))
      | none, none => .error (.invalidByte b (offset + index))
      | none, some v => do return v :: (← tailValues offset (index + 1) none rest)

/-- The bytes in groups of four symbols, and what is left over. -/
def join : List Nat → Bytes
  | a :: b :: c :: d :: rest =>
    let n := ((a * 64 + b) * 64 + c) * 64 + d
    UInt8.ofNat (n / 65536) :: UInt8.ofNat (n / 256) :: UInt8.ofNat n :: join rest
  | [a, b, c] =>
    let n := ((a * 64 + b) * 64 + c) / 4
    [UInt8.ofNat (n / 256), UInt8.ofNat n]
  | [a, b] => [UInt8.ofNat ((a * 64 + b) / 16)]
  | _ => []

/-- Bits of the last symbol that belong to no byte. -/
def spareBits (vs : List Nat) : Nat :=
  match vs.length % 4 with
  | 2 => vs.getLast?.getD 0 % 16
  | 3 => vs.getLast?.getD 0 % 4
  | _ => 0

def tailLength (length : Nat) : Nat :=
  if length % 8 = 0 then min length 8 else length % 8

def decode (text : Bytes) : Except Error Bytes := do
  let length := text.length
  if length % 8 = 1 ∨ length % 8 = 5 then
    match text.getLast? with
    | some b =>
      if b ≠ padding ∧ (symbolValue? b).isNone then throw (.invalidByte b (length - 1))
      else throw .invalidLength
    | none => throw .invalidLength
  let start := length - tailLength length
  let front ← values 0 (text.take start)
  let tail := text.drop start
  let back ← tailValues start 0 none tail
  if tail.length % 4 ≠ 0 then throw .invalidPadding
  if spareBits back ≠ 0 then
    throw (.invalidLastSymbol ((text.filter (· ≠ padding)).getLast?.getD 0)
      (start + back.length - 1))
  return join (front ++ back)

end GasSponsor.Base64
