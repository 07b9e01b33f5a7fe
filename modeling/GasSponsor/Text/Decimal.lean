/-!
# Decimal text

Natural numbers in decimal digits without leading zeros.
-/

namespace GasSponsor.Decimal

def digit (n : Nat) : Char := Char.ofNat (48 + n)

def digits (n : Nat) : List Char :=
  if n < 10 then [digit n] else digits (n / 10) ++ [digit (n % 10)]

def power (n : Nat) : Nat := Nat.pow 10 n

def encode (n : Nat) : String := String.ofList (digits n)

def digitValue? (c : Char) : Option Nat :=
  if 48 ≤ c.toNat ∧ c.toNat ≤ 57 then some (c.toNat - 48) else none

/-- Reads digits after those that make up `n`. -/
def readDigits (n : Nat) : List Char → Option Nat
  | [] => some n
  | c :: cs =>
    match digitValue? c with
    | some d => readDigits (10 * n + d) cs
    | none => none

def decode (cs : List Char) : Option Nat :=
  if cs.isEmpty then none else readDigits 0 cs

end GasSponsor.Decimal
