import GasSponsor.Text.Decimal

/-!
# Floating-point numbers of 64 bits

A number that is not negative, as a mantissa below `2 ^ 53` and a power of two, or infinity. A
quotient is rounded to the nearest such number, a tie to the even mantissa. The text of a number has
the fewest digits that read back.
-/

namespace GasSponsor

inductive Binary64
  | finite (mantissa : Nat) (exponent : Int)
  | infinite
deriving DecidableEq, Repr

namespace Binary64

def zero : Binary64 := finite 0 0

def mantissaBound : Nat := 0x20000000000000

/-- The quotient rounded to the nearest integer, a tie to the even one. -/
def divNearest (a b : Nat) : Nat :=
  let q := a / b
  let r := a % b
  if b < 2 * r ∨ (b = 2 * r ∧ q % 2 = 1) then q + 1 else q

def minExponent : Int := -1074

/-- `a / b` divided by two to the exponent, to the nearest integer. -/
def scaled (a b : Nat) (exponent : Int) : Nat :=
  if 0 ≤ exponent then divNearest a (b <<< exponent.toNat)
  else divNearest (a <<< (-exponent).toNat) b

def ofRatio (a b : Nat) : Binary64 :=
  if a = 0 ∨ b = 0 then zero
  else
    let low : Int := (a.log2 : Int) - b.log2 - 53
    let fits := scaled a b (max low minExponent) < mantissaBound
    let exponent := max (if fits then low else low + 1) minExponent
    let m := scaled a b exponent
    let (m, exponent) :=
      if m = mantissaBound then (mantissaBound / 2, exponent + 1) else (m, exponent)
    if 971 < exponent then infinite else finite m exponent

def ofNat (n : Nat) : Binary64 := ofRatio n 1

def ratio (m : Nat) (e : Int) : Nat × Nat :=
  if 0 ≤ e then (m <<< e.toNat, 1) else (m, 1 <<< (-e).toNat)

def mul : Binary64 → Binary64 → Binary64
  | finite m e, finite m' e' =>
    let (a, b) := ratio m e
    let (a', b') := ratio m' e'
    ofRatio (a * a') (b * b')
  | _, _ => infinite

def div : Binary64 → Binary64 → Binary64
  | finite m e, finite m' e' =>
    let (a, b) := ratio m e
    let (a', b') := ratio m' e'
    ofRatio (a * b') (b * a')
  | _, _ => infinite

/-- Digits `d` and a power of ten `x` with `d * 10 ^ x` in the interval of the numbers that round to
`m * 2 ^ e`: of all such with the largest `x` the nearest, a tie upwards. Grids are tried downwards
from `x`. -/
def shortestFrom (m : Nat) (e : Int) : Nat → Int → Nat × Int
  | 0, x => (0, x)
  | tries + 1, x =>
    let up := 1 <<< e.toNat
    let down := 4 <<< (-e).toNat
    let value := 4 * m * up
    let above := value + 2 * up
    let below := value - (if m = mantissaBound / 2 ∧ minExponent < e then up else 2 * up)
    let (scale, unit) :=
      if 0 ≤ x then (1, down * Decimal.power x.toNat) else (Decimal.power (-x).toNat, down)
    let v := value * scale
    let floor := v / unit
    let inside := fun d =>
      let p := d * unit
      if m % 2 = 0 then below * scale ≤ p ∧ p ≤ above * scale
      else below * scale < p ∧ p < above * scale
    let lower := decide (inside floor ∧ floor ≠ 0)
    let upper := decide (inside (floor + 1))
    if upper ∧ (¬ lower ∨ unit ≤ 2 * (v % unit)) then (floor + 1, x)
    else if lower then (floor, x)
    else shortestFrom m e tries (x - 1)

/-- The fewest digits that read back as the number, and the power of ten of the last one. -/
def shortest (m : Nat) (e : Int) : Nat × Int :=
  if m = 0 then (0, 0) else shortestFrom m e 640 309

def positional (digits : List Char) (x : Int) : List Char :=
  if 0 ≤ x then digits ++ List.replicate x.toNat '0'
  else
    let places := (-x).toNat
    let padded := List.replicate (places + 1 - digits.length) '0' ++ digits
    let whole := padded.length - places
    padded.take whole ++ '.' :: padded.drop whole

def text : Binary64 → String
  | infinite => "inf"
  | finite m e =>
    let (d, x) := shortest m e
    String.ofList (if d = 0 then ['0'] else positional (Decimal.digits d) x)

end Binary64

end GasSponsor
