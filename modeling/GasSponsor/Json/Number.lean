import GasSponsor.Number.Binary64

/-!
# JSON numbers

A number without fraction and exponent is an integer if it fits 64 bits. Every other number is
floating: its leading digits are collected in a 64-bit significand, and the significand is scaled by
a power of ten, rounding after each step. A number beyond the floating range is refused.
-/

namespace GasSponsor.Json

inductive Number
  | integer (n : Int)
  | floating (negative : Bool) (magnitude : Binary64)
deriving DecidableEq, Repr

structure Numeral where
  negative : Bool
  whole : List Char
  fraction : List Char
  exponent : Option (Bool × List Char)
deriving DecidableEq, Repr

namespace Numeral

/-- A 64-bit significand and the power of ten that it is to be scaled by. -/
structure Scaled where
  significand : Nat
  power : Int

def Scaled.step (s : Scaled) (c : Char) : Option Scaled :=
  let n := 10 * s.significand + (c.toNat - 48)
  if n < UInt64.size then some { s with significand := n } else none

/-- Takes in digits before the point. Once one does not fit, it and all that follow only count as
places. -/
def takeWhole (s : Scaled) : List Char → Scaled
  | [] => s
  | c :: cs =>
    match s.step c with
    | some s => takeWhole s cs
    | none => { s with power := s.power + (c :: cs).length }

def takeFraction (s : Scaled) : List Char → Scaled
  | [] => s
  | c :: cs =>
    match s.step c with
    | some s => takeFraction { s with power := s.power - 1 } cs
    | none => s

def scaled (n : Numeral) : Scaled := takeFraction (takeWhole ⟨0, 0⟩ n.whole) n.fraction

def powerOfTen (n : Nat) : Binary64 := .ofNat (Decimal.power n)

def scaleDown (f : Binary64) (places : Nat) : Binary64 :=
  if places ≤ 308 then f.div (powerOfTen places)
  else if places ≤ 1000 then scaleDown (f.div (powerOfTen 308)) (places - 308)
  else .zero
termination_by places

def scale (significand : Nat) (power : Int) : Option Binary64 :=
  let f := Binary64.ofNat significand
  if power < 0 then some (scaleDown f (-power).toNat)
  else if 308 < power then if significand = 0 then some f else none
  else
    match f.mul (powerOfTen power.toNat) with
    | .infinite => none
    | product => some product

def clampPower (p : Int) : Int := max (min p Int32.maxValue.toInt) Int32.minValue.toInt

/-- The value as a floating number. An exponent beyond its limit leaves only zero or nothing. -/
def floating (n : Numeral) : Option Binary64 :=
  let s := n.scaled
  match n.exponent with
  | none => scale s.significand s.power
  | some (down, digits) =>
    match Decimal.decode digits with
    | none => none
    | some e =>
      if Int32.maxValue.toInt < e then if s.significand ≠ 0 ∧ !down then none else some .zero
      else scale s.significand (clampPower (if down then s.power - e else s.power + e))

def number? (n : Numeral) : Option Number :=
  let magnitude := (Decimal.decode n.whole).getD 0
  let value : Int := if n.negative then -magnitude else magnitude
  if n.fraction = [] ∧ n.exponent = none ∧ Int64.minValue.toInt ≤ value ∧ value < UInt64.size ∧
      (n.negative → value < 0) then
    some (.integer value)
  else n.floating.map (.floating n.negative)

end Numeral

/-- Decimal notation with a point up to sixteen places before it and five zeros behind it, else an
exponent behind the first digit. -/
def floatingText (digits : List Char) (x : Int) : List Char :=
  let places : Int := digits.length + x
  if 0 ≤ x ∧ places ≤ 16 then digits ++ List.replicate x.toNat '0' ++ ['.', '0']
  else if -5 < places ∧ places ≤ 16 then Binary64.positional digits x
  else
    let point := match digits with
      | d :: rest => d :: (if rest.isEmpty then [] else '.' :: rest)
      | [] => []
    let e := places - 1
    point ++ 'e' :: (if e < 0 then ['-'] else []) ++ Decimal.digits e.natAbs

namespace Number

def text : Number → String
  | integer n => (if n < 0 then "-" else "") ++ Decimal.encode n.natAbs
  | floating negative value =>
    (if negative then "-" else "") ++
      match value with
      | .infinite => "inf"
      | .finite m e =>
        let (d, x) := Binary64.shortest m e
        if d = 0 then "0.0" else String.ofList (floatingText (Decimal.digits d) x)

end Number

end GasSponsor.Json
