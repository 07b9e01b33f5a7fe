/-!
# The curve `y² = x³ + 7`

Points of secp256k1 in Jacobian coordinates over the integers modulo `p`: the triple `(x, y, z)`
with `z ≠ 0` stands for the affine point `(x / z², y / z³)`, and one with `z = 0` for the point at
infinity.
-/

namespace GasSponsor.Curve

/-- The order of the field. -/
def p : Nat := 0xfffffffffffffffffffffffffffffffffffffffffffffffffffffffefffffc2f

/-- The order of the group. -/
def n : Nat := 0xfffffffffffffffffffffffffffffffebaaedce6af48a03bbfd25e8cd0364141

/-- `b ^ e` modulo `m` for an exponent below `2 ^ 256`. -/
def powMod (m b e : Nat) : Nat :=
  (List.range 256).foldr
    (fun i acc => let square := acc * acc % m; if e.testBit i then square * b % m else square)
    (1 % m)

def inverse (m a : Nat) : Nat := powMod m a (m - 2)

def addP (a b : Nat) : Nat := (a + b) % p

def subP (a b : Nat) : Nat := (a + (p - b % p)) % p

def mulP (a b : Nat) : Nat := a * b % p

structure Point where
  x : Nat
  y : Nat
  z : Nat
deriving DecidableEq, Repr, Inhabited

namespace Point

def infinity : Point := ⟨1, 1, 0⟩

def base : Point :=
  ⟨0x79be667ef9dcbbac55a06295ce870b07029bfcdb2dce28d959f2815b16f81798,
   0x483ada7726a3c4655da4fbfc0e1108a8fd17b448a68554199c47d08ffb10d4b8, 1⟩

def double (q : Point) : Point :=
  if q.z = 0 then infinity
  else
    let yy := mulP q.y q.y
    let s := mulP 4 (mulP q.x yy)
    let m := mulP 3 (mulP q.x q.x)
    let x := subP (mulP m m) (addP s s)
    ⟨x, subP (mulP m (subP s x)) (mulP 8 (mulP yy yy)), mulP 2 (mulP q.y q.z)⟩

def add (q r : Point) : Point :=
  if q.z = 0 then r
  else if r.z = 0 then q
  else
    let zz1 := mulP q.z q.z
    let zz2 := mulP r.z r.z
    let u1 := mulP q.x zz2
    let u2 := mulP r.x zz1
    let s1 := mulP q.y (mulP zz2 r.z)
    let s2 := mulP r.y (mulP zz1 q.z)
    if u1 = u2 then
      if s1 = s2 then double q else infinity
    else
      let h := subP u2 u1
      let d := subP s2 s1
      let hh := mulP h h
      let hhh := mulP hh h
      let v := mulP u1 hh
      let x := subP (subP (mulP d d) hhh) (addP v v)
      ⟨x, subP (mulP d (subP v x)) (mulP s1 hhh), mulP h (mulP q.z r.z)⟩

/-- `k` times a point, for `k` below `2 ^ 256`. -/
def scale (k : Nat) (q : Point) : Point :=
  (List.range 256).foldr
    (fun i acc => let twice := double acc; if k.testBit i then add twice q else twice)
    infinity

def affine? (q : Point) : Option (Nat × Nat) :=
  if q.z = 0 then none
  else
    let zi := inverse p q.z
    let zz := mulP zi zi
    some (mulP q.x zz, mulP q.y (mulP zz zi))

/-- The point with the given abscissa whose ordinate has the given parity. -/
def lift? (x : Nat) (odd : Bool) : Option Point :=
  if x < p then
    let yy := addP (mulP (mulP x x) x) 7
    let y := powMod p yy ((p + 1) / 4)
    if mulP y y = yy then
      some ⟨x, if y.testBit 0 = odd then y else subP 0 y, 1⟩
    else none
  else none

end Point

end GasSponsor.Curve
