/-!
# The curve of the keys

The points of the curve `y ^ 2 = x ^ 3 + 7` over a field of prime order form a group. A private key
is a number, and its public key is that multiple of the base point.
-/

namespace Rollout.Wallet

/-- The order of the field. -/
def fieldOrder : Nat := Nat.pow 2 256 - Nat.pow 2 32 - 977

/-- The order of the base point. -/
def groupOrder : Nat := 0xFFFFFFFFFFFFFFFFFFFFFFFFFFFFFFFEBAAEDCE6AF48A03BBFD25E8CD0364141

/-- A point of the curve. -/
inductive Point where
  /-- The neutral point. -/
  | infinity
  /-- A point with coordinates. -/
  | affine (x y : Nat)
deriving DecidableEq, Repr

/-- A power in the field, by the lowest `bits` bits of the exponent. -/
def fieldPower : Nat → Nat → Nat → Nat
  | 0, _, _ => 1
  | bits + 1, base, exponent =>
    let square := fieldPower bits (base * base % fieldOrder) (exponent / 2)
    if exponent % 2 = 1 then base * square % fieldOrder else square

/-- The inverse of a field element other than zero. -/
def fieldInverse (n : Nat) : Nat := fieldPower 256 n (fieldOrder - 2)

/-- The difference of two field elements. -/
def fieldSub (a b : Nat) : Nat := (a + (fieldOrder - b % fieldOrder)) % fieldOrder

namespace Point

/-- The base point. -/
def base : Point :=
  affine 0x79BE667EF9DCBBAC55A06295CE870B07029BFCDB2DCE28D959F2815B16F81798
    0x483ADA7726A3C4655DA4FBFC0E1108A8FD17B448A68554199C47D08FFB10D4B8

/-- Tells whether a point lies on the curve. -/
def onCurve : Point → Bool
  | infinity => true
  | affine x y => y * y % fieldOrder == (x * x * x + 7) % fieldOrder

/-- The third point on a line of a slope through two points, mirrored. -/
def chord (slope x y x' : Nat) : Point :=
  let x'' := fieldSub (slope * slope % fieldOrder) (x + x')
  affine x'' (fieldSub (slope * fieldSub x x'' % fieldOrder) y)

/-- The sum of two points. -/
def add : Point → Point → Point
  | infinity, q => q
  | p, infinity => p
  | affine x y, affine x' y' =>
    if x = x' then
      if (y + y') % fieldOrder = 0 then infinity
      else chord (3 * x * x * fieldInverse (2 * y % fieldOrder) % fieldOrder) x y x'
    else chord (fieldSub y' y * fieldInverse (fieldSub x' x) % fieldOrder) x y x'

/-- A multiple of a point, by the lowest `bits` bits of the factor. -/
def multiple : Nat → Nat → Point → Point
  | 0, _, _ => infinity
  | bits + 1, factor, p =>
    let rest := multiple bits (factor / 2) (p.add p)
    if factor % 2 = 1 then p.add rest else rest

/-- The public key of a private key. -/
def ofKey (key : Nat) : Point := multiple 256 key base

end Point

example : Point.base.onCurve = true := by decide

end Rollout.Wallet
