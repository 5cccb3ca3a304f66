/-!
# Binary floating-point numbers

A number of the 64-bit binary format as exact data: a finite number is a mantissa times a power of
two. Decimal text is rounded to the nearest such number, a tie going to the even mantissa.
-/

namespace Rollout

/-- A number of the 64-bit binary format. -/
inductive Binary64 where
  /-- The number `mantissa * 2 ^ exponent` with a sign. -/
  | finite (negative : Bool) (mantissa : Nat) (exponent : Int)
  /-- An infinity. -/
  | infinite (negative : Bool)
  /-- The result of no number. -/
  | nan
deriving DecidableEq, Repr

namespace Binary64

/-- The number of bits of a mantissa. -/
def precision : Nat := 53

/-- The least exponent. -/
def leastExponent : Int := -1074

/-- The greatest exponent. -/
def greatestExponent : Int := 971

/-- The quotient of two numbers rounded to the nearest integer, a tie to the even one. -/
def roundQuotient (num den : Nat) : Nat :=
  let q := num / den
  let twice := 2 * (num % den)
  if den < twice ∨ (twice = den ∧ q % 2 = 1) then q + 1 else q

/-- A natural number times a power of two with an integer exponent, as numerator and denominator. -/
def scale (n : Nat) (exponent : Int) : Nat × Nat :=
  (n * Nat.pow 2 exponent.toNat, Nat.pow 2 (-exponent).toNat)

/-- The number nearest to a fraction. -/
def ofFraction (negative : Bool) (num den : Nat) : Binary64 :=
  if num = 0 then .finite negative 0 leastExponent
  else
    let size : Int := (num.log2 : Int) - den.log2
    let (top, bottom) := scale 1 size
    let bits : Int := if num * bottom < den * top then size - 1 else size
    let exponent := max (bits - (precision - 1)) leastExponent
    let (up, down) := scale 1 (-exponent)
    let mantissa := roundQuotient (num * up) (den * down)
    let (mantissa, exponent) :=
      if mantissa = Nat.pow 2 precision then (Nat.pow 2 (precision - 1), exponent + 1)
      else (mantissa, exponent)
    if greatestExponent < exponent then .infinite negative else .finite negative mantissa exponent

/-- The magnitude, in powers of ten, beyond which every decimal number rounds to an infinity or to
zero. -/
def decimalReach : Int := 400

/-- The number nearest to `digits * 10 ^ exponent`. -/
def ofDecimal (negative : Bool) (digits : Nat) (exponent : Int) : Binary64 :=
  let magnitude := (Nat.toDigits 10 digits).length + exponent
  if digits = 0 ∨ magnitude < -decimalReach then .finite negative 0 leastExponent
  else if decimalReach < magnitude then .infinite negative
  else ofFraction negative (digits * Nat.pow 10 exponent.toNat) (Nat.pow 10 (-exponent).toNat)

/-- The integer part of a finite number. -/
def truncate? : Binary64 → Option Int
  | .finite negative mantissa exponent =>
    let (num, den) := scale mantissa exponent
    some (if negative then -((num / den : Nat) : Int) else (num / den : Nat))
  | .infinite _ => none
  | .nan => none

/-- Tells whether a number is zero, of either sign. -/
def isZero : Binary64 → Bool
  | .finite _ mantissa _ => mantissa = 0
  | _ => false

/-- Tells whether a number is an integer. -/
def isWhole : Binary64 → Bool
  | .finite _ mantissa exponent =>
    let (num, den) := scale mantissa exponent
    num % den == 0
  | _ => false

/-- Tells whether a number is one. -/
def isOne : Binary64 → Bool
  | .finite negative mantissa exponent =>
    let (num, den) := scale mantissa exponent
    !negative && num == den
  | _ => false

example : ofDecimal false 15 (-1) = .finite false 6755399441055744 (-52) := by decide
example : (ofDecimal true 27 (-1)).truncate? = some (-2) := by decide
example : (ofDecimal false 10 (-1)).isOne = true := by decide

end Binary64

end Rollout
