import Rollout.Number.Binary64

/-!
# Shortest decimal text

A finite number is written with the fewest decimal digits that round back to it, and among those
with the ones nearest to it. For one, two, up to seventeen digits the two neighbours of the number
on that decimal grid are tried in exact arithmetic; the first grid with a hit gives the digits.

How digits become text is a separate decision, taken by a `DecimalLayout`.
-/

namespace Rollout.Binary64

/-- Decimal digits with a point: `digits` spell `0.d₁d₂… * 10 ^ point`. -/
structure Decimal where
  /-- The digits, as a number. -/
  digits : Nat
  /-- The place of the decimal point, counted from before the first digit. -/
  point : Int
deriving DecidableEq, Repr

/-- Compares `a * 10 ^ k` with `b * 2 ^ e`. -/
def compareScaled (a : Nat) (k : Int) (b : Nat) (e : Int) : Ordering :=
  compare (a * Nat.pow 10 k.toNat * Nat.pow 2 (-e).toNat)
    (b * Nat.pow 10 (-k).toNat * Nat.pow 2 e.toNat)

/-- The place of the decimal point of `mantissa * 2 ^ exponent`: the least `k` for which the number
is below `10 ^ k`. -/
def decimalPoint (mantissa : Nat) (exponent : Int) : Int :=
  let guess := Int.fdiv ((mantissa.log2 + exponent) * 30103) 100000
  (([guess - 1, guess, guess + 1].find? fun k =>
    compareScaled 1 k mantissa exponent == .gt)).getD (guess + 2)

/-- The interval of numbers that round to `mantissa * 2 ^ exponent`, in quarters of its last place;
its ends belong to it when the mantissa is even. -/
def rounding (mantissa : Nat) (exponent : Int) : Nat × Nat :=
  (if mantissa = Nat.pow 2 (precision - 1) ∧ leastExponent < exponent then 4 * mantissa - 1
    else 4 * mantissa - 2, 4 * mantissa + 2)

/-- Tells whether `digits * 10 ^ grid` rounds to `mantissa * 2 ^ exponent`. -/
def roundsTo (mantissa : Nat) (exponent : Int) (digits : Nat) (grid : Int) : Bool :=
  let (low, high) := rounding mantissa exponent
  let below := compareScaled digits grid low (exponent - 2)
  let above := compareScaled digits grid high (exponent - 2)
  if mantissa % 2 = 0 then below != .lt && above != .gt else below == .gt && above == .lt

/-- The neighbour of `mantissa * 2 ^ exponent` on the grid of multiples of `10 ^ grid` that rounds
back to it, the nearer one if both do. -/
def onGrid? (mantissa : Nat) (exponent grid : Int) : Option Nat :=
  let num := mantissa * Nat.pow 2 exponent.toNat * Nat.pow 10 (-grid).toNat
  let den := Nat.pow 2 (-exponent).toNat * Nat.pow 10 grid.toNat
  let low := num / den
  let nearer := roundQuotient num den
  let farther := if nearer = low then low + 1 else low
  [nearer, farther].find? fun digits => roundsTo mantissa exponent digits grid

/-- The shortest decimal digits of `mantissa * 2 ^ exponent`. -/
def shortest (mantissa : Nat) (exponent : Int) : Decimal :=
  if mantissa = 0 then ⟨0, 1⟩
  else
    let point := decimalPoint mantissa exponent
    let found := (List.range 17).findSome? fun (i : Nat) =>
      (onGrid? mantissa exponent (point - (i + 1 : Nat))).map fun digits =>
        if digits = Nat.pow 10 (i + 1) then (⟨1, point + 1⟩ : Decimal) else ⟨digits, point⟩
    found.getD ⟨mantissa, point⟩

/-- The decisions by which digits become text. -/
structure DecimalLayout where
  /-- The least place of the point that is written without exponent. -/
  leastPoint : Int
  /-- The greatest place of the point that is written without exponent. -/
  greatestPoint : Int
  /-- The least number of digits of an exponent. -/
  exponentWidth : Nat

/-- A number as text, infinities and the result of no number by the given names. -/
def text (layout : DecimalLayout) (infinity notANumber : String) : Binary64 → String
  | .nan => notANumber
  | .infinite negative => (if negative then "-" else "") ++ infinity
  | .finite negative mantissa exponent =>
    let decimal := shortest mantissa exponent
    let digits := Nat.toDigits 10 decimal.digits
    let body :=
      if decimal.point < layout.leastPoint ∨ layout.greatestPoint < decimal.point then
        let power := decimal.point - 1
        let places := Nat.toDigits 10 power.natAbs
        digits.take 1 ++ (if digits.length = 1 then [] else '.' :: digits.drop 1)
          ++ ['e', if power < 0 then '-' else '+']
          ++ List.replicate (layout.exponentWidth - places.length) '0' ++ places
      else if decimal.point ≤ 0 then
        ['0', '.'] ++ List.replicate (-decimal.point).toNat '0' ++ digits
      else
        let point := decimal.point.toNat
        let whole := digits.take point
        let fraction := digits.drop point
        whole ++ List.replicate (point - whole.length) '0' ++ ['.']
          ++ (if fraction.isEmpty then ['0'] else fraction)
    (if negative then "-" else "") ++ String.ofList body

end Rollout.Binary64
