import Rollout.Octets

/-!
# Hexadecimal text

Octets are shown as pairs of lower-case hexadecimal digits, and read from digits of either case.
Reading what was written gives the octets back (`decode?_encode`).
-/

namespace Rollout.Hex

/-- The value of a hexadecimal digit of either case. -/
def digit? (c : Char) : Option Nat :=
  if '0' ≤ c ∧ c ≤ '9' then some (c.toNat - 48)
  else if 'a' ≤ c ∧ c ≤ 'f' then some (c.toNat - 87)
  else if 'A' ≤ c ∧ c ≤ 'F' then some (c.toNat - 55)
  else none

/-- Tells whether a character is a hexadecimal digit. -/
def isDigit (c : Char) : Bool := (digit? c).isSome

/-- The lower-case hexadecimal digit of a number below sixteen. -/
def lowerDigit (n : Nat) : Char :=
  if n < 10 then Char.ofNat (48 + n) else Char.ofNat (87 + n)

/-- The two digits of an octet. -/
def pair (octet : UInt8) : List Char :=
  [lowerDigit (octet.toNat / 16), lowerDigit (octet.toNat % 16)]

/-- Octets as lower-case hexadecimal digits. -/
def encode (octets : Octets) : List Char := octets.flatMap pair

/-- The octets spelled by pairs of hexadecimal digits; nothing for other characters or an odd
number of digits. -/
def decode? : List Char → Option Octets
  | [] => some []
  | [_] => none
  | a :: b :: rest => do
    let high ← digit? a
    let low ← digit? b
    let octets ← decode? rest
    return UInt8.ofNat (16 * high + low) :: octets

/-- Octets as text, marked as hexadecimal by `0x`. -/
def text (octets : Octets) : String := "0x" ++ String.ofList (encode octets)

/-- An integer in base sixteen, the sign before the mark `0x`. -/
def ofInt (n : Int) : String :=
  (if n < 0 then "-0x" else "0x") ++ String.ofList (Nat.toDigits 16 n.natAbs)

/-- Text without one leading mark `0x` or `0X`. -/
def dropMark : List Char → List Char
  | '0' :: 'x' :: rest => rest
  | '0' :: 'X' :: rest => rest
  | text => text

/-- Tells whether text starts with the mark `0x` or `0X`. -/
def isMarked : List Char → Bool
  | '0' :: 'x' :: _ => true
  | '0' :: 'X' :: _ => true
  | _ => false

/-- The lower-case form of a hexadecimal digit. -/
def lower (c : Char) : Char := if 'A' ≤ c ∧ c ≤ 'F' then Char.ofNat (c.toNat + 32) else c

/-! ## Reading back what was written -/

theorem digit?_lowerDigit (n : Fin 16) : digit? (lowerDigit n) = some n.val := by
  revert n; decide

theorem encode_cons (octet : UInt8) (rest : Octets) :
    encode (octet :: rest) =
      lowerDigit (octet.toNat / 16) :: lowerDigit (octet.toNat % 16) :: encode rest := rfl

theorem length_encode (octets : Octets) : (encode octets).length = 2 * octets.length := by
  induction octets with
  | nil => rfl
  | cons octet rest ih => rw [encode_cons]; simp only [List.length_cons, ih]; omega

/-- Reading the written digits gives the octets back. -/
theorem decode?_encode (octets : Octets) : decode? (encode octets) = some octets := by
  induction octets with
  | nil => rfl
  | cons octet rest ih =>
    have hlt := octet.toNat_lt
    have high := digit?_lowerDigit ⟨octet.toNat / 16, by omega⟩
    have low := digit?_lowerDigit ⟨octet.toNat % 16, by omega⟩
    have join : 16 * (octet.toNat / 16) + octet.toNat % 16 = octet.toNat := by omega
    simp only at high low
    rw [encode_cons, decode?, high, low, ih]
    simp only [Option.bind_eq_bind, Option.bind_some, Option.pure_def, join, UInt8.ofNat_toNat]

end Rollout.Hex
