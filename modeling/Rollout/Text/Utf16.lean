import Rollout.Octets

/-!
# UTF-16 and UTF-32

Texts may come as units of two or four octets, in either order. A unit that is no character, half of
a pair, or cut off by the end makes the whole text unreadable.
-/

namespace Rollout

/-- The order of the octets of a unit. -/
inductive Endian where
  /-- The most significant octet comes first. -/
  | big
  /-- The least significant octet comes first. -/
  | little
deriving DecidableEq, Repr

/-- The number that the octets of a unit spell. -/
def Endian.toNat (order : Endian) (octets : Octets) : Nat :=
  match order with
  | .big => Octets.toNat octets
  | .little => Octets.toNat octets.reverse

/-- The character of a code point, if there is one. -/
def charOf? (code : Nat) : Option Char :=
  if h : code.isValidChar then some (Char.ofNatAux code h) else none

/-- The characters of units of two octets. -/
def Utf16.decode? (order : Endian) : Octets → Option (List Char)
  | [] => some []
  | a :: b :: rest => do
    let unit := order.toNat [a, b]
    if 0xD800 ≤ unit ∧ unit ≤ 0xDBFF then
      match rest with
      | c :: d :: rest => do
        let low := order.toNat [c, d]
        if 0xDC00 ≤ low ∧ low ≤ 0xDFFF then
          let text ← Utf16.decode? order rest
          return Char.ofNat (0x10000 + (unit - 0xD800) * 0x400 + (low - 0xDC00)) :: text
        else none
      | _ => none
    else do
      let c ← charOf? unit
      let text ← Utf16.decode? order rest
      return c :: text
  | _ => none

/-- The characters of units of four octets. -/
def Utf32.decode? (order : Endian) : Octets → Option (List Char)
  | [] => some []
  | a :: b :: c :: d :: rest => do
    let first ← charOf? (order.toNat [a, b, c, d])
    let text ← Utf32.decode? order rest
    return first :: text
  | _ => none

example : Utf16.decode? .little [0x7B, 0, 0x3D, 0xD8, 0, 0xDE] = some ['{', '😀'] := by
  decide +kernel
example : Utf16.decode? .big [0, 0x7B, 0] = none := by decide +kernel

end Rollout
