/-!
# Lone surrogates

A JSON document can spell a surrogate code unit that is not part of a pair. Such a unit is no
character; it is held as the character of the last plane with the same low sixteen bits, and it is
written again as the unit that it stands for. A text that holds one has no UTF-8 form.
-/

namespace Rollout.Text

/-- The character that holds a lone surrogate code unit. -/
def holdSurrogate (unit : Nat) : Char := Char.ofNat (0x100000 + unit)

/-- The surrogate code unit that a character holds, if it holds one. -/
def loneSurrogate? (c : Char) : Option Nat :=
  if 0x10D800 ≤ c.toNat ∧ c.toNat ≤ 0x10DFFF then some (c.toNat - 0x100000) else none

/-- Tells whether a text has a UTF-8 form. -/
def isWellFormed (text : List Char) : Bool := text.all fun c => (loneSurrogate? c).isNone

example : loneSurrogate? (holdSurrogate 0xD800) = some 0xD800 := by decide
example : loneSurrogate? 'a' = none := by decide

end Rollout.Text
