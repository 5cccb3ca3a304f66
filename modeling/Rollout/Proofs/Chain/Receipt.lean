import Mathlib.Algebra.Field.Rat
import Mathlib.Algebra.GroupWithZero.Basic
import Mathlib.Tactic.FieldSimp
import Rollout.Chain.Node

/-!
# Receipts

A receipt tells of success if its status equals one, be it an integer, a truth value or a
floating-point number (`Chain.Receipt.succeeded_iff`). It is found by the hash of its transaction, and
by the hash of the transaction sent last the receipt of this transaction is found
(`Chain.Node.receipt?_hashOf`).
-/

namespace Rollout

/-! ## The status -/

/-- A value equals one, as numbers and truth values are compared. -/
inductive Value.EqualsOne : Value → Prop where
  /-- The integer. -/
  | integer : EqualsOne (.integer 1)
  /-- The truth value that counts as one. -/
  | truth : EqualsOne (.truth true)
  /-- A floating-point number with the value one. -/
  | number {mantissa : Nat} {exponent : Int} : (mantissa : ℚ) * 2 ^ exponent = 1 →
    EqualsOne (.number (.finite false mantissa exponent))

theorem Binary64.isOne_iff (negative : Bool) (mantissa : Nat) (exponent : Int) :
    (Binary64.finite negative mantissa exponent).isOne = true ↔
      negative = false ∧ (mantissa : ℚ) * 2 ^ exponent = 1 := by
  have hscale : (mantissa : ℚ) * 2 ^ exponent = 1 ↔
      mantissa * 2 ^ exponent.toNat = 2 ^ (-exponent).toNat := by
    cases exponent with
    | ofNat n =>
      rw [Int.ofNat_eq_natCast, zpow_natCast, Int.toNat_natCast, Int.toNat_neg_natCast, pow_zero]
      exact_mod_cast Iff.rfl
    | negSucc n =>
      have hpos : (2 : ℚ) ^ (n + 1) ≠ 0 := pow_ne_zero _ two_ne_zero
      rw [zpow_negSucc, Int.toNat_negSucc, Int.neg_negSucc, Int.toNat_natCast, pow_zero, mul_one,
        ← div_eq_mul_inv, div_eq_one_iff_eq hpos]
      exact_mod_cast Iff.rfl
  rw [hscale]
  simp [isOne, scale]

namespace Chain

/-- A status tells of success just if it equals one. -/
theorem Receipt.succeeded_iff {status : Value} :
    Receipt.succeeded status = true ↔ status.EqualsOne := by
  constructor
  · intro h
    cases status with
    | integer n =>
      obtain rfl : n = 1 := by simpa [succeeded] using h
      exact .integer
    | truth b =>
      obtain rfl : b = true := h
      exact .truth
    | number x =>
      cases x with
      | finite negative mantissa exponent =>
        obtain ⟨rfl, hone⟩ := (Binary64.isOne_iff _ _ _).1 h
        exact .number hone
      | infinite negative => cases h
      | nan => cases h
    | _ => cases h
  · intro h
    cases h with
    | integer => rfl
    | truth => rfl
    | number hone => exact (Binary64.isOne_iff _ _ _).2 ⟨rfl, hone⟩

/-! ## Receipts by hash -/

theorem numberOf?_hashOf (count : Nat) : numberOf? (hashOf count) (count + 1) = some count := by
  rw [numberOf?, if_pos rfl]

@[simp]
theorem Node.receipt?_accessed (node : Node) (step : Step) (hash : Octets) :
    (node.accessed step).receipt? hash = node.receipt? hash := rfl

/-- The receipt that is found by the hash of the transaction sent last is its own. -/
theorem Node.receipt?_hashOf {node : Node} {number : Nat} (h : node.sent = number + 1) :
    node.receipt? (hashOf number) = some (node.receiptAt number) := by
  rw [Node.receipt?, h, numberOf?_hashOf, Option.map_some]

end Chain

end Rollout
