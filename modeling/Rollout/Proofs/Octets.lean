import Mathlib.Tactic.Ring
import Rollout.Octets

/-!
# Numbers as octets

A number that is written as octets is read back up to the width (`Octets.toNat_ofNat`).
-/

namespace Rollout.Octets

theorem foldl_octet (octets : Octets) (n : Nat) :
    octets.foldl (fun n octet => n * 256 + octet.toNat) n = n * 256 ^ octets.length + toNat octets := by
  induction octets generalizing n with
  | nil => simp
  | cons octet rest ih =>
    rw [toNat, List.foldl_cons, List.foldl_cons, ih, ih (0 * 256 + octet.toNat), List.length_cons]
    ring

theorem toNat_cons (octet : UInt8) (rest : Octets) :
    toNat (octet :: rest) = octet.toNat * 256 ^ rest.length + toNat rest := by
  rw [toNat, List.foldl_cons, foldl_octet, Nat.zero_mul, Nat.zero_add]

theorem ofNat_succ (width n : Nat) :
    ofNat (width + 1) n = UInt8.ofNat (n / 256 ^ width) :: ofNat width n := by
  have hshift : n >>> (8 * width) = n / 256 ^ width := by
    rw [Nat.shiftRight_eq_div_pow, Nat.pow_mul]
  rw [ofNat, List.range_succ_eq_map, List.map_cons, List.map_map]
  refine congrArg₂ List.cons (congrArg UInt8.ofNat hshift) (List.map_congr_left fun i _ => ?_)
  have hplace : width + 1 - 1 - (i + 1) = width - 1 - i := by omega
  show UInt8.ofNat (n >>> (8 * (width + 1 - 1 - (i + 1)))) = _
  rw [hplace]

/-- Of a number, what fits the width is read back. -/
theorem toNat_ofNat (width n : Nat) : toNat (ofNat width n) = n % 256 ^ width := by
  induction width with
  | zero =>
    rw [Nat.pow_zero, Nat.mod_one]
    rfl
  | succ width ih =>
    have hoctet : (UInt8.ofNat (n / 256 ^ width)).toNat = n / 256 ^ width % 256 := UInt8.toNat_ofNat'
    rw [ofNat_succ, toNat_cons, ih, length_ofNat, hoctet, Nat.pow_succ, Nat.mod_mul]
    ring

end Rollout.Octets
