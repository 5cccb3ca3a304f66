/-!
# Octets

Bytecode, calldata, digests and file contents are sequences of octets. Numbers cross into octets in
big-endian order: `Octets.ofNat` writes the low end of a number at a given width, `Octets.toNat`
reads a number back.
-/

namespace Rollout

/-- A sequence of octets. -/
abbrev Octets := List UInt8

namespace Octets

/-- The lowest `width` octets of a number, most significant first. -/
def ofNat (width n : Nat) : Octets :=
  (List.range width).map fun i => UInt8.ofNat (n >>> (8 * (width - 1 - i)))

/-- The number that octets spell in big-endian order. -/
def toNat (octets : Octets) : Nat :=
  octets.foldl (fun n octet => n * 256 + octet.toNat) 0

/-- Octets filled with zeros on the right up to a given length. -/
def padRight (width : Nat) (octets : Octets) : Octets :=
  octets ++ List.replicate (width - octets.length) 0

@[simp]
theorem length_ofNat (width n : Nat) : (ofNat width n).length = width := by
  simp [ofNat]

@[simp]
theorem toNat_nil : toNat [] = 0 := rfl

end Octets

end Rollout
