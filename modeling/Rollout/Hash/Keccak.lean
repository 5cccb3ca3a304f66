import Rollout.Octets

/-!
# Keccak

The sponge over twenty-five lanes of sixty-four bits. A message is padded to blocks of 136 octets,
each block is mixed into the first lanes, and the lanes are permuted in twenty-four rounds. The
first four lanes are the digest.

Lane `i` stands in column `i % 5` and row `i / 5`.
-/

namespace Rollout.Keccak

/-- The lanes of the sponge. -/
abbrev Lanes := Vector UInt64 25

/-- The lane in a column and row, both counted modulo five. -/
def Lanes.lane (lanes : Lanes) (column row : Nat) : UInt64 :=
  lanes.get ⟨column % 5 + 5 * (row % 5), by omega⟩

/-- Lanes given by column and row. -/
def Lanes.build (lane : Nat → Nat → UInt64) : Lanes :=
  Vector.ofFn fun i => lane (i.val % 5) (i.val / 5)

/-- Rotates the bits of a lane to the left. -/
def rotate (lane : UInt64) (count : Nat) : UInt64 :=
  if count = 0 then lane
  else (lane <<< UInt64.ofNat count) ||| (lane >>> UInt64.ofNat (64 - count))

/-- How far each lane is rotated. -/
def rotations : Vector Nat 25 :=
  #v[0, 1, 62, 28, 27, 36, 44, 6, 55, 20, 3, 10, 43, 25, 39, 41, 45, 15, 21, 8, 18, 2, 61, 56, 14]

/-- The constant of each round. -/
def roundConstants : List UInt64 :=
  [0x0000000000000001, 0x0000000000008082, 0x800000000000808A, 0x8000000080008000,
    0x000000000000808B, 0x0000000080000001, 0x8000000080008081, 0x8000000000008009,
    0x000000000000008A, 0x0000000000000088, 0x0000000080008009, 0x000000008000000A,
    0x000000008000808B, 0x800000000000008B, 0x8000000000008089, 0x8000000000008003,
    0x8000000000008002, 0x8000000000000080, 0x000000000000800A, 0x800000008000000A,
    0x8000000080008081, 0x8000000000008080, 0x0000000080000001, 0x8000000080008008]

/-- Mixes the columns: each lane takes up the parity of two columns beside it. -/
def mixColumns (lanes : Lanes) : Lanes :=
  let parity : Vector UInt64 5 := Vector.ofFn fun x =>
    (lanes.lane x 0) ^^^ (lanes.lane x 1) ^^^ (lanes.lane x 2) ^^^ (lanes.lane x 3)
      ^^^ (lanes.lane x 4)
  let change : Vector UInt64 5 := Vector.ofFn fun x =>
    parity.get ⟨(x.val + 4) % 5, by omega⟩ ^^^ rotate (parity.get ⟨(x.val + 1) % 5, by omega⟩) 1
  .build fun x y => lanes.lane x y ^^^ change.get ⟨x % 5, by omega⟩

/-- Rotates each lane and moves it to its new place. -/
def moveLanes (lanes : Lanes) : Lanes :=
  let turned : Lanes := lanes.zipWith rotate rotations
  .build fun x y => turned.lane (x + 3 * y) x

/-- Combines each lane with the next two of its row. -/
def combineRows (lanes : Lanes) : Lanes :=
  .build fun x y => lanes.lane x y ^^^ (~~~(lanes.lane (x + 1) y) &&& lanes.lane (x + 2) y)

/-- One round of the permutation. -/
def round (lanes : Lanes) (constant : UInt64) : Lanes :=
  let mixed := combineRows (moveLanes (mixColumns lanes))
  mixed.set 0 (mixed[0] ^^^ constant)

/-- The permutation of the lanes. -/
def permute (lanes : Lanes) : Lanes := roundConstants.foldl round lanes

/-- The number of octets of a block. -/
def blockSize : Nat := 136

/-- A message filled up to whole blocks. -/
def pad (message : Octets) : Octets :=
  let free := blockSize - message.length % blockSize
  if free = 1 then message ++ [0x81]
  else message ++ 0x01 :: List.replicate (free - 2) 0 ++ [0x80]

/-- The lane that the first eight octets spell, least significant first. -/
def laneOf (octets : Octets) : UInt64 := UInt64.ofNat (Octets.toNat (octets.take 8).reverse)

/-- The lanes after a block. -/
def absorb (lanes : Lanes) (block : Octets) : Lanes :=
  permute (lanes.mapFinIdx fun i lane _ =>
    if 8 * i < blockSize then lane ^^^ laneOf (block.drop (8 * i)) else lane)

/-- The lanes after a number of blocks. -/
def absorbAll : Nat → Lanes → Octets → Lanes
  | 0, lanes, _ => lanes
  | count + 1, lanes, octets =>
    absorbAll count (absorb lanes (octets.take blockSize)) (octets.drop blockSize)

/-- The octets of a lane, least significant first. -/
def laneOctets (lane : UInt64) : Octets := (Octets.ofNat 8 lane.toNat).reverse

/-- The digest of a message. -/
def keccak256 (message : Octets) : Octets :=
  let padded := pad message
  let lanes := absorbAll (padded.length / blockSize) (.replicate 25 0) padded
  [lanes[0], lanes[1], lanes[2], lanes[3]].flatMap laneOctets

/-- A digest has thirty-two octets. -/
@[simp]
theorem length_keccak256 (message : Octets) : (keccak256 message).length = 32 := by
  simp [keccak256, laneOctets]

end Rollout.Keccak
