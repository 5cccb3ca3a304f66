import Rollout.Octets

/-!
# SHA-2

SHA-256 and SHA-512 are one construction over words of two sizes: the message is padded to blocks,
each block is spread over a schedule of words, and each word of the schedule turns the eight words
of the state once. A `Variant` holds what the two differ in.

The constants of the smaller words are the upper halves of those of the larger words.
-/

namespace Rollout.Sha2

/-- The operations on the words of a hash. -/
class Word (W : Type) extends Add W, XorOp W, AndOp W, Complement W where
  /-- Rotates the bits of a word to the right. -/
  rotate : W → Nat → W
  /-- Shifts the bits of a word to the right. -/
  shift : W → Nat → W
  /-- The lowest bits of a number. -/
  ofNat : Nat → W
  /-- The number of a word. -/
  toNat : W → Nat

instance : Word UInt32 where
  rotate w n := (w >>> UInt32.ofNat n) ||| (w <<< UInt32.ofNat (32 - n))
  shift w n := w >>> UInt32.ofNat n
  ofNat := UInt32.ofNat
  toNat := UInt32.toNat

instance : Word UInt64 where
  rotate w n := (w >>> UInt64.ofNat n) ||| (w <<< UInt64.ofNat (64 - n))
  shift w n := w >>> UInt64.ofNat n
  ofNat := UInt64.ofNat
  toNat := UInt64.toNat

/-- What the two sizes of the hash differ in. -/
structure Variant (W : Type) where
  /-- The number of octets of a word; a block holds sixteen words. -/
  wordSize : Nat
  /-- The rotations that spread the first word of the state. -/
  spreadFirst : Nat × Nat × Nat
  /-- The rotations that spread the fifth word of the state. -/
  spreadFifth : Nat × Nat × Nat
  /-- Two rotations and a shift that spread the schedule's word fifteen places back. -/
  scheduleFar : Nat × Nat × Nat
  /-- Two rotations and a shift that spread the schedule's word two places back. -/
  scheduleNear : Nat × Nat × Nat
  /-- The state before the first block. -/
  start : List W
  /-- The constant of each word of the schedule. -/
  constants : List W

/-- The state of the hash. -/
structure State (W : Type) where
  a : W
  b : W
  c : W
  d : W
  e : W
  f : W
  g : W
  h : W

/-- The words of a state. -/
def State.words {W : Type} (s : State W) : List W := [s.a, s.b, s.c, s.d, s.e, s.f, s.g, s.h]

section

variable {W : Type} [Word W]

/-- Three rotations of a word, combined. -/
@[specialize]
def rotations (by3 : Nat × Nat × Nat) (w : W) : W :=
  Word.rotate w by3.1 ^^^ Word.rotate w by3.2.1 ^^^ Word.rotate w by3.2.2

/-- Two rotations and a shift of a word, combined. -/
@[specialize]
def spread (by3 : Nat × Nat × Nat) (w : W) : W :=
  Word.rotate w by3.1 ^^^ Word.rotate w by3.2.1 ^^^ Word.shift w by3.2.2

/-- Turns the state once, by a word of the schedule and its constant. -/
@[specialize]
def turn (v : Variant W) (s : State W) (step : W × W) : State W :=
  let choice := (s.e &&& s.f) ^^^ (~~~s.e &&& s.g)
  let t1 := s.h + rotations v.spreadFifth s.e + choice + step.1 + step.2
  let majority := (s.a &&& s.b) ^^^ (s.a &&& s.c) ^^^ (s.b &&& s.c)
  let t2 := rotations v.spreadFirst s.a + majority
  ⟨t1 + t2, s.a, s.b, s.c, s.d + t1, s.e, s.f, s.g⟩

/-- Words added to the schedule; `recent` holds its last sixteen words, the latest first. -/
@[specialize]
def extend (v : Variant W) : Nat → List W → List W
  | 0, _ => []
  | count + 1, recent =>
    match recent with
    | [w1, w2, w3, w4, w5, w6, w7, w8, w9, w10, w11, w12, w13, w14, w15, w16] =>
      let next := spread v.scheduleNear w2 + w7 + spread v.scheduleFar w15 + w16
      next :: extend v count
        [next, w1, w2, w3, w4, w5, w6, w7, w8, w9, w10, w11, w12, w13, w14, w15]
    | _ => []

/-- The words that octets spell, `size` octets a word. -/
@[specialize]
def wordsOf (size : Nat) : Nat → Octets → List W
  | 0, _ => []
  | count + 1, octets =>
    Word.ofNat (Octets.toNat (octets.take size)) :: wordsOf size count (octets.drop size)

/-- The state after a block. -/
@[specialize]
def absorb (v : Variant W) (words : List W) (block : Octets) : List W :=
  let first : List W := wordsOf v.wordSize 16 block
  let schedule := first ++ extend v (v.constants.length - 16) first.reverse
  match words with
  | [a, b, c, d, e, f, g, h] =>
    let last := (v.constants.zip schedule).foldl (turn v) ⟨a, b, c, d, e, f, g, h⟩
    words.zipWith (· + ·) last.words
  | _ => words

/-- A message filled up to whole blocks: a single one bit, zeros, and the number of bits of the
message in the last two words. -/
def pad (size : Nat) (message : Octets) : Octets :=
  let block := 16 * size
  let used := (message.length + 1 + 2 * size) % block
  message ++ 0x80 :: List.replicate ((block - used) % block) 0
    ++ Octets.ofNat (2 * size) (8 * message.length)

/-- The state after a number of blocks. -/
@[specialize]
def absorbAll (v : Variant W) : Nat → List W → Octets → List W
  | 0, words, _ => words
  | count + 1, words, octets =>
    absorbAll v count (absorb v words (octets.take (16 * v.wordSize)))
      (octets.drop (16 * v.wordSize))

/-- The digest of a message. -/
@[specialize]
def digest (v : Variant W) (message : Octets) : Octets :=
  let padded := pad v.wordSize message
  (absorbAll v (padded.length / (16 * v.wordSize)) v.start padded).flatMap fun w =>
    Octets.ofNat v.wordSize (Word.toNat w)

end

/-- The fractional parts of the cube roots of the first eighty primes. -/
def cubeRoots : List UInt64 :=
  [0x428A2F98D728AE22, 0x7137449123EF65CD, 0xB5C0FBCFEC4D3B2F, 0xE9B5DBA58189DBBC,
    0x3956C25BF348B538, 0x59F111F1B605D019, 0x923F82A4AF194F9B, 0xAB1C5ED5DA6D8118,
    0xD807AA98A3030242, 0x12835B0145706FBE, 0x243185BE4EE4B28C, 0x550C7DC3D5FFB4E2,
    0x72BE5D74F27B896F, 0x80DEB1FE3B1696B1, 0x9BDC06A725C71235, 0xC19BF174CF692694,
    0xE49B69C19EF14AD2, 0xEFBE4786384F25E3, 0x0FC19DC68B8CD5B5, 0x240CA1CC77AC9C65,
    0x2DE92C6F592B0275, 0x4A7484AA6EA6E483, 0x5CB0A9DCBD41FBD4, 0x76F988DA831153B5,
    0x983E5152EE66DFAB, 0xA831C66D2DB43210, 0xB00327C898FB213F, 0xBF597FC7BEEF0EE4,
    0xC6E00BF33DA88FC2, 0xD5A79147930AA725, 0x06CA6351E003826F, 0x142929670A0E6E70,
    0x27B70A8546D22FFC, 0x2E1B21385C26C926, 0x4D2C6DFC5AC42AED, 0x53380D139D95B3DF,
    0x650A73548BAF63DE, 0x766A0ABB3C77B2A8, 0x81C2C92E47EDAEE6, 0x92722C851482353B,
    0xA2BFE8A14CF10364, 0xA81A664BBC423001, 0xC24B8B70D0F89791, 0xC76C51A30654BE30,
    0xD192E819D6EF5218, 0xD69906245565A910, 0xF40E35855771202A, 0x106AA07032BBD1B8,
    0x19A4C116B8D2D0C8, 0x1E376C085141AB53, 0x2748774CDF8EEB99, 0x34B0BCB5E19B48A8,
    0x391C0CB3C5C95A63, 0x4ED8AA4AE3418ACB, 0x5B9CCA4F7763E373, 0x682E6FF3D6B2B8A3,
    0x748F82EE5DEFB2FC, 0x78A5636F43172F60, 0x84C87814A1F0AB72, 0x8CC702081A6439EC,
    0x90BEFFFA23631E28, 0xA4506CEBDE82BDE9, 0xBEF9A3F7B2C67915, 0xC67178F2E372532B,
    0xCA273ECEEA26619C, 0xD186B8C721C0C207, 0xEADA7DD6CDE0EB1E, 0xF57D4F7FEE6ED178,
    0x06F067AA72176FBA, 0x0A637DC5A2C898A6, 0x113F9804BEF90DAE, 0x1B710B35131C471B,
    0x28DB77F523047D84, 0x32CAAB7B40C72493, 0x3C9EBE0A15C9BEBC, 0x431D67C49C100D4C,
    0x4CC5D4BECB3E42B6, 0x597F299CFC657E2A, 0x5FCB6FAB3AD6FAEC, 0x6C44198C4A475817]

/-- The fractional parts of the square roots of the first eight primes. -/
def squareRoots : List UInt64 :=
  [0x6A09E667F3BCC908, 0xBB67AE8584CAA73B, 0x3C6EF372FE94F82B, 0xA54FF53A5F1D36F1,
    0x510E527FADE682D1, 0x9B05688C2B3E6C1F, 0x1F83D9ABFB41BD6B, 0x5BE0CD19137E2179]

/-- The upper half of a word. -/
def upperHalf (w : UInt64) : UInt32 := (w >>> 32).toUInt32

/-- The hash over words of four octets. -/
def small : Variant UInt32 where
  wordSize := 4
  spreadFirst := (2, 13, 22)
  spreadFifth := (6, 11, 25)
  scheduleFar := (7, 18, 3)
  scheduleNear := (17, 19, 10)
  start := squareRoots.map upperHalf
  constants := (cubeRoots.take 64).map upperHalf

/-- The hash over words of eight octets. -/
def large : Variant UInt64 where
  wordSize := 8
  spreadFirst := (28, 34, 39)
  spreadFifth := (14, 18, 41)
  scheduleFar := (1, 8, 7)
  scheduleNear := (19, 61, 6)
  start := squareRoots
  constants := cubeRoots

/-- The digest of a message in thirty-two octets. -/
def sha256 (message : Octets) : Octets := digest small message

/-- The digest of a message in sixty-four octets. -/
def sha512 (message : Octets) : Octets := digest large message

end Rollout.Sha2
