import Rollout.Hash.Sha2

/-!
# Keyed digests

A keyed digest hashes the message behind the key, twice. A password is stretched by chaining keyed
digests and combining them, as PBKDF2 does for a single block of output.
-/

namespace Rollout.Mac

/-- The number of octets of a block of the hash. -/
def blockSize : Nat := 128

/-- A key brought to the size of a block. -/
def blockKey (key : Octets) : Octets :=
  Octets.padRight blockSize (if blockSize < key.length then Sha2.sha512 key else key)

/-- The keyed digest of a message. -/
def hmac (key message : Octets) : Octets :=
  let block := blockKey key
  Sha2.sha512 (block.map (· ^^^ 0x5C) ++ Sha2.sha512 (block.map (· ^^^ 0x36) ++ message))

/-- Chains `count` more keyed digests onto `last` and combines them all with `total`. -/
def chain (password : Octets) : Nat → Octets → Octets → Octets
  | 0, _, total => total
  | count + 1, last, total =>
    let next := hmac password last
    chain password count next (total.zipWith (· ^^^ ·) next)

/-- A password stretched with a salt over a number of rounds. -/
def stretch (password salt : Octets) (rounds : Nat) : Octets :=
  let first := hmac password (salt ++ [0, 0, 0, 1])
  chain password (rounds - 1) first first

end Rollout.Mac
