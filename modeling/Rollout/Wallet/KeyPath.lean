import Rollout.Address
import Rollout.Wallet.Curve
import Rollout.Wallet.Mnemonic

/-!
# Keys derived along a path

A seed determines a master key, and each key with its chain code determines its children by number.
The accounts of a wallet are the children of one node, at the end of a fixed path. The address of an
account is the end of the digest of its public key.
-/

namespace Rollout.Wallet

/-- A private key with the code that its children depend on. -/
structure ExtendedKey where
  /-- The private key. -/
  key : Nat
  /-- The chain code. -/
  chainCode : Octets

/-- One step of a path. -/
inductive Step where
  /-- To a child that depends on the private key. -/
  | hardened (index : Nat)
  /-- To a child that depends on the public key alone. -/
  | plain (index : Nat)

/-- What is added to the index of a hardened child. A plain child may have this index too. -/
def hardenedStart : Nat := 0x80000000

/-- A public key in short form: the sign of one coordinate, and the other. -/
def shortPublicKey : Point → Octets
  | .infinity => [0]
  | .affine x y => (if y % 2 = 0 then 2 else 3) :: Octets.ofNat 32 x

/-- The two halves of a keyed digest, as a key to be added and a chain code. -/
def splitDigest (digest : Octets) (add : Nat) : Option ExtendedKey :=
  let shift := Octets.toNat (digest.take 32)
  let key := (shift + add) % groupOrder
  if groupOrder ≤ shift ∨ key = 0 then none else some ⟨key, digest.drop 32⟩

/-- The master key of a seed. -/
def masterKey (seed : Octets) : Option ExtendedKey :=
  splitDigest (Mac.hmac (Utf8.encode "Bitcoin seed") seed) 0

/-- The child of a key. -/
def ExtendedKey.child (parent : ExtendedKey) : Step → Option ExtendedKey
  | .hardened index =>
    if index < hardenedStart then
      splitDigest (Mac.hmac parent.chainCode
        (0 :: Octets.ofNat 32 parent.key ++ Octets.ofNat 4 (hardenedStart + index))) parent.key
    else none
  | .plain index =>
    if index ≤ hardenedStart then
      splitDigest (Mac.hmac parent.chainCode
        (shortPublicKey (.ofKey parent.key) ++ Octets.ofNat 4 index)) parent.key
    else none

/-- The path to an account. -/
def accountPath (index : Nat) : List Step :=
  [.hardened 44, .hardened 60, .hardened 0, .plain 0, .plain index]

/-- The address of a private key. -/
def addressOfKey (key : Nat) : Option Address :=
  match Point.ofKey key with
  | .infinity => none
  | .affine x y =>
    Address.ofOctets? ((Keccak.keccak256 (Octets.ofNat 32 x ++ Octets.ofNat 32 y)).drop 12)

/-- The address of an account of the wallet that a phrase spells; nothing if the phrase is no
mnemonic or there is no such account. -/
def accountAddress? (phrase : String) (index : Int) : Option Address := do
  if isMnemonic phrase ∧ 0 ≤ index then
    let master ← masterKey (seed phrase)
    let account ← (accountPath index.toNat).foldlM ExtendedKey.child master
    addressOfKey account.key
  else none

end Rollout.Wallet
