import Rollout.Hash.Keccak
import Rollout.Value

/-!
# Addresses

An address is a sequence of twenty octets. It is written as forty hexadecimal digits whose letters
are upper-case where the digest of the lower-case digits says so; when an address is read the case
of its letters does not count.
-/

namespace Rollout

/-- An address. -/
structure Address where
  /-- The octets of the address. -/
  octets : Octets
  /-- An address has twenty octets. -/
  length_octets : octets.length = 20
deriving DecidableEq

namespace Address

/-- The number of hexadecimal digits of an address. -/
def digitCount : Nat := 40

/-- The address of the given octets. -/
def ofOctets? (octets : Octets) : Option Address :=
  if h : octets.length = 20 then some ⟨octets, h⟩ else none

/-- The address spelled by forty hexadecimal digits. -/
def ofDigits? (digits : List Char) : Option Address :=
  if digits.length = digitCount then (Hex.decode? digits).bind ofOctets? else none

/-- The lower-case digits of an address. -/
def digits (address : Address) : List Char := Hex.encode address.octets

/-- Digits with each letter in upper case where the digest of the digits has a nibble of eight or
more. -/
def withChecksum (digits : List Char) : List Char :=
  let nibbles := Hex.encode (Keccak.keccak256 (digits.map fun c => UInt8.ofNat c.toNat))
  (digits.zip nibbles).map fun (c, nibble) =>
    if '8' ≤ nibble ∧ 'a' ≤ c then Char.ofNat (c.toNat - 32) else c

/-- An address as text, the case of its letters bearing the checksum. -/
def text (address : Address) : String := "0x" ++ String.ofList (withChecksum address.digits)

/-- Why a value is no address. -/
inductive Flaw where
  /-- A text that is not hexadecimal. -/
  | notHex (text : String)
  /-- A value that does not have the digits of an address, and the digits that it has. -/
  | unknownFormat (value digits : String)
  /-- A value that has no digits. -/
  | wrongType
deriving DecidableEq, Repr

/-- The wording of a refusal. -/
def Flaw.message : Flaw → String
  | .notHex text => "when sending a str, it must be a hex string. Got: " ++ text
  | .unknownFormat value digits =>
    "Unknown format " ++ value ++ ", attempted to normalize to '" ++ digits ++ "'"
  | .wrongType => ""

/-- The address that the digits of a value spell. -/
def ofParts (value : Value) (sign : String) (digits : List Char) : Except Flaw Address :=
  match if sign.isEmpty then ofDigits? digits else none with
  | some address => .ok address
  | none => .error (.unknownFormat value.quoted (sign ++ "0x" ++ String.ofList digits))

/-- The address that a value stands for: a text or a number by its hexadecimal digits, octets by
themselves. -/
def ofValue (value : Value) : Except Flaw Address :=
  match value with
  | .text s =>
    let digits := Hex.dropMark s.toList
    if digits.all Hex.isDigit then ofParts value "" (digits.map Hex.lower)
    else .error (.notHex value.quoted)
  | .truth b => ofParts value "" (if b then ['1'] else ['0'])
  | .integer n => ofParts value (if n < 0 then "-" else "") (Nat.toDigits 16 n.natAbs)
  | .octets o => ofParts value "" (Hex.encode o)
  | _ => .error .wrongType

/-- Tells whether a value is the address whose octets are all zero. -/
def isZeroValue : Value → Bool
  | .text s =>
    let digits := Hex.dropMark s.toList
    digits.length = digitCount && digits.all (· = '0')
  | .octets o => o = List.replicate 20 0
  | _ => false

/-! ## Reading back -/

theorem length_digits (address : Address) : address.digits.length = digitCount := by
  rw [digits, Hex.length_encode, address.length_octets, digitCount]

end Address

end Rollout
