import Rollout.Abi.Kind
import Rollout.Address
import Rollout.Text.Utf8

/-!
# Encoding arguments

`Kind.accepts` tells which values are arguments of a kind, and `Kind.encode` writes them as octets.
Every encoding is made of words of thirty-two octets. In a sequence, a part whose length does not
depend on its value stands in the head; any other part stands in the tail, and the head holds its
distance from the start of the sequence.

A few arguments are accepted and yet cannot be encoded: an address in text whose letters do not bear
the checksum, and a text that has no UTF-8 form.
-/

namespace Rollout.Abi

/-- The number of octets of a word. -/
def wordSize : Nat := 32

/-- A number as a word; a negative one by its two's complement. -/
def word (n : Int) : Octets := Octets.ofNat wordSize (n % Int.pow 2 (8 * wordSize)).toNat

/-- Octets filled up to whole words. -/
def fillWords (octets : Octets) : Octets :=
  octets ++ List.replicate ((wordSize - octets.length % wordSize) % wordSize) 0

/-- The octets that a marked hexadecimal text spells. -/
def markedOctets? (s : String) : Option Octets :=
  match s.toList with
  | '0' :: 'x' :: digits => Hex.decode? digits
  | _ => none

/-- The octets that a value stands for as an argument of octets. -/
def octetsOf? : Value → Option Octets
  | .octets o => some o
  | .text s => markedOctets? s
  | _ => none

/-- A part of an encoded sequence. -/
structure Part where
  /-- Tells whether the part stands in the tail. -/
  isTail : Bool
  /-- The octets of the part. -/
  octets : Octets

/-- The number of octets that a part takes in the head. -/
def Part.headSize (part : Part) : Nat := if part.isTail then wordSize else part.octets.length

/-- The head and the tail of a sequence whose next tail part lies at a distance. -/
def joinFrom (distance : Nat) : List Part → Octets × Octets
  | [] => ([], [])
  | part :: rest =>
    if part.isTail then
      let (head, tail) := joinFrom (distance + part.octets.length) rest
      (word distance ++ head, part.octets ++ tail)
    else
      let (head, tail) := joinFrom distance rest
      (part.octets ++ head, tail)

/-- The octets of a sequence. -/
def join (parts : List Part) : Octets :=
  let (head, tail) := joinFrom (parts.foldl (fun size part => size + part.headSize) 0) parts
  head ++ tail

namespace Kind

mutual

/-- Tells whether a value is an argument of a kind. -/
def accepts : Kind → Value → Bool
  | uint bits, .integer n => 0 ≤ n && n < Int.pow 2 bits
  | int bits, .integer n => -Int.pow 2 (bits - 1) ≤ n && n < Int.pow 2 (bits - 1)
  | fixed signed bits places, .integer n =>
    let scaled := n * Int.pow 10 places
    if signed then -Int.pow 2 (bits - 1) ≤ scaled && scaled < Int.pow 2 (bits - 1)
    else 0 ≤ scaled && scaled < Int.pow 2 bits
  | bool, .truth _ => true
  | address, .text s => (Address.ofDigits? (Hex.dropMark s.toList)).isSome
  | address, .octets o => o.length = 20
  | fixedBytes size, value => (octetsOf? value).any fun octets => octets.length = size
  | bytes, value => (octetsOf? value).isSome
  | string, .text _ => true
  | list item, value => value.items?.any fun items => items.all item.accepts
  | array item size, value =>
    value.items?.any fun items => items.length = size && items.all item.accepts
  | tuple kinds, value => value.items?.any fun items => acceptsEach kinds items
  | _, _ => false

/-- Tells whether values are arguments of kinds, one of each. -/
def acceptsEach : List Kind → List Value → Bool
  | [], [] => true
  | kind :: kinds, value :: values => kind.accepts value && acceptsEach kinds values
  | _, _ => false

end

/-- The address of an argument; in text, its letters must bear the checksum. -/
def addressOf? : Value → Option Address
  | .text s => do
    let address ← Address.ofDigits? (Hex.dropMark s.toList)
    if address.text = s then return address else none
  | .octets o => Address.ofOctets? o
  | _ => none

mutual

/-- The octets of an argument of a kind. -/
def encode : Kind → Value → Option Octets
  | uint _, .integer n => some (word n)
  | int _, .integer n => some (word n)
  | fixed _ _ places, .integer n => some (word (n * Int.pow 10 places))
  | bool, .truth b => some (word (if b then 1 else 0))
  | address, value => do return Octets.ofNat 12 0 ++ (← addressOf? value).octets
  | fixedBytes _, value => do return (← octetsOf? value).padRight wordSize
  | bytes, value => do
    let octets ← octetsOf? value
    return word octets.length ++ fillWords octets
  | string, .text s =>
    if Text.isWellFormed s.toList then
      let octets := Utf8.encode s
      some (word octets.length ++ fillWords octets)
    else none
  | list item, value => do
    let items ← value.items?
    let parts ← items.mapM fun value => do return Part.mk item.isDynamic (← item.encode value)
    return word items.length ++ join parts
  | array item _, value => do
    let items ← value.items?
    let parts ← items.mapM fun value => do return Part.mk item.isDynamic (← item.encode value)
    return join parts
  | tuple kinds, value => do
    let items ← value.items?
    return join (← encodeEach kinds items)
  | _, _ => none

/-- The parts of a sequence with a kind for each place. -/
def encodeEach : List Kind → List Value → Option (List Part)
  | [], [] => some []
  | kind :: kinds, value :: values => do
    let octets ← kind.encode value
    let parts ← encodeEach kinds values
    return ⟨kind.isDynamic, octets⟩ :: parts
  | _, _ => none

end

end Kind

/-- The octets of arguments with a kind for each. -/
def encodeArguments (kinds : List Kind) (values : List Value) : Option Octets :=
  (Kind.encodeEach kinds values).map join

@[simp]
theorem length_word (n : Int) : (word n).length = wordSize := by simp [word]

end Rollout.Abi
