import Rollout.Hex

/-!
# UTF-8

`Utf8.encode` writes a text as octets, `Utf8.decode` reads octets as text. A refusal says which
octets are at fault and why: the octets from the lead octet up to, and not including, the first one
that cannot continue the character.
-/

namespace Rollout.Utf8

/-- The octets of one character. -/
def encodeChar (c : Char) : Octets := (String.singleton c).toUTF8.toList

/-- The octets of a text. -/
def encode (text : String) : Octets := text.toUTF8.toList

/-- Why octets are no UTF-8 text. -/
inductive Reason where
  /-- No character starts with the octet. -/
  | start
  /-- An octet in the middle of a character cannot follow the ones before it. -/
  | continuation
  /-- The octets end in the middle of a character. -/
  | ended
deriving DecidableEq, Repr

/-- The place and reason of a refusal. -/
structure Flaw where
  /-- The octet with which the bad stretch starts. -/
  octet : UInt8
  /-- The position of that octet. -/
  position : Nat
  /-- The number of octets in the bad stretch. -/
  count : Nat
  /-- What is wrong with them. -/
  reason : Reason
deriving DecidableEq, Repr

/-- The wording of a reason. -/
def Reason.message : Reason → String
  | .start => "invalid start byte"
  | .continuation => "invalid continuation byte"
  | .ended => "unexpected end of data"

/-- The wording of a refusal. -/
def Flaw.message (flaw : Flaw) : String :=
  let place :=
    if flaw.count = 1 then
      "byte 0x" ++ String.ofList (Hex.encode [flaw.octet]) ++ " in position "
        ++ toString flaw.position
    else
      "bytes in position " ++ toString flaw.position ++ "-"
        ++ toString (flaw.position + flaw.count - 1)
  "'utf-8' codec can't decode " ++ place ++ ": " ++ flaw.reason.message

/-- What a lead octet calls for: the bits that it contributes, and the ranges in which the
octets after it lie. -/
structure Lead where
  /-- The high bits of the character. -/
  bits : Nat
  /-- The first and last octet allowed at each later place. -/
  ranges : List (UInt8 × UInt8)

/-- The lead octets: ASCII characters stand alone, the others call for one to three octets. The
second octet is bounded so that no character has two forms and none is a surrogate. -/
def lead? (octet : UInt8) : Option Lead :=
  let n := octet.toNat
  let tail : UInt8 × UInt8 := (0x80, 0xBF)
  if n < 0x80 then some ⟨n, []⟩
  else if n < 0xC2 then none
  else if n < 0xE0 then some ⟨n - 0xC0, [tail]⟩
  else if n = 0xE0 then some ⟨0, [(0xA0, 0xBF), tail]⟩
  else if n = 0xED then some ⟨n - 0xE0, [(0x80, 0x9F), tail]⟩
  else if n < 0xF0 then some ⟨n - 0xE0, [tail, tail]⟩
  else if n = 0xF0 then some ⟨0, [(0x90, 0xBF), tail, tail]⟩
  else if n < 0xF4 then some ⟨n - 0xF0, [tail, tail, tail]⟩
  else if n = 0xF4 then some ⟨n - 0xF0, [(0x80, 0x8F), tail, tail]⟩
  else none

/-- The character that continues from the given bits, and the octets after it; or the number of
octets that were in order and why the next one is not. -/
def continuation : Nat → List (UInt8 × UInt8) → Octets → Except (Nat × Reason) (Nat × Octets)
  | bits, [], rest => .ok (bits, rest)
  | _, _ :: _, [] => .error (0, .ended)
  | bits, (low, high) :: ranges, octet :: rest =>
    if low ≤ octet ∧ octet ≤ high then
      (continuation (bits * 64 + (octet.toNat - 0x80)) ranges rest).mapError
        fun (passed, reason) => (passed + 1, reason)
    else .error (0, .continuation)

/-- Reads octets from a position on; `fuel` bounds the number of characters. -/
def decodeFrom : Nat → Nat → Octets → List Char → Except Flaw (List Char)
  | 0, _, _, read => .ok read.reverse
  | _, _, [], read => .ok read.reverse
  | fuel + 1, position, octet :: rest, read =>
    match lead? octet with
    | none => .error ⟨octet, position, 1, .start⟩
    | some lead =>
      match continuation lead.bits lead.ranges rest with
      | .error (passed, reason) => .error ⟨octet, position, passed + 1, reason⟩
      | .ok (code, after) =>
        decodeFrom fuel (position + 1 + lead.ranges.length) after (Char.ofNat code :: read)

/-- The text that octets spell. -/
def decode (octets : Octets) : Except Flaw (List Char) :=
  decodeFrom octets.length 0 octets []

/-- Reads octets from a position on, each octet of a bad stretch being shown by its hexadecimal
digits behind a mark; `fuel` bounds the number of bad stretches. -/
def decodeMarkedFrom : Nat → Octets → List Char
  | 0, _ => []
  | fuel + 1, octets =>
    match decode octets with
    | .ok text => text
    | .error flaw =>
      let before := (decode (octets.take flaw.position)).toOption.getD []
      let bad := (octets.drop flaw.position).take flaw.count
      before ++ bad.flatMap (fun octet => '\\' :: 'x' :: Hex.encode [octet])
        ++ decodeMarkedFrom fuel (octets.drop (flaw.position + flaw.count))

/-- The text that octets spell, with the octets that spell none shown by their digits. -/
def decodeMarked (octets : Octets) : List Char := decodeMarkedFrom (octets.length + 1) octets

example : decode [0x61, 0xC3, 0xA9] = .ok ['a', 'é'] := rfl
example : decode [0x61, 0xFF] = .error ⟨0xFF, 1, 1, .start⟩ := rfl
example : decode [0xE2, 0x82] = .error ⟨0xE2, 0, 2, .ended⟩ := rfl

end Rollout.Utf8
