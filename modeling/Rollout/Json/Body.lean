import Rollout.Json.Parser
import Rollout.Text.Utf16
import Rollout.Text.Utf8

/-!
# JSON documents as octets

A document may come in one of several encodings, which its first four octets give away: by a byte
order mark, or by where the zeros are, since a document starts with ASCII characters. A document too
short for this is UTF-8.

Octets that are no text of the encoding are taken one by one as characters, and octets that give no
encoding away are taken as characters that no document holds.
-/

namespace Rollout.Json

/-- The encodings in which a document may come. -/
inductive Encoding where
  /-- Units of one octet. -/
  | utf8
  /-- Units of two octets. -/
  | utf16 (order : Endian)
  /-- Units of four octets. -/
  | utf32 (order : Endian)
deriving DecidableEq, Repr

/-- The encoding that the first four octets give away, and the number of octets of a mark. -/
def encodingOf? (sample : Octets) : Option (Encoding × Nat) :=
  match sample with
  | [0xFF, 0xFE, 0, 0] => some (.utf32 .little, 4)
  | [0, 0, 0xFE, 0xFF] => some (.utf32 .big, 4)
  | 0xEF :: 0xBB :: 0xBF :: _ => some (.utf8, 3)
  | 0xFF :: 0xFE :: _ => some (.utf16 .little, 2)
  | 0xFE :: 0xFF :: _ => some (.utf16 .big, 2)
  | _ =>
    match sample.map (· == 0) with
    | [false, false, false, false] => some (.utf8, 0)
    | [true, false, true, false] => some (.utf16 .big, 0)
    | [false, true, false, true] => some (.utf16 .little, 0)
    | [true, true, true, false] => some (.utf32 .big, 0)
    | [false, true, true, true] => some (.utf32 .little, 0)
    | _ => none

/-- The text of octets in an encoding. -/
def Encoding.decode? (encoding : Encoding) (octets : Octets) : Option (List Char) :=
  match encoding with
  | .utf8 => (Utf8.decode octets).toOption
  | .utf16 order => Utf16.decode? order octets
  | .utf32 order => Utf32.decode? order octets

/-- Octets as characters, one by one. -/
def singly (octets : Octets) : List Char := octets.map fun octet => Char.ofNat octet.toNat

/-- The text of a document that comes as octets. -/
def bodyText (body : Octets) : List Char :=
  if body.length ≤ 3 then (Utf8.decode body).toOption.getD (singly body)
  else
    match encodingOf? (body.take 4) with
    | some (encoding, mark) => (encoding.decode? (body.drop mark)).getD (singly body)
    | none => body.map fun _ => '\uFFFD'

/-- The value of a document that comes as octets. -/
def parseBody (nesting : Nat) (body : Octets) : Except Flaw Value := parse nesting (bodyText body)

end Rollout.Json
