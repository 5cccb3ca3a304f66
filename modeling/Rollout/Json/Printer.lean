import Rollout.Json.Parser

/-!
# Writing JSON documents

A value is written on one line of ASCII characters: a comma and a space between items, a colon and a
space behind names. Every other character is escaped as one or two code units. Octets have no form
of their own and are written as hexadecimal text.
-/

namespace Rollout.Json

/-- The escaped form of a code unit. -/
def escapedUnit (unit : Nat) : List Char := '\\' :: 'u' :: Text.hexDigits 4 unit

/-- A character as it stands between quotes. -/
def written (c : Char) : List Char :=
  match Text.loneSurrogate? c with
  | some unit => escapedUnit unit
  | none =>
    if c = '"' ∨ c = '\\' then ['\\', c]
    else if c = '\n' then ['\\', 'n']
    else if c = '\r' then ['\\', 'r']
    else if c = '\t' then ['\\', 't']
    else if c = '\x08' then ['\\', 'b']
    else if c = '\x0c' then ['\\', 'f']
    else if 0x20 ≤ c.toNat ∧ c.toNat < 0x7F then [c]
    else if c.toNat < 0x10000 then escapedUnit c.toNat
    else
      let offset := c.toNat - 0x10000
      escapedUnit (0xD800 + offset / 0x400) ++ escapedUnit (0xDC00 + offset % 0x400)

/-- A text between quotes. -/
def writtenText (s : String) : String :=
  String.ofList ('"' :: (s.toList.flatMap written ++ ['"']))

mutual

/-- A value as a document. -/
def print : Value → String
  | .null => "null"
  | .truth b => if b then "true" else "false"
  | .integer n => toString n
  | .number x => x.text Value.layout "Infinity" "NaN"
  | .text s => writtenText s
  | .octets o => writtenText (Hex.text o)
  | .list items => "[" ++ ", ".intercalate (printItems items) ++ "]"
  | .tuple items => "[" ++ ", ".intercalate (printItems items) ++ "]"
  | .record fields => "\x7b" ++ ", ".intercalate (printFields fields) ++ "\x7d"

/-- Values as documents. -/
def printItems : List Value → List String
  | [] => []
  | item :: rest => print item :: printItems rest

/-- Fields as they stand in a record. -/
def printFields : List (String × Value) → List String
  | [] => []
  | (name, value) :: rest => (writtenText name ++ ": " ++ print value) :: printFields rest

end

end Rollout.Json
