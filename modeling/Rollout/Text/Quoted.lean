import Rollout.Hex
import Rollout.Text.Printable
import Rollout.Text.Surrogate

/-!
# Quoted text

Messages show a text between quotes: single ones, unless the text holds a single quote and no
double one. A backslash, the quote in use, and every character that cannot be shown are escaped, so
that the quoted form is one printable line. Octets are quoted by the same rules behind the mark `b`.
-/

namespace Rollout.Text

/-- The quote that is put around a text. -/
def quoteFor (text : List Char) : Char :=
  if text.contains '\'' && !text.contains '"' then '"' else '\''

/-- The low hexadecimal digits of a number at a given width. -/
def hexDigits (width n : Nat) : List Char :=
  (List.range width).map fun i => Hex.lowerDigit (n / Nat.pow 16 (width - 1 - i) % 16)

/-- A character as it stands between the given quotes. -/
def escape (quote c : Char) : List Char :=
  match loneSurrogate? c with
  | some unit => '\\' :: 'u' :: hexDigits 4 unit
  | none =>
    if c = quote ∨ c = '\\' then ['\\', c]
    else if c = '\n' then ['\\', 'n']
    else if c = '\r' then ['\\', 'r']
    else if c = '\t' then ['\\', 't']
    else if isPrintable c then [c]
    else if c.toNat < 0x100 then '\\' :: 'x' :: hexDigits 2 c.toNat
    else if c.toNat < 0x10000 then '\\' :: 'u' :: hexDigits 4 c.toNat
    else '\\' :: 'U' :: hexDigits 8 c.toNat

/-- A text between quotes. -/
def quoted (text : List Char) : List Char :=
  let quote := quoteFor text
  quote :: (text.flatMap (escape quote) ++ [quote])

/-- An octet as it stands between the given quotes. -/
def escapeOctet (quote : Char) (octet : UInt8) : List Char :=
  let c := Char.ofNat octet.toNat
  if c = quote ∨ c = '\\' then ['\\', c]
  else if c = '\n' then ['\\', 'n']
  else if c = '\r' then ['\\', 'r']
  else if c = '\t' then ['\\', 't']
  else if 0x20 ≤ c.toNat ∧ c.toNat < 0x7F then [c]
  else '\\' :: 'x' :: hexDigits 2 octet.toNat

/-- Octets between quotes, behind the mark `b`. -/
def quotedOctets (octets : Octets) : List Char :=
  let quote := quoteFor (octets.map fun octet => Char.ofNat octet.toNat)
  'b' :: quote :: (octets.flatMap (escapeOctet quote) ++ [quote])

example : quoted "it's".toList = "\"it's\"".toList := by decide
example : quoted "a\n\\".toList = "'a\\n\\\\'".toList := by decide
example : quotedOctets [0, 39, 255] = "b\"\\x00'\\xff\"".toList := by decide

end Rollout.Text
