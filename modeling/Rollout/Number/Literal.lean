import Rollout.Text.Blank
import Rollout.Text.Digit
import Rollout.Text.Quoted

/-!
# Integer literals

An integer is written as an optional sign and digits, with blanks around it and single underscores
between digits. Any decimal digit of Unicode counts. In base sixteen the digits stand behind a mark
`0x`, which an underscore may follow. A literal of base ten has at most `digitLimit` digits.

The information separators are not blanks here, although they are elsewhere.
-/

namespace Rollout.Literal

/-- The bases in which integers are written. -/
inductive Base where
  /-- Decimal digits. -/
  | ten
  /-- Hexadecimal digits behind the mark `0x`. -/
  | sixteen
deriving DecidableEq, Repr

/-- The number of a base. -/
def Base.value : Base → Nat
  | .ten => 10
  | .sixteen => 16

/-- Why a text is no integer. -/
inductive Flaw where
  /-- The text does not have the form of a literal of the base. -/
  | malformed (base : Base) (text : List Char)
  /-- A literal of base ten has too many digits. -/
  | tooLong (digits : Nat)
deriving DecidableEq, Repr

/-- The greatest number of digits of a literal of base ten, leading zeros included. -/
def digitLimit : Nat := 4300

/-- The number of characters of a quoted text that a message repeats. -/
def quotedLimit : Nat := 200

/-- The wording of a refusal. -/
def Flaw.message : Flaw → String
  | .malformed base text =>
    "invalid literal for int() with base " ++ toString base.value ++ ": "
      ++ String.ofList ((Text.quoted text).take quotedLimit)
  | .tooLong digits =>
    "Exceeds the limit (" ++ toString digitLimit
      ++ " digits) for integer string conversion: value has " ++ toString digits
      ++ " digits; use sys.set_int_max_str_digits() to increase the limit"

/-- The value of a digit of a base. -/
def Base.digit? (base : Base) (c : Char) : Option Nat :=
  match Text.digitValue? c with
  | some n => some n
  | none =>
    match base with
    | .ten => none
    | .sixteen => Hex.digit? c

/-- Tells whether a character may stand beside a literal. -/
def isBlank (c : Char) : Bool := Text.isBlank c && !Text.isInformationSeparator c

/-- The digits at the head of a text, read with their underscores. -/
structure Run where
  /-- The number that the digits spell. -/
  value : Nat
  /-- The number of digits. -/
  count : Nat
  /-- Tells whether each underscore stands between two digits. -/
  isSeparated : Bool
  /-- The text after the run. -/
  rest : List Char

/-- Reads digits and underscores on behind those already read. The run is cut at a second underscore
in a row, which no literal holds. -/
def run (base : Base) (value count : Nat) (afterUnderscore : Bool) : List Char → Run
  | [] => ⟨value, count, !afterUnderscore, []⟩
  | c :: rest =>
    if c = '_' then
      if afterUnderscore then ⟨value, count, false, c :: rest⟩
      else run base value count true rest
    else
      match base.digit? c with
      | some digit => run base (value * base.value + digit) (count + 1) false rest
      | none => ⟨value, count, !afterUnderscore, c :: rest⟩

/-- The value of a text without sign: its run of digits must start with a digit, be well separated,
keep the limit, and be followed by blanks alone. -/
def magnitude (base : Base) (whole text : List Char) : Except Flaw Nat :=
  let digits := run base 0 0 false text
  if text.head? = some '_' ∨ digits.isSeparated = false then .error (.malformed base whole)
  else if base = .ten ∧ digitLimit < digits.count then .error (.tooLong digits.count)
  else if digits.count = 0 ∨ digits.rest.all isBlank = false then .error (.malformed base whole)
  else .ok digits.value

/-- The integer written in base ten. -/
def decimal (text : List Char) : Except Flaw Int :=
  match text.dropWhile isBlank with
  | '-' :: digits => (magnitude .ten text digits).map fun n => -(n : Int)
  | '+' :: digits => (magnitude .ten text digits).map Int.ofNat
  | digits => (magnitude .ten text digits).map Int.ofNat

/-- The integer written in base sixteen, behind its mark. -/
def hexadecimal (text : List Char) : Except Flaw Int :=
  match Hex.dropMark text with
  | '_' :: digits => (magnitude .sixteen text digits).map Int.ofNat
  | digits => (magnitude .sixteen text digits).map Int.ofNat

example : decimal " -1_000 ".toList = .ok (-1000) := by rfl
example : hexadecimal "0x_fF".toList = .ok 255 := by rfl
example : decimal "1__0".toList = .error (.malformed .ten "1__0".toList) := by rfl
example : (Flaw.malformed .ten "x".toList).message =
    "invalid literal for int() with base 10: 'x'" := by decide

end Rollout.Literal
