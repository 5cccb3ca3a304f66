import Rollout.Value
import Rollout.Number.Literal

/-!
# Reading JSON documents

`Json.parse` reads the one value that a text spells. Beside the standard's values it reads `NaN`,
`Infinity` and `-Infinity`. A number without point and exponent is an integer of any size up to the
digit limit; any other number is floating-point. Of repeated names the last value counts. Lists and
records lie in each other up to a depth that the reader is given, and no deeper.

A refusal tells what was expected and where. Inside the reader a place is the number of characters
that are left, which becomes a position, a line and a column at the end.
-/

namespace Rollout.Json

/-- What is wrong with a document. -/
inductive Problem where
  /-- No value starts here. -/
  | expectedValue
  /-- Neither a comma nor the closing bracket. -/
  | expectedComma
  /-- No colon after a name. -/
  | expectedColon
  /-- No name in quotes. -/
  | expectedName
  /-- A text that does not end; the place is that of its opening quote. -/
  | unterminated
  /-- A control character inside a text. -/
  | controlCharacter
  /-- A backslash before a character that it does not escape. -/
  | badEscape
  /-- An escaped code unit without four hexadecimal digits. -/
  | badUnit
  /-- More text after the value. -/
  | extraData
  /-- A byte order mark before the value. -/
  | byteOrderMark
  /-- An integer with more digits than the limit allows. -/
  | tooLong (digits : Nat)
  /-- A list or record deeper in others than the reader goes. -/
  | tooDeep
deriving DecidableEq, Repr

/-- The wording of a problem, apart from its place. -/
def Problem.message : Problem → String
  | .expectedValue => "Expecting value"
  | .expectedComma => "Expecting ',' delimiter"
  | .expectedColon => "Expecting ':' delimiter"
  | .expectedName => "Expecting property name enclosed in double quotes"
  | .unterminated => "Unterminated string starting at"
  | .controlCharacter => "Invalid control character at"
  | .badEscape => "Invalid \\escape"
  | .badUnit => "Invalid \\uXXXX escape"
  | .extraData => "Extra data"
  | .byteOrderMark => "Unexpected UTF-8 BOM (decode using utf-8-sig)"
  | .tooLong digits => (Literal.Flaw.tooLong digits).message
  | .tooDeep => "maximum recursion depth exceeded"

/-- A problem and its place. -/
structure Flaw where
  /-- What is wrong. -/
  problem : Problem
  /-- The number of characters before the place. -/
  position : Nat
  /-- The line of the place, counted from one. -/
  line : Nat
  /-- The column of the place, counted from one. -/
  column : Nat
deriving DecidableEq, Repr

/-- The wording of a refusal. A limit is a matter of the number or of the depth, and not of the place.
-/
def Flaw.message (flaw : Flaw) : String :=
  match flaw.problem with
  | .tooLong _ | .tooDeep => flaw.problem.message
  | _ =>
    flaw.problem.message ++ ": line " ++ toString flaw.line ++ " column " ++ toString flaw.column
      ++ " (char " ++ toString flaw.position ++ ")"

/-- A problem at a position of a text. -/
def Flaw.at (text : List Char) (problem : Problem) (position : Nat) : Flaw :=
  let before := text.take position
  ⟨problem, position, before.count '\n' + 1, (before.reverse.takeWhile (· != '\n')).length + 1⟩

/-- What a reader of a part of a document answers: the part and the text after it, or a problem and
the number of characters left at its place. -/
abbrev Step (α : Type) := Except (Problem × Nat) (α × List Char)

/-- Tells whether a character may stand between the parts of a document. -/
def isSpace (c : Char) : Bool := c = ' ' || c = '\t' || c = '\n' || c = '\r'

/-- A text without the spaces at its head. -/
def skipSpace (text : List Char) : List Char := text.dropWhile isSpace

/-! ## Texts -/

/-- The character that a letter stands for behind a backslash. -/
def escaped? : Char → Option Char
  | '"' => some '"'
  | '\\' => some '\\'
  | '/' => some '/'
  | 'b' => some '\x08'
  | 'f' => some '\x0c'
  | 'n' => some '\n'
  | 'r' => some '\r'
  | 't' => some '\t'
  | _ => none

/-- The code unit of four hexadecimal digits; the text must go on behind them. -/
def unit? : List Char → Option (Nat × List Char)
  | a :: b :: c :: d :: e :: rest => do
    let digits ← [a, b, c, d].mapM Hex.digit?
    return (digits.foldl (fun n digit => n * 16 + digit) 0, e :: rest)
  | _ => none

/-- The second code unit of a pair, spelled by an escape at the head of a text. -/
def lowSurrogate? : List Char → Option (Nat × List Char)
  | '\\' :: 'u' :: text => do
    let (unit, rest) ← unit? text
    if 0xDC00 ≤ unit ∧ unit ≤ 0xDFFF then return (unit, rest) else none
  | _ => none

/-- The character of a code unit, joined with the one after it if the two are a pair. -/
def joinUnits (unit : Nat) (rest : List Char) : Char × List Char :=
  if 0xD800 ≤ unit ∧ unit ≤ 0xDBFF then
    match lowSurrogate? rest with
    | some (low, after) =>
      (Char.ofNat (0x10000 + (unit - 0xD800) * 0x400 + (low - 0xDC00)), after)
    | none => (Text.holdSurrogate unit, rest)
  else if 0xDC00 ≤ unit ∧ unit ≤ 0xDFFF then (Text.holdSurrogate unit, rest)
  else (Char.ofNat unit, rest)

/-- Reads a text behind its opening quote; `start` is the number of characters left at that quote,
`read` holds the characters read so far in reverse, and `fuel` bounds their number. -/
def readText (start : Nat) : Nat → List Char → List Char → Step String
  | 0, _, _ => .error (.unterminated, start)
  | _, _, [] => .error (.unterminated, start)
  | fuel + 1, read, c :: rest =>
    if c = '"' then .ok (String.ofList read.reverse, rest)
    else if c = '\\' then
      match rest with
      | [] => .error (.unterminated, start)
      | 'u' :: after =>
        match unit? after with
        | none => .error (.badUnit, rest.length)
        | some (unit, after) =>
          let (joined, after) := joinUnits unit after
          readText start fuel (joined :: read) after
      | letter :: after =>
        match escaped? letter with
        | none => .error (.badEscape, rest.length + 1)
        | some plain => readText start fuel (plain :: read) after
    else if c.toNat ≤ 0x1F then .error (.controlCharacter, rest.length + 1)
    else readText start fuel (c :: read) rest

/-! ## Numbers -/

/-- The fraction at the head of a text: digits behind a point. -/
def fraction (text : List Char) : List Char × List Char :=
  match text with
  | '.' :: rest => if (rest.takeWhile Text.isAsciiDigit).isEmpty then ([], text)
    else (rest.takeWhile Text.isAsciiDigit, rest.dropWhile Text.isAsciiDigit)
  | _ => ([], text)

/-- The exponent at the head of a text: an optional sign and digits behind the letter `e`. -/
def exponent? (text : List Char) : Option (Int × List Char) :=
  match text with
  | e :: rest =>
    if e = 'e' ∨ e = 'E' then
      let (negative, digits) : Bool × List Char :=
        match rest with
        | '-' :: after => (true, after)
        | '+' :: after => (false, after)
        | after => (false, after)
      let read := digits.takeWhile Text.isAsciiDigit
      if read.isEmpty then none
      else
        let size : Int := Text.asciiNat read
        some (if negative then -size else size, digits.dropWhile Text.isAsciiDigit)
    else none
  | [] => none

/-- The number whose digits stand at the head of a text, behind its sign. -/
def readNumber (negative : Bool) (text : List Char) : Option (Except Problem Value × List Char) :=
  let whole :=
    match text with
    | '0' :: _ => ['0']
    | _ => text.takeWhile Text.isAsciiDigit
  if whole.isEmpty then none
  else
    let rest := text.drop whole.length
    let (places, afterPlaces) := fraction rest
    let power := exponent? afterPlaces
    if places.isEmpty ∧ power.isNone then
      if Literal.digitLimit < whole.length then some (.error (.tooLong whole.length), rest)
      else
        let size : Int := Text.asciiNat whole
        some (.ok (.integer (if negative then -size else size)), rest)
    else
      let (shift, after) := power.getD (0, afterPlaces)
      some (.ok (.number (Binary64.ofDecimal negative (Text.asciiNat (whole ++ places))
        (shift - places.length))), after)

/-- The text behind a word, if it starts with the word. -/
def afterWord? (word : String) (text : List Char) : Option (List Char) :=
  if word.toList.isPrefixOf text then some (text.drop word.length) else none

/-- The words that stand for a value. -/
def words : List (String × Value) :=
  [("null", .null), ("true", .truth true), ("false", .truth false), ("NaN", .number .nan),
    ("Infinity", .number (.infinite false)), ("-Infinity", .number (.infinite true))]

/-- Reads a word or a number. -/
def readScalar (text : List Char) : Step Value :=
  match words.findSome? fun (word, value) =>
      (afterWord? word text).map fun rest => (value, rest) with
  | some found => .ok found
  | none =>
    let number :=
      match text with
      | '-' :: digits => readNumber true digits
      | digits => readNumber false digits
    match number with
    | some (.ok value, rest) => .ok (value, rest)
    | some (.error problem, rest) => .error (problem, rest.length)
    | none => .error (.expectedValue, text.length)

/-! ## Lists and records -/

mutual

/-- Reads a value at the head of a text. `fuel` bounds the number of values and fields; an empty
supply answers as the end of the text does. `room` is how many lists and records may still lie in each
other. -/
def readValue : Nat → Nat → List Char → Step Value
  | 0, _, text => .error (.expectedValue, text.length)
  | fuel + 1, room, text =>
    match text with
    | '"' :: rest =>
      match readText text.length text.length [] rest with
      | .error flaw => .error flaw
      | .ok (content, after) => .ok (.text content, after)
    | '[' :: rest =>
      match room with
      | 0 => .error (.tooDeep, text.length)
      | room + 1 =>
        match skipSpace rest with
        | ']' :: after => .ok (.list [], after)
        | items => readItems fuel room [] items
    | '\x7b' :: rest =>
      match room with
      | 0 => .error (.tooDeep, text.length)
      | room + 1 =>
        match skipSpace rest with
        | '\x7d' :: after => .ok (.record [], after)
        | fields => readFields fuel room [] fields
    | _ => readScalar text

/-- Reads the items of a list on behind those already read, which are held in reverse. -/
def readItems : Nat → Nat → List Value → List Char → Step Value
  | 0, _, _, text => .error (.expectedValue, text.length)
  | fuel + 1, room, read, text =>
    match readValue fuel room text with
    | .error flaw => .error flaw
    | .ok (item, rest) =>
      match skipSpace rest with
      | ']' :: after => .ok (.list (item :: read).reverse, after)
      | ',' :: after => readItems fuel room (item :: read) (skipSpace after)
      | other => .error (.expectedComma, other.length)

/-- Reads the fields of a record on behind those already read. -/
def readFields : Nat → Nat → Fields → List Char → Step Value
  | 0, _, _, text => .error (.expectedName, text.length)
  | fuel + 1, room, read, text =>
    match text with
    | '"' :: rest =>
      match readText text.length text.length [] rest with
      | .error flaw => .error flaw
      | .ok (name, after) =>
        match skipSpace after with
        | ':' :: after =>
          match readValue fuel room (skipSpace after) with
          | .error flaw => .error flaw
          | .ok (value, rest) =>
            let fields := read.set name value
            match skipSpace rest with
            | '\x7d' :: after => .ok (.record fields, after)
            | ',' :: after => readFields fuel room fields (skipSpace after)
            | other => .error (.expectedComma, other.length)
        | other => .error (.expectedColon, other.length)
    | _ => .error (.expectedName, text.length)

end

/-- How deep lists and records may lie in each other where nothing else is said. -/
def nestingLimit : Nat := 1000

/-- The value that a text spells, if lists and records lie no deeper in each other than a limit. -/
def parse (nesting : Nat) (text : List Char) : Except Flaw Value :=
  match text with
  | '\uFEFF' :: _ => .error (.at text .byteOrderMark 0)
  | _ =>
    match readValue (2 * text.length + 2) nesting (skipSpace text) with
    | .error (problem, left) => .error (.at text problem (text.length - left))
    | .ok (value, rest) =>
      match skipSpace rest with
      | [] => .ok value
      | extra => .error (.at text .extraData (text.length - extra.length))

end Rollout.Json
