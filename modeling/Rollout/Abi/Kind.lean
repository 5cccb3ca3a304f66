import Rollout.Text.Digit

/-!
# Argument kinds

The kinds of arguments that a contract takes, and the text that names a kind: a base name, its size,
and any number of list brackets; or a sequence of kinds in parentheses, and list brackets.
-/

namespace Rollout.Abi

/-- A kind of argument. -/
inductive Kind where
  /-- Natural numbers of a number of bits. -/
  | uint (bits : Nat)
  /-- Integers of a number of bits. -/
  | int (bits : Nat)
  /-- Fixed-point numbers of a number of bits, with a number of decimal places. -/
  | fixed (signed : Bool) (bits places : Nat)
  /-- Truth values. -/
  | bool
  /-- Addresses. -/
  | address
  /-- Octets of a fixed number. -/
  | fixedBytes (size : Nat)
  /-- Octets of any number. -/
  | bytes
  /-- Texts. -/
  | string
  /-- Lists of any length. -/
  | list (item : Kind)
  /-- Lists of a fixed length. -/
  | array (item : Kind) (size : Nat)
  /-- Sequences with a kind for each place. -/
  | tuple (items : List Kind)

namespace Kind

/-- The size of a base name: one number, or two with an `x` between them. -/
structure Size where
  /-- The first number. -/
  first : Nat
  /-- The second number. -/
  second : Option Nat

/-- Reads a number without leading zero. -/
def numberAt? (text : List Char) : Option (Nat × List Char) :=
  let digits := text.takeWhile Text.isAsciiDigit
  if digits.isEmpty ∨ digits.head? = some '0' then none
  else some (Text.asciiNat digits, text.dropWhile Text.isAsciiDigit)

/-- Reads the size of a base name. -/
def sizeAt? (text : List Char) : Option (Size × List Char) := do
  let (first, rest) ← numberAt? text
  match rest with
  | 'x' :: after =>
    match numberAt? after with
    | some (second, rest) => return (⟨first, some second⟩, rest)
    | none => return (⟨first, none⟩, rest)
  | _ => return (⟨first, none⟩, rest)

/-- Tells whether a number of bits is a whole number of octets up to thirty-two. -/
def isBitSize (bits : Nat) : Bool := 8 ≤ bits && bits ≤ 256 && bits % 8 = 0

/-- The kind of a base name and its size. -/
def ofBase? (base : String) (size : Option Size) : Option Kind :=
  match base, size with
  | "uint", none => some (uint 256)
  | "int", none => some (int 256)
  | "uint", some ⟨bits, none⟩ => if isBitSize bits then some (uint bits) else none
  | "int", some ⟨bits, none⟩ => if isBitSize bits then some (int bits) else none
  | "fixed", none => some (fixed true 128 18)
  | "ufixed", none => some (fixed false 128 18)
  | "fixed", some ⟨bits, some places⟩ =>
    if isBitSize bits ∧ places ≤ 80 then some (fixed true bits places) else none
  | "ufixed", some ⟨bits, some places⟩ =>
    if isBitSize bits ∧ places ≤ 80 then some (fixed false bits places) else none
  | "bool", _ => some bool
  | "address", none => some address
  | "function", none => some (fixedBytes 24)
  | "byte", none => some (fixedBytes 1)
  | "bytes", none => some bytes
  | "bytes", some ⟨size, none⟩ => if size ≤ 32 then some (fixedBytes size) else none
  | "string", none => some string
  | _, _ => none

/-- Reads list brackets behind a kind; `fuel` bounds their number. -/
def bracketsAt : Nat → Kind → List Char → Kind × List Char
  | 0, kind, text => (kind, text)
  | fuel + 1, kind, text =>
    match text with
    | '[' :: ']' :: rest => bracketsAt fuel (list kind) rest
    | '[' :: rest =>
      match numberAt? rest with
      | some (size, ']' :: after) => bracketsAt fuel (array kind size) after
      | _ => (kind, text)
    | _ => (kind, text)

mutual

/-- Reads a kind at the head of a text; `fuel` bounds the depth. -/
def kindAt? : Nat → List Char → Option (Kind × List Char)
  | 0, _ => none
  | fuel + 1, text =>
    match text with
    | '(' :: rest => do
      let (items, after) ← kindsAt? fuel rest
      return bracketsAt after.length (tuple items) after
    | _ => do
      let base := text.takeWhile Char.isAlpha
      let rest := text.dropWhile Char.isAlpha
      let (size, after) : Option Size × List Char :=
        match sizeAt? rest with
        | some (size, after) => (some size, after)
        | none => (none, rest)
      let kind ← ofBase? (String.ofList base) size
      return bracketsAt after.length kind after

/-- Reads kinds with commas between them up to the closing parenthesis. -/
def kindsAt? : Nat → List Char → Option (List Kind × List Char)
  | 0, _ => none
  | fuel + 1, text => do
    let (kind, rest) ← kindAt? fuel text
    match rest with
    | ',' :: after =>
      let (kinds, after) ← kindsAt? fuel after
      return (kind :: kinds, after)
    | ')' :: after => return ([kind], after)
    | _ => none

end

/-- The kind that a text names. -/
def ofText? (text : List Char) : Option Kind :=
  match kindAt? (2 * text.length + 1) text with
  | some (kind, []) => some kind
  | _ => none

mutual

/-- Tells whether the length of an encoded argument depends on its value. -/
def isDynamic : Kind → Bool
  | bytes => true
  | string => true
  | list _ => true
  | array item _ => item.isDynamic
  | tuple items => anyDynamic items
  | _ => false

/-- Tells whether the length of any encoded argument depends on its value. -/
def anyDynamic : List Kind → Bool
  | [] => false
  | kind :: rest => kind.isDynamic || anyDynamic rest

end

end Kind

end Rollout.Abi
