import Rollout.Fault
import Rollout.Text.Utf8

/-!
# Bytecode and linking

Compiled bytecode is hexadecimal text in which a placeholder stands wherever the address of a
library belongs. Linking puts the digits of addresses in the place of placeholders, library by
library, and reads the octets of the result; it is refused while any placeholder is left.
-/

namespace Rollout

/-- Compiled bytecode. -/
structure Bytecode where
  /-- The hexadecimal text, possibly with placeholders. -/
  object : String
  /-- What the compiler says about the libraries: the names of libraries for each source. -/
  references : Value := .null
  /-- The contract to which the bytecode belongs. -/
  contract : Option Contract := none

namespace Bytecode

/-! ## Placeholders -/

/-- The number of digits in a placeholder. -/
def placeholderDigits : Nat := 34

/-- A placeholder with the given digits. -/
def marked (digits : List Char) : List Char := '_' :: '_' :: '$' :: (digits ++ ['$', '_', '_'])

/-- The placeholder of a library: the first digits of the digest of its name, between marks. -/
def placeholder (library : LibraryName) : List Char :=
  marked ((Hex.encode (Keccak.keccak256 (Utf8.encode library.text))).take placeholderDigits)

/-- The placeholder at the head of a text, and the text after it. -/
def placeholderAt? (text : List Char) : Option (List Char × List Char) :=
  match text with
  | '_' :: '_' :: '$' :: rest =>
    let digits := rest.take placeholderDigits
    match rest.drop placeholderDigits with
    | '$' :: '_' :: '_' :: after =>
      if digits.length = placeholderDigits ∧ digits.all Hex.isDigit then some (marked digits, after)
      else none
    | _ => none
  | _ => none

/-- The placeholders of a text from left to right, none overlapping the one before; `skip` is the
number of characters that belong to the last one found. -/
def placeholdersFrom : Nat → List Char → List (List Char)
  | _, [] => []
  | skip + 1, _ :: rest => placeholdersFrom skip rest
  | 0, c :: rest =>
    match placeholderAt? (c :: rest) with
    | some (found, _) => found :: placeholdersFrom (found.length - 1) rest
    | none => placeholdersFrom 0 rest

/-- The placeholders of a text from left to right, none overlapping the one before. -/
def placeholders (text : List Char) : List (List Char) := placeholdersFrom 0 text

/-- Tells whether bytecode holds a placeholder. -/
def isUnlinked (bytecode : Bytecode) : Bool := !(placeholders bytecode.object.toList).isEmpty

/-! ## The libraries that bytecode expects -/

/-- The names in a value that is gone through. -/
def namesIn (value : Value) : Except Fault (List String) :=
  match value.elements? with
  | some elements => .ok (elements.map Value.shown)
  | none => .error .wrongType

/-- The full names of the libraries that bytecode expects: source and name, in order. -/
def libraries (bytecode : Bytecode) : Except Fault (List String) :=
  if bytecode.references.isVacant then .ok []
  else
    match bytecode.references with
    | .record sources => do
      let names ← sources.mapM fun (source, value) => do
        return (← namesIn value).map fun name => source ++ ":" ++ name
      return names.flatten
    | _ => .error .notRecord

/-- The first of some names that has a placeholder, or else the placeholder itself. The names before
it are looked at in turn, so they must have a placeholder as well. -/
def firstNamed (found : List Char) : List String → Except Fault String
  | [] => .ok (String.ofList found)
  | text :: rest => do
    let library ← LibraryName.read text
    if placeholder library = found then return text else firstNamed found rest

/-- The library that a placeholder stands for, as far as the bytecode tells; else the placeholder
itself. -/
def expected (bytecode : Bytecode) (found : List Char) : Except Fault String := do
  let names ← bytecode.libraries
  firstNamed found names

/-! ## Linking -/

/-- A text with every occurrence of a pattern replaced, from left to right; `skip` is the number of
characters that belong to the last occurrence. -/
def replaceFrom (pattern replacement : List Char) : Nat → List Char → List Char
  | _, [] => []
  | skip + 1, _ :: rest => replaceFrom pattern replacement skip rest
  | 0, c :: rest =>
    if pattern.isPrefixOf (c :: rest) then
      replacement ++ replaceFrom pattern replacement (pattern.length - 1) rest
    else c :: replaceFrom pattern replacement 0 rest

/-- A text with every occurrence of a nonempty pattern replaced, from left to right. -/
def replace (pattern replacement text : List Char) : List Char :=
  replaceFrom pattern replacement 0 text

/-- A text with the placeholders of libraries replaced by the digits of their addresses, one library
after the other. -/
def substitute (text : List Char) (addresses : List (LibraryName × Address)) : List Char :=
  addresses.foldl (fun code (library, address) => replace (placeholder library) address.digits code)
    text

/-- The octets of linked text; an odd number of digits is filled up in front. -/
def octetsOf? (code : List Char) : Option Octets :=
  Hex.decode? (if code.length % 2 = 1 then '0' :: code else code)

/-- Links bytecode against the addresses of libraries. -/
def link (bytecode : Bytecode) (addresses : List (LibraryName × Address)) : Except Fault Octets :=
  let code := substitute (Hex.dropMark bytecode.object.toList) addresses
  match placeholders code with
  | first :: rest => do
    let library ← bytecode.expected first
    .error (.deployment (.unresolvedLibrary library (first :: rest).eraseDups.length)
      bytecode.contract)
  | [] =>
    match octetsOf? code with
    | some octets => .ok octets
    | none => .error (.deployment .bytecodeNotHex bytecode.contract)

/-- Links bytecode against values that stand for the addresses of libraries. -/
def linkValues (bytecode : Bytecode) (values : Fields) : Except Fault Octets := do
  let addresses ← values.mapM fun (text, value) => do
    let library ← LibraryName.read text
    return (library, ← Address.read value)
  bytecode.link addresses

end Bytecode

end Rollout
