import Rollout.Abi.Encoding
import Rollout.Fault

/-!
# Contract interfaces

A contract's interface is a document: a list of entries, each a record with a type, a name and the
inputs that it takes. Nothing promises that a given document has this shape, so each reader below
says which fault arises where the shape fails.
-/

namespace Rollout.Abi

/-- The words in place of a reason that the encoder does not give. -/
def noReason : String := "<web3>"

/-- The fault that an argument or interface is refused by the encoder. -/
def refused : Fault := .report .chainError noReason

/-- What a value holds, or the fault that it cannot be gone through. -/
def elementsOf (value : Value) : Except Fault (List Value) :=
  match value.elements? with
  | some elements => .ok elements
  | none => .error .wrongType

/-- The fields of a value, or the fault that it is no record. -/
def fieldsOf (value : Value) : Except Fault Fields :=
  match value with
  | .record fields => .ok fields
  | _ => .error .notRecord

/-- The entries of an interface. -/
def entriesOf (interface : Value) : Except Fault (List Fields) := do
  (← elementsOf interface).mapM fieldsOf

/-- Tells whether an entry has a type. -/
def hasType (type : String) (entry : Fields) : Bool :=
  match entry.get? "type" with
  | some (.text s) => s = type
  | _ => false

/-- Tells whether an entry has a name. -/
def hasName (name : String) (entry : Fields) : Bool :=
  match entry.get? "name" with
  | some (.text s) => s = name
  | _ => false

/-- The inputs of an entry as they stand; an entry without inputs has an empty list of them. -/
def inputsOf (entry : Fields) : Value := (entry.get? "inputs").getD (.list [])

/-! ## The text of a kind -/

mutual

/-- How deep values lie inside a value. -/
def depth : Value → Nat
  | .list items => depthAll items + 1
  | .tuple items => depthAll items + 1
  | .record fields => depthFields fields + 1
  | _ => 0

/-- How deep values lie inside a list. -/
def depthAll : List Value → Nat
  | [] => 0
  | item :: rest => max (depth item) (depthAll rest)

/-- How deep values lie inside the fields of a record. -/
def depthFields : List (String × Value) → Nat
  | [] => 0
  | (_, value) :: rest => max (depth value) (depthFields rest)

end

/-- The text of an input's kind, up to a depth of components. -/
def kindTextTo : Nat → Value → Except Fault String
  | 0, _ => .error .wrongType
  | fuel + 1, input => do
    let fields ← fieldsOf input
    match fields.get? "type" with
    | some (.text type) =>
      if "tuple".toList.isPrefixOf type.toList then
        match fields.get? "components" with
        | none => .error .fieldMissing
        | some components => do
          let texts ← (← elementsOf components).mapM (kindTextTo fuel)
          return "(" ++ ",".intercalate texts ++ ")" ++ String.ofList (type.toList.drop 5)
      else return type
    | _ => .error .wrongType

/-- The text of an input's kind: its type, with the kinds of its components in parentheses in place
of the word `tuple`. -/
def kindText (input : Value) : Except Fault String := kindTextTo (depth input + 1) input

/-- Tells whether a value is an argument of the kind that a text names. -/
def textAccepts (text : String) (value : Value) : Bool :=
  match Kind.ofText? text.toList with
  | some kind => kind.accepts value
  | none => false

/-! ## Functions -/

/-- The texts of the kinds of an entry's inputs. -/
def kindTexts (entry : Fields) : Except Fault (List String) := do
  (← elementsOf (inputsOf entry)).mapM kindText

/-- A name with the texts of the kinds that it takes. -/
def signature (name : String) (kinds : List String) : String :=
  name ++ "(" ++ ",".intercalate kinds ++ ")"

/-- The first four octets of the digest of a signature, by which a call names its function. -/
def selector (signature : String) : Octets := (Keccak.keccak256 (Utf8.encode signature)).take 4

/-- The selector of a function, whose signature must have a UTF-8 form. -/
def selectorOf (function : Fields) : Except Fault Octets := do
  let name := (function.get? "name").getD (.text "function")
  let text := signature name.shown (← kindTexts function)
  if Text.isWellFormed text.toList then return selector text else .error .unencodable

/-- Tells whether no octets occur twice. -/
def distinct : List Octets → Bool
  | [] => true
  | octets :: rest => !rest.contains octets && distinct rest

/-! ## Constructors -/

/-- The first entry that is a constructor; the entries after it do not count. -/
def constructorEntry? : List Value → Except Fault (Option Fields)
  | [] => .ok none
  | entry :: rest => do
    let fields ← fieldsOf entry
    if hasType "constructor" fields then return some fields else constructorEntry? rest

/-- Refuses an interface with which no contract can be created: one that is no list of records with
a type each, or in which two functions have the same selector. -/
def checkCreatable (interface : Value) : Except Fault Unit :=
  match interface.items? with
  | none => .error .unusableInterface
  | some items =>
    match items.mapM Value.fields? with
    | none => .error .unusableInterface
    | some entries =>
      if entries.all fun entry => entry.has "type" then do
        let selectors ← (entries.filter (hasType "function")).mapM selectorOf
        if distinct selectors then .ok () else .error .unusableInterface
      else .error .unusableInterface

/-- The data that creates a contract: its bytecode, and the arguments as its constructor takes them.
Without a constructor the arguments do not count. -/
def creationData (interface : Value) (bytecode : Octets) (arguments : List Value) :
    Except Fault Octets := do
  let entries ← entriesOf interface
  match entries.filter (hasType "constructor") with
  | [] => return bytecode
  | [entry] => do
    let inputs ← elementsOf (inputsOf entry)
    if inputs.length = arguments.length then do
      let texts ← inputs.mapM kindText
      match texts.mapM fun text => Kind.ofText? text.toList with
      | none => .error refused
      | some kinds =>
        if Kind.acceptsEach kinds arguments then
          match encodeArguments kinds arguments with
          | some octets => return bytecode ++ octets
          | none => .error refused
        else .error refused
    else .error .wrongType
  | _ => .error refused

end Rollout.Abi
