import Rollout.Fault
import Rollout.Number.Literal

/-!
# Arguments of the command line

The values that options take beyond plain text: the index of an account in a wallet, and the address
of a contract that is in place already. An address that is missing or blank counts as not given.
-/

namespace Rollout.CommandLine

/-- Why an argument is not taken. -/
inductive ArgumentFault where
  /-- The argument is not one for its option, with the reason. -/
  | unsuitable (text : String)
  /-- Reading the argument fails in a way that is no refusal. -/
  | failed (fault : Fault)

/-- The greatest index of an account: the greatest one whose key derives from a public key. -/
def greatestAccountIndex : Nat := 0x7FFFFFFF

/-- The integer that octets spell as ASCII text in base ten. -/
def octetsInteger? (octets : Octets) : Option Int :=
  if octets.all fun octet => octet.toNat < 0x80 then
    (Literal.decimal (octets.map fun octet => Char.ofNat octet.toNat)).toOption
  else none

/-- The integer that an argument stands for; nothing if it spells none. -/
def integerOf (value : Value) : Except Fault (Option Int) :=
  match value with
  | .truth b => .ok (some (if b then 1 else 0))
  | .integer n => .ok (some n)
  | .number .nan => .ok none
  | .number x =>
    match x.truncate? with
    | some n => .ok (some n)
    | none => .error .tooLarge
  | .text s => .ok (Literal.decimal s.toList).toOption
  | .octets o => .ok (octetsInteger? o)
  | _ => .error .wrongType

/-- The index of an account. -/
def accountIndex (value : Value) : Except ArgumentFault Nat :=
  match integerOf value with
  | .error fault => .error (.failed fault)
  | .ok none => .error (.unsuitable (value.shown ++ " is not a valid integer"))
  | .ok (some n) =>
    if 0 ≤ n ∧ n ≤ greatestAccountIndex then .ok n.toNat
    else
      .error (.unsuitable
        (value.shown ++ " is not in the range 0.." ++ toString greatestAccountIndex))

/-- Tells whether an octet is an ASCII blank. -/
def isBlankOctet (octet : UInt8) : Bool :=
  octet = 0x20 || (0x09 ≤ octet.toNat && octet.toNat ≤ 0x0D)

/-- An argument without blanks at its two ends; nothing if it is neither text nor octets. -/
def stripped? : Value → Option Value
  | .text s => some (.text (String.ofList (Text.strip s.toList)))
  | .octets o =>
    some (.octets (((o.dropWhile isBlankOctet).reverse.dropWhile isBlankOctet).reverse))
  | _ => none

/-- The address of a contract that is in place already, if one is given. -/
def suppliedAddress (value : Value) : Except ArgumentFault (Option Address) :=
  match value with
  | .null => .ok none
  | _ =>
    match stripped? value with
    | none => .error (.failed .notRecord)
    | some (.text "") => .ok none
    | some stripped =>
      match Address.ofValue stripped with
      | .ok address => .ok (some address)
      | .error .wrongType => .error (.failed .wrongType)
      | .error _ => .error (.unsuitable (value.shown ++ " is not a valid ethereum address"))

end Rollout.CommandLine
