import Rollout.Abi.Interface

/-!
# The parameters of a constructor

Before a contract is created, the arguments of its constructor are shown by name. An argument beyond
the inputs, or of an input without name, is called by its position. Arguments of the same name are
shown once, in the first one's place with the last one's value.
-/

namespace Rollout.Abi

/-- Tells whether two values are the same name. Truth values count as numbers. -/
def sameName : Value → Value → Bool
  | .text a, .text b => a = b
  | .integer a, .integer b => a = b
  | .truth a, .truth b => a = b
  | .truth a, .integer b => (if a then 1 else 0) = b
  | .integer a, .truth b => a = (if b then 1 else 0)
  | .number .nan, .number .nan => false
  | .number a, .number b => a = b || (a.isZero && b.isZero)
  | .number a, .integer b => a.truncate? = some b && a.isWhole
  | .integer a, .number b => b.truncate? = some a && b.isWhole
  | .number a, .truth b => a.truncate? = some (if b then 1 else 0) && a.isWhole
  | .truth a, .number b => b.truncate? = some (if a then 1 else 0) && b.isWhole
  | .null, .null => true
  | _, _ => false

/-- Names with values, in order. -/
abbrev Parameters := List (Value × Value)

/-- Gives a name a value: in its place if it has one, else at the end. -/
def Parameters.set : Parameters → Value → Value → Parameters
  | [], name, value => [(name, value)]
  | (key, old) :: rest, name, value =>
    if sameName key name then (key, value) :: rest else (key, old) :: set rest name value

/-- The name of the argument at a position, as far as the inputs tell one. -/
def inputName? (inputs : Value) (position : Nat) : Except Fault (Option Value) := do
  let elements ← elementsOf inputs
  match elements[position]? with
  | none => return none
  | some input =>
    match inputs with
    | .record _ => .error .fieldMissing
    | _ => return (← fieldsOf input).get? "name"

/-- The name under which the argument at a position is shown. -/
def parameterName (inputs : Value) (position : Nat) : Except Fault Value := do
  match ← inputName? inputs position with
  | none => return .text ("arg" ++ toString position)
  | some name =>
    if name.isVacant then return .text ("arg" ++ toString position)
    else
      match name with
      | .list _ => .error .wrongType
      | .record _ => .error .wrongType
      | _ => return name

/-- A value as it is shown for a parameter: octets as hexadecimal text. -/
def parameterValue : Value → Value
  | .octets o => .text (Hex.text o)
  | value => value

/-- Pairs arguments with the names of the inputs, from a position on. -/
def nameArguments (inputs : Value) : Nat → List Value → Parameters → Except Fault Parameters
  | _, [], parameters => return parameters
  | position, value :: rest, parameters => do
    let name ← parameterName inputs position
    nameArguments inputs (position + 1) rest (parameters.set name (parameterValue value))

/-- The parameters of the constructor of an interface. -/
def constructorParameters (interface : Value) (arguments : List Value) :
    Except Fault Parameters := do
  let entry ← constructorEntry? (← elementsOf interface)
  nameArguments ((entry.map inputsOf).getD (.list [])) 0 arguments []

end Rollout.Abi
