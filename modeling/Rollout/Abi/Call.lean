import Rollout.Abi.Interface

/-!
# Encoding calls

A call is encoded in two steps. First its arguments are checked against the functions of its name:
some function must take as many arguments, each of the right kind. Then the call becomes octets: the
selector of the function, and the arguments.

The second step has requirements of its own, and gives no reasons when they are not met. Above all
the arguments must fit one function only, events and errors of the same name counting too.
-/

namespace Rollout.Abi

/-- Tells whether values are arguments of inputs, one of each, up to the first that is none. The
names of the inputs must be names. -/
def fits : List Value → List Value → Except Fault Bool
  | input :: inputs, value :: values => do
    let text ← kindText input
    if textAccepts text value then do
      match (← fieldsOf input).get? "name" with
      | some (.list _) => .error .wrongType
      | some (.record _) => .error .wrongType
      | _ => fits inputs values
    else return false
  | _, _ => return true

/-- Tells whether any of some functions takes the arguments. Each must name its inputs. -/
def anyFits (arguments : List Value) : List Fields → Except Fault Bool
  | [] => return false
  | function :: rest => do
    match function.get? "inputs" with
    | none => .error .fieldMissing
    | some inputs =>
      if ← fits (← elementsOf inputs) arguments then return true else anyFits arguments rest

/-- Checks arguments against the functions of a name. -/
def checkArguments (contract : Option Contract) (functions : List Fields) (arguments : List Value) :
    Except Fault Unit :=
  match functions with
  | [] => .error (.deployment .noFunction contract)
  | first :: _ => do
    let sized ← functions.filterM fun function => do
      return (← elementsOf (inputsOf function)).length == arguments.length
    if ← anyFits arguments sized then return ()
    else
      let name := (first.get? "name").getD .null
      .error (.deployment (.noOverload name.shown arguments.length) contract)

/-- Tells whether an entry can be called, emitted or raised. -/
def isNamedKind (entry : Fields) : Bool :=
  hasType "function" entry || hasType "event" entry || hasType "error" entry

/-- Tells whether the inputs of an entry take the arguments. -/
def takes (arguments : List Value) (entry : Fields) : Except Fault Bool := do
  let texts ← kindTexts entry
  return texts.length == arguments.length
    && (texts.zip arguments).all fun (text, value) => textAccepts text value

/-- The octets of a call whose arguments are checked; nothing if the encoder refuses it. -/
def callData? (entries : List Fields) (name : String) (arguments : List Value) :
    Except Fault (Option Octets) := do
  let functions := entries.filter (hasType "function")
  let selectors ← functions.mapM selectorOf
  let named := functions.filter (hasName name)
  if entries.any (fun entry => !entry.has "type") ∨ functions.any (fun entry => !entry.has "inputs")
      ∨ !distinct selectors ∨ name = "fallback" ∨ name = "constructor"
      ∨ (arguments.isEmpty ∧ named.length ≠ 1) then
    return none
  else
    let candidates := entries.filter fun entry => isNamedKind entry && hasName name entry
    match ← candidates.filterM (takes arguments) with
    | [entry] => do
      let texts ← kindTexts entry
      let kinds? := texts.mapM fun text => Kind.ofText? text.toList
      return (kinds?.bind fun kinds => encodeArguments kinds arguments).map fun octets =>
        selector (signature name texts) ++ octets
    | _ => return none

/-- Tells whether a fault of the encoder means that it refuses the call. -/
def isRefusal : Fault → Bool
  | .wrongType => true
  | .invalidValue _ => true
  | .unencodable => true
  | fault => fault.isNetworkError

/-- The octets of a call of a contract's function. -/
def encodeCall (contract : Option Contract) (interface : Value) (name : String)
    (arguments : List Value) : Except Fault Octets := do
  let entries ← entriesOf interface
  checkArguments contract
    (entries.filter fun entry => hasType "function" entry && hasName name entry) arguments
  let notEncodable : Fault := .deployment (.notEncodable name noReason) contract
  match callData? entries name arguments with
  | .ok (some octets) => .ok octets
  | .ok none => .error notEncodable
  | .error fault => .error (if isRefusal fault then notEncodable else fault)

end Rollout.Abi
