import Rollout.Registry
import Rollout.Text.Blank
import Rollout.Text.Lines

/-!
# Registries as text

A registry is written as one line for each contract: the name of its variable, an equals sign, and
its address. The lines stand in the order of the variables' names.

When a registry is read, lines that are blank, start with a number sign, or have no equals sign do
not count, nor do variables of other names or without value. The last line of a variable counts.
-/

namespace Rollout

/-- A line of a registry. -/
structure RegistryEntry where
  /-- The contract. -/
  contract : Contract
  /-- The address, as it is written. -/
  address : String
deriving DecidableEq, Repr

namespace RegistryEntry

/-- The text of a line. -/
def text (entry : RegistryEntry) : String := entry.contract.variableName ++ "=" ++ entry.address

end RegistryEntry

namespace Contract

/-- The place of a contract's variable in the order of the variables' names. -/
def rank : Contract → Nat
  | hotShot => 0
  | lightClient => 1
  | lightClientProxy => 2
  | lightClientStateUpdateVK => 3
  | plonkVerifier => 4

end Contract

namespace Registry

/-- Lines in the order of their variables' names; lines of one variable keep their order. -/
def sortEntries (entries : List RegistryEntry) : List RegistryEntry :=
  entries.mergeSort fun a b => a.contract.rank ≤ b.contract.rank

/-- The lines of a registry. -/
def entries (registry : Registry) : List RegistryEntry :=
  sortEntries (registry.addresses.map fun (contract, address) => ⟨contract, address.text⟩)

/-- Lines as the text of a file. -/
def write (entries : List RegistryEntry) : String :=
  String.join ((sortEntries entries).map fun entry => entry.text ++ "\n")

/-- What a line says: the contract and the value of its variable. -/
def lineEntry? (line : List Char) : Option (Contract × List Char) := do
  let line := Text.strip line
  if line.head? = some '#' then none
  else
    let (name, value) ← Text.splitFirst? '=' line
    let contract ← Contract.ofVariable? (String.ofList (Text.strip name))
    let value := Text.strip value
    if value.isEmpty then none else return (contract, value)

/-- Gives a contract an address: in its place if it has one, else at the end. -/
def setAddress : List (Contract × Address) → Contract → Address → List (Contract × Address)
  | [], contract, address => [(contract, address)]
  | (other, old) :: rest, contract, address =>
    if other = contract then (other, address) :: rest
    else (other, old) :: setAddress rest contract address

/-- Reads lines on, behind those that gave the known addresses. -/
def readLines (path : String) : Nat → List (List Char) → List (Contract × Address) →
    Except Fault (List (Contract × Address))
  | _, [], known => .ok known
  | number, line :: rest, known =>
    match lineEntry? line with
    | none => readLines path (number + 1) rest known
    | some (contract, value) =>
      match Address.ofValue (.text (String.ofList value)) with
      | .ok address => readLines path (number + 1) rest (setAddress known contract address)
      | .error _ =>
        .error (.deployment (.invalidEntry (String.ofList value) path number) (some contract))

/-- The addresses in the text of a registry; the path is named when a line holds no address. -/
def read (path : String) (text : List Char) : Except Fault (List (Contract × Address)) :=
  readLines path 1 (Text.lines text) []

/-- Addresses as values supplied in advance. -/
def toSupply (addresses : List (Contract × Address)) : Supply :=
  addresses.map fun (contract, address) => (contract, .text address.text)

end Registry

end Rollout
