import Rollout.Text.Surrogate

/-!
# Contracts

The contracts that a deployment consists of, what each is called in a registry and in the build
output, and which others must be in place before it. A contract stands above all the contracts that
it depends on (`height_lt_of_mem_dependencies`), so dependencies can be followed to their end.
-/

namespace Rollout

/-- The full name of a library: its source and its name there. It has a UTF-8 form, of which a digest
can be taken. -/
structure LibraryName where
  /-- The text of the name. -/
  text : String
  /-- The text has a UTF-8 form. -/
  isWellFormed : Text.isWellFormed text.toList = true
deriving DecidableEq

/-- A contract of the deployment. -/
inductive Contract where
  /-- The consensus contract. -/
  | hotShot
  /-- The library that verifies proofs. -/
  | plonkVerifier
  /-- The library that holds the verification key of state updates. -/
  | lightClientStateUpdateVK
  /-- The light client, which is linked against the two libraries. -/
  | lightClient
  /-- The proxy in front of the light client. -/
  | lightClientProxy
deriving DecidableEq, Repr

namespace Contract

/-- The contracts in their fixed order. -/
def all : List Contract :=
  [hotShot, plonkVerifier, lightClientStateUpdateVK, lightClient, lightClientProxy]

/-- The name of a contract in messages. -/
def name : Contract → String
  | hotShot => "HOTSHOT"
  | plonkVerifier => "PLONK_VERIFIER"
  | lightClientStateUpdateVK => "LIGHT_CLIENT_STATE_UPDATE_VK"
  | lightClient => "LIGHT_CLIENT"
  | lightClientProxy => "LIGHT_CLIENT_PROXY"

/-- The variable that holds the address of a contract in a registry and in the environment. -/
def variableName (contract : Contract) : String :=
  "ESPRESSO_SEQUENCER_" ++ contract.name ++ "_ADDRESS"

/-- The name of a contract in the build output. -/
def artifact : Contract → String
  | hotShot => "HotShot"
  | plonkVerifier => "PlonkVerifier"
  | lightClientStateUpdateVK => "LightClientStateUpdateVK"
  | lightClient => "LightClient"
  | lightClientProxy => "ERC1967Proxy"

/-- The contracts that must be in place before a contract is deployed, in the order in which they
are put in place. -/
def dependencies : Contract → List Contract
  | lightClient => [plonkVerifier, lightClientStateUpdateVK]
  | lightClientProxy => [lightClient]
  | _ => []

/-- The name under which the compiler refers to a contract that is linked as a library. -/
def library? : Contract → Option LibraryName
  | plonkVerifier => some ⟨"contracts/src/libraries/PlonkVerifier.sol:PlonkVerifier", by decide⟩
  | lightClientStateUpdateVK =>
    some ⟨"contracts/src/libraries/LightClientStateUpdateVK.sol:LightClientStateUpdateVK", by decide⟩
  | _ => none

/-- The contract whose variable has the given name. -/
def ofVariable? (variableName : String) : Option Contract :=
  all.find? fun contract => contract.variableName = variableName

/-- The contract with the given name. -/
def ofName? (name : String) : Option Contract := all.find? fun contract => contract.name = name

/-- How many layers of dependencies a contract stands on. -/
def height : Contract → Nat
  | lightClient => 1
  | lightClientProxy => 2
  | _ => 0

theorem mem_all (contract : Contract) : contract ∈ all := by cases contract <;> decide

theorem height_lt_of_mem_dependencies {contract dependency : Contract}
    (h : dependency ∈ contract.dependencies) : dependency.height < contract.height := by
  revert h; cases contract <;> cases dependency <;> decide

@[simp]
theorem ofVariable?_variableName (contract : Contract) :
    ofVariable? contract.variableName = some contract := by
  cases contract <;> decide

end Contract

end Rollout
