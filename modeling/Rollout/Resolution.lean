import Rollout.Abi.Call
import Rollout.Client
import Rollout.Registry.Resolve

/-!
# Resolving contracts with their dependencies

A contract is resolved after the contracts that it depends on, each through the registry, so that
none is deployed twice. A contract without dependencies is created from its artifact. The light
client is created from its bytecode, linked against its libraries. The proxy is created with the
address of the light client and the call that initializes it with the genesis state.
-/

namespace Rollout.Resolution

/-- The function of the light client that initializes it. -/
def initializer : String := "initialize"

/-- The number of blocks in an epoch with which the light client is initialized: the greatest number
of thirty-two bits. -/
def blocksPerEpoch : Int := 0xFFFFFFFF

/-- The addresses of the libraries among some contracts, by the names under which the compiler
refers to them. -/
def libraryAddresses (dependencies : List (Contract × Address)) : List (LibraryName × Address) :=
  dependencies.filterMap fun (contract, address) =>
    contract.library?.map fun library => (library, address)

/-- Creates the light client. -/
def deployLightClient (dependencies : List (Contract × Address)) : Action Address := do
  let artifact ← Action.artifact .lightClient
  let bytecode ← Action.ofExcept (artifact.bytecode.link (libraryAddresses dependencies))
  Client.deployBytecode .lightClient bytecode

/-- Creates the proxy in front of a light client. -/
def deployProxy (lightClient : Address) : Action Address := do
  let artifact ← Action.artifact .lightClient
  let genesis ← Action.genesis
  let call ← Action.ofExcept (Abi.encodeCall (some .lightClientProxy) artifact.interface initializer
    [genesis.argument, .integer blocksPerEpoch])
  Action.notice
    ("\nWrapping " ++ Contract.lightClient.artifact ++ " at " ++ lightClient.text ++ " into "
      ++ Contract.lightClientProxy.artifact ++ ".")
  Client.deployArtifact .lightClientProxy [.text lightClient.text, .octets call]

/-- Creates a contract whose dependencies are in place. -/
def deploy (contract : Contract) (dependencies : List (Contract × Address)) : Action Address :=
  match contract, dependencies with
  | .lightClient, dependencies => deployLightClient dependencies
  | .lightClientProxy, (_, lightClient) :: _ => deployProxy lightClient
  | contract, _ => Client.deployArtifact contract []

/-- The address of a contract, deployed after its dependencies if it has none yet. -/
def resolve (contract : Contract) : Action Address :=
  Registry.resolve contract do
    let dependencies ← contract.dependencies.attach.mapM fun ⟨dependency, _⟩ => do
      return (dependency, ← resolve dependency)
    let address ← deploy contract dependencies
    return .text address.text
termination_by contract.height
decreasing_by exact Contract.height_lt_of_mem_dependencies ‹_›

end Rollout.Resolution
