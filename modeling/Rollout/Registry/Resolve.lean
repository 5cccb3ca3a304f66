import Rollout.Registry.Record
import Rollout.Session

/-!
# Resolving through the registry

A contract is resolved by looking it up, and by running a procedure that deploys it only if it has
no address yet. The address that the procedure answers with is recorded; if the procedure fails
nothing is. A registry is written to a file or to the output, and read back from a file.
-/

namespace Rollout.Registry

/-- Records the address that a value stands for in the session's registry. -/
def recordValue (contract : Contract) (value : Value) : Action Address := do
  let session ← get
  let (address, registry) ← Action.ofExcept (session.registry.record contract value)
  set { session with registry }
  Action.log (.recorded contract address)
  return address

/-- The address of a contract, deployed by a procedure if it has none yet. -/
def resolve (contract : Contract) (procedure : Action Value) : Action Address := do
  match (← get).registry.get? contract with
  | some address =>
    Action.notice
      ("Skipping deployment of " ++ contract.name ++ ", already deployed at " ++ address.text)
    Action.log (.found contract address)
    return address
  | none =>
    Action.notice ("\nDeploying " ++ contract.name ++ "...")
    Action.log (.called contract)
    let value ← procedure
    Action.log (.answered contract value)
    let address ← recordValue contract value
    Action.notice ("(i) Deployed " ++ contract.name ++ " at " ++ address.text)
    return address

/-- Writes text to a file, making the directories on the way. -/
def writeFile (path : File.Path) (content : String) : Action Unit := do
  let session ← get
  let parent := path.parent
  let (made, files) := session.files.makeDirectories parent.root parent.names
  set { session with files }
  Action.ofExcept made
  let files ← Action.ofExcept (files.write path.text (Utf8.encode content))
  modify fun session => { session with files }

/-- Runs an action, turning a problem with a file into the cause that the registry cannot be
written. -/
def namingFile (path : File.Path) (action : Action Unit) : Action Unit :=
  tryCatch action fun fault =>
    match fault with
    | .file problem =>
      throw (.deployment (.registryUnwritable path.text problem.message) none)
    | fault => throw fault

/-- Writes lines to a file, or to the output if no path is given. -/
def publish (entries : List RegistryEntry) (path : Option File.Path) : Action Unit := do
  let content := write entries
  match path with
  | none => Action.emit content
  | some path =>
    namingFile path (writeFile path content)
    Action.notice ("(i) Registry written to " ++ path.text ++ "!")

/-- The addresses in a file. -/
def load (path : String) : Action (List (Contract × Address)) := do
  let text ← Action.ofExcept ((← get).files.readText path)
  Action.ofExcept (read path text)

end Rollout.Registry
