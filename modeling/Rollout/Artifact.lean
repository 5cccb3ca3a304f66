import Rollout.Bytecode
import Rollout.File.Tree
import Rollout.Json.Parser

/-!
# Build artifacts

The compiler leaves one document for each contract, with the contract's interface and bytecode. A
store reads a document when it is first asked for, and answers with the same artifact from then on.
-/

namespace Rollout

/-- What the compiler leaves of a contract. -/
structure Artifact where
  /-- The contract. -/
  contract : Contract
  /-- The interface of the contract, as it stands in the document. -/
  interface : Value
  /-- The bytecode of the contract. -/
  bytecode : Bytecode

namespace Artifact

/-- The bytecode that a part of a document describes: a text, or a record with the text and what the
compiler says about libraries. -/
def bytecodeOf (contract : Contract) (value : Value) : Except Fault Bytecode :=
  let absent : Except Fault Bytecode := .error (.deployment .noBytecode (some contract))
  match value with
  | .text object => .ok { object, contract := some contract }
  | .record fields =>
    match Fields.get? fields "object" with
    | some (.text object) =>
      let references := (Fields.get? fields "linkReferences").getD .null
      let references := if references.isVacant then .record [] else references
      .ok { object, references, contract := some contract }
    | _ => absent
  | _ => absent

/-- The artifact that the document at a path describes. -/
def ofDocument (contract : Contract) (path : String) (document : Value) : Except Fault Artifact :=
  let incomplete : Except Fault Artifact :=
    .error (.deployment (.artifactIncomplete path) (some contract))
  match document with
  | .record fields =>
    match Fields.get? fields "abi", Fields.get? fields "bytecode" with
    | some interface, some value => do
      return { contract, interface, bytecode := ← bytecodeOf contract value }
    | _, _ => incomplete
  | _ => incomplete

/-- The fault of a text that is no document, or one that is too deep. -/
def faultOf (flaw : Json.Flaw) : Fault :=
  match flaw.problem with
  | .tooDeep => .tooDeep
  | _ => .invalidValue flaw.message

/-- The document at a path, read up to a depth. -/
def documentAt (nesting : Nat) (files : File.Tree) (path : String) : Except Fault Value := do
  let text ← files.readText path
  (Json.parse nesting text).mapError faultOf

/-- The artifact of a contract, read from the document at a path. A document that is too deep is no
malformed artifact. -/
def load (nesting : Nat) (files : File.Tree) (contract : Contract) (path : String) :
    Except Fault Artifact := do
  if ← files.holds path then
    match documentAt nesting files path with
    | .error .tooDeep => .error .tooDeep
    | .error fault =>
      .error (.deployment (.artifactUnreadable path fault.text) (some contract))
    | .ok document => ofDocument contract path document
  else .error (.deployment (.artifactMissing path) (some contract))

end Artifact

/-- A directory of build artifacts, and the artifacts read from it so far. -/
structure ArtifactStore where
  /-- The directory. -/
  directory : File.Path
  /-- How deep lists and records may lie in each other in a document. -/
  nesting : Nat := Json.nestingLimit
  /-- The artifacts read so far. -/
  known : List (Contract × Artifact) := []

namespace ArtifactStore

/-- The path of a contract's document. -/
def path (store : ArtifactStore) (contract : Contract) : File.Path :=
  (store.directory.child (contract.artifact ++ ".sol")).child (contract.artifact ++ ".json")

/-- The artifact of a contract, and the store that knows it. -/
def get (store : ArtifactStore) (files : File.Tree) (contract : Contract) :
    Except Fault (Artifact × ArtifactStore) :=
  match store.known.lookup contract with
  | some artifact => .ok (artifact, store)
  | none => do
    let artifact ← Artifact.load store.nesting files contract (store.path contract).text
    return (artifact, { store with known := (contract, artifact) :: store.known })

end ArtifactStore

end Rollout
