import Rollout.Artifact
import Rollout.Proofs.File.Tree

/-!
# Reading artifacts

Each step of reading an artifact ends with bytecode of the contract, or it is told of which contract
there is none (`tells_bytecodeOf`, `tells_ofDocument`), unless the document is too deep (`tells_load`).
-/

namespace Rollout.Artifact

variable {nesting : Nat} {files : File.Tree} {path : String} {contract : Contract}

/-- What is read is bytecode of a contract, or it is told that the artifact of this contract is no good. -/
def Tells (contract : Contract) : Except Fault Bytecode → Prop
  | .ok bytecode => bytecode.contract = some contract
  | .error fault => ∃ cause, fault = .deployment cause (some contract) ∧ cause.family = .artifact

theorem tells_bytecodeOf (contract : Contract) (value : Value) :
    Tells contract (bytecodeOf contract value) := by
  have habsent : Tells contract (.error (.deployment .noBytecode (some contract))) := ⟨_, rfl, rfl⟩
  cases value with
  | text object => rfl
  | record fields =>
    unfold bytecodeOf
    dsimp only
    split
    · rfl
    · exact habsent
  | _ => exact habsent

theorem tells_ofDocument (contract : Contract) (path : String) (document : Value) :
    Tells contract ((ofDocument contract path document).map bytecode) := by
  unfold ofDocument
  split
  · split
    · next interface value _ _ =>
      have hvalue := tells_bytecodeOf contract value
      cases hbytecode : bytecodeOf contract value with
      | error fault =>
        rw [hbytecode] at hvalue
        exact hvalue
      | ok found =>
        rw [hbytecode] at hvalue
        exact hvalue
    · exact ⟨_, rfl, rfl⟩
  · exact ⟨_, rfl, rfl⟩

/-- A document is what its text says. -/
theorem documentAt_of_read {text : String} {document : Value}
    (hread : files.read path = .ok (Utf8.encode text)) (hreturn : '\r' ∉ text.toList)
    (hparse : Json.parse nesting text.toList = .ok document) :
    documentAt nesting files path = .ok document := by
  rw [documentAt, File.Tree.readText_of_read hread hreturn]
  show (Json.parse nesting text.toList).mapError faultOf = _
  rw [hparse]
  rfl

/-- If there is a document, the artifact is what the document describes. -/
theorem load_of_holds (hholds : files.holds path = .ok true) (contract : Contract) :
    load nesting files contract path = match documentAt nesting files path with
      | .error .tooDeep => .error .tooDeep
      | .error fault =>
        .error (.deployment (.artifactUnreadable path fault.text) (some contract))
      | .ok document => ofDocument contract path document := by
  unfold load
  rw [hholds]
  rfl

/-- As long as it can be told whether there is a document, it is told of which contract there is no
artifact, unless the document is too deep. -/
theorem tells_load {found : Bool} (hholds : files.holds path = .ok found)
    (hdeep : load nesting files contract path ≠ .error .tooDeep) :
    Tells contract ((load nesting files contract path).map bytecode) := by
  cases found with
  | false =>
    have hload : load nesting files contract path =
        .error (.deployment (.artifactMissing path) (some contract)) := by
      unfold load
      rw [hholds]
      rfl
    rw [hload]
    exact ⟨_, rfl, rfl⟩
  | true =>
    rw [load_of_holds hholds] at hdeep ⊢
    split at hdeep
    · exact absurd rfl hdeep
    · exact ⟨_, rfl, rfl⟩
    · next document _ => exact tells_ofDocument contract path document

end Rollout.Artifact
