import Rollout.Proofs.Action
import Rollout.Proofs.Artifact.Document

/-!
# Histories of a store

A store is asked for artifacts while its files change. An artifact is read anew whenever it is asked
for, from what the files hold at the time, until it could be read once; from then on the answer stays
the same. The answer for one contract does not depend on which others were asked for
(`readsUntilKnown`).
-/

namespace Rollout.ArtifactStore

open File (Place Tree)

/-! ## Steps -/

/-- What happens while a store is in use. -/
inductive Step where
  /-- An artifact is asked for. -/
  | get (contract : Contract)
  /-- Something is done to the files. -/
  | alter (change : Tree → Tree)

namespace Step

/-- A file is written, if it can be. -/
def write (text : String) (content : Octets) : Step :=
  alter fun files => (files.write text content).toOption.getD files

/-- What stands at a place is taken away. -/
def delete (place : Place) : Step := alter fun files => files.remove place

/-- The session after a step. -/
def act (s : Session) : Step → Session
  | get contract => (Action.artifact contract).after s
  | alter change => { s with files := change s.files }

/-- Tells whether a step is more than asking for the artifact of another contract. -/
def concerns (contract : Contract) : Step → Bool
  | get other => other = contract
  | alter _ => true

end Step

/-- The session after some steps. -/
def afterSteps (s : Session) (steps : List Step) : Session := steps.foldl Step.act s

/-- What comes of asking for an artifact after some steps. -/
def outcome (s : Session) (steps : List Step) (contract : Contract) : Except Fault Artifact :=
  (Action.artifact contract).result (afterSteps s steps)

/-- Among some steps, the artifact of a contract was never asked for with success. -/
def NoneYet (s : Session) (steps : List Step) (contract : Contract) : Prop :=
  ∀ before, before ++ [.get contract] <+: steps → ∃ fault, outcome s before contract = .error fault

variable {s t : Session} {contract other : Contract} {step : Step} {steps before : List Step}
  {artifact : Artifact} {fault : Fault}

theorem afterSteps_concat (s : Session) (steps : List Step) (step : Step) :
    afterSteps s (steps ++ [step]) = step.act (afterSteps s steps) := by
  rw [afterSteps, List.foldl_append]
  rfl

/-! ## Asking once -/

/-- The artifact of a contract that a session knows. -/
def recalled (s : Session) (contract : Contract) : Option Artifact :=
  s.artifacts.known.lookup contract

/-- What comes of reading the artifact of a contract from the files of a session. -/
def loaded (s : Session) (contract : Contract) : Except Fault Artifact :=
  Artifact.load s.artifacts.nesting s.files contract (s.artifacts.path contract).text

/-- Asked for an artifact, a session answers with the one that it knows. If it knows none, it answers
with the one that it reads, and knows it from then on. -/
theorem ask_cases (contract : Contract) (s : Session) :
    (∃ artifact, recalled s contract = some artifact ∧
      Action.artifact contract s = .ok artifact s) ∨
    (∃ artifact, recalled s contract = none ∧ loaded s contract = .ok artifact ∧
      Action.artifact contract s =
        .ok artifact { s with artifacts.known := (contract, artifact) :: s.artifacts.known }) ∨
    ∃ fault, recalled s contract = none ∧ loaded s contract = .error fault ∧
      Action.artifact contract s = .error fault s := by
  cases hknown : recalled s contract with
  | some artifact =>
    have hget : s.artifacts.get s.files contract = .ok (artifact, s.artifacts) := by
      rw [recalled] at hknown
      rw [get, hknown]
    exact Or.inl ⟨artifact, rfl, Action.artifact_of_get hget⟩
  | none =>
    have hget : s.artifacts.get s.files contract = loaded s contract >>= fun artifact =>
        .ok (artifact, { s.artifacts with known := (contract, artifact) :: s.artifacts.known }) := by
      rw [recalled] at hknown
      rw [get, hknown]
      rfl
    cases hload : loaded s contract with
    | ok artifact =>
      rw [hload] at hget
      exact Or.inr (Or.inl ⟨artifact, rfl, rfl, Action.artifact_of_get hget⟩)
    | error fault =>
      rw [hload] at hget
      exact Or.inr (Or.inr ⟨fault, rfl, rfl, Action.artifact_of_error hget⟩)

theorem result_of_some (h : recalled s contract = some artifact) :
    (Action.artifact contract).result s = .ok artifact := by
  rcases ask_cases contract s with ⟨_, hknown, hask⟩ | ⟨_, hknown, -⟩ | ⟨_, hknown, -⟩
  · obtain rfl := Option.some.inj (h.symm.trans hknown)
    exact Action.result_of_ok hask
  · cases h.symm.trans hknown
  · cases h.symm.trans hknown

theorem result_of_none (h : recalled s contract = none) :
    (Action.artifact contract).result s = loaded s contract := by
  rcases ask_cases contract s with ⟨_, hknown, -⟩ | ⟨_, -, hload, hask⟩ | ⟨_, -, hload, hask⟩
  · cases h.symm.trans hknown
  · rw [hload, Action.result_of_ok hask]
  · rw [hload, Action.result_of_error hask]

/-- Where there is no answer, nothing is remembered. -/
theorem after_of_result_error (h : (Action.artifact contract).result s = .error fault) :
    (Action.artifact contract).after s = s := by
  rcases ask_cases contract s with ⟨_, -, hask⟩ | ⟨_, -, -, hask⟩ | ⟨_, -, -, hask⟩
  · exact Action.after_of_ok hask
  · rw [Action.result_of_ok hask] at h
    cases h
  · exact Action.after_of_error hask

/-- An answer is known from then on. -/
theorem recalled_after (contract : Contract) (s : Session) :
    recalled ((Action.artifact contract).after s) contract =
      ((Action.artifact contract).result s).toOption := by
  rcases ask_cases contract s with ⟨_, hknown, hask⟩ | ⟨_, -, -, hask⟩ | ⟨_, hknown, -, hask⟩
  · rw [Action.after_of_ok hask, Action.result_of_ok hask, hknown]
    rfl
  · rw [Action.after_of_ok hask, Action.result_of_ok hask, recalled, List.lookup_cons_self]
    rfl
  · rw [Action.after_of_error hask, Action.result_of_error hask, hknown]
    rfl

/-- What is known of other contracts stays as it is. -/
theorem recalled_after_other (h : other ≠ contract) (s : Session) :
    recalled ((Action.artifact contract).after s) other = recalled s other := by
  rcases ask_cases contract s with ⟨_, -, hask⟩ | ⟨_, -, -, hask⟩ | ⟨_, -, -, hask⟩
  · rw [Action.after_of_ok hask]
  · have hdiffer : (other == contract) = false := by simp [h]
    rw [Action.after_of_ok hask, recalled, List.lookup_cons, hdiffer]
    rfl
  · rw [Action.after_of_error hask]

/-- Asking for an artifact changes neither the files nor the store but for what it knows. -/
structure Framed (s s' : Session) : Prop where
  files : s'.files = s.files
  directory : s'.artifacts.directory = s.artifacts.directory
  nesting : s'.artifacts.nesting = s.artifacts.nesting

theorem framed_after (contract : Contract) (s : Session) :
    Framed s ((Action.artifact contract).after s) := by
  rcases ask_cases contract s with ⟨_, -, hask⟩ | ⟨_, -, -, hask⟩ | ⟨_, -, -, hask⟩
  · rw [Action.after_of_ok hask]
    exact ⟨rfl, rfl, rfl⟩
  · rw [Action.after_of_ok hask]
    exact ⟨rfl, rfl, rfl⟩
  · rw [Action.after_of_error hask]
    exact ⟨rfl, rfl, rfl⟩

/-! ## What is known after some steps -/

theorem recalled_act_of_some (h : recalled s contract = some artifact) (step : Step) :
    recalled (step.act s) contract = some artifact := by
  cases step with
  | get other =>
    show recalled ((Action.artifact other).after s) contract = some artifact
    by_cases hsame : contract = other
    · subst hsame
      rw [recalled_after, result_of_some h]
      rfl
    · rw [recalled_after_other hsame, h]
  | alter change => exact h

/-- What is known after a step was known before, or it was asked for with success. -/
theorem recalled_of_act (h : recalled (step.act s) contract = some artifact) :
    recalled s contract = some artifact ∨ recalled s contract = none ∧ step = .get contract ∧
      (Action.artifact contract).result s = .ok artifact := by
  cases hknown : recalled s contract with
  | some known =>
    have hkept := recalled_act_of_some hknown step
    exact Or.inl (hkept.symm.trans h)
  | none =>
    cases step with
    | get other =>
      have hafter : recalled ((Action.artifact other).after s) contract = some artifact := h
      by_cases hsame : contract = other
      · subst hsame
        rw [recalled_after] at hafter
        exact Or.inr ⟨rfl, rfl, except_toOption_eq_some.1 hafter⟩
      · rw [recalled_after_other hsame, hknown] at hafter
        cases hafter
    | alter change => cases hknown.symm.trans h

/-- What is known stays known. -/
theorem recalled_afterSteps (h : recalled s contract = some artifact) (steps : List Step) :
    recalled (afterSteps s steps) contract = some artifact := by
  induction steps generalizing s with
  | nil => exact h
  | cons step rest ih => exact ih (recalled_act_of_some h step)

/-- What is known after some steps, but not before, was asked for among them, and then it was read. -/
theorem exists_read (hnew : recalled s contract = none)
    (h : recalled (afterSteps s steps) contract = some artifact) :
    ∃ before, before ++ [.get contract] <+: steps ∧ recalled (afterSteps s before) contract = none ∧
      outcome s before contract = .ok artifact := by
  induction steps using List.reverseRecOn with
  | nil => cases hnew.symm.trans h
  | append_singleton steps step ih =>
    rw [afterSteps_concat] at h
    -- It was known before the last step already, or it was read in this step.
    rcases recalled_of_act h with hbefore | ⟨hnone, rfl, hread⟩
    · obtain ⟨before, hinitial, hfirst⟩ := ih hbefore
      exact ⟨before, hinitial.trans (List.prefix_append steps [step]), hfirst⟩
    · exact ⟨steps, List.prefix_rfl, hnone, hread⟩

theorem recalled_of_noneYet (hnew : recalled s contract = none) (h : NoneYet s steps contract) :
    recalled (afterSteps s steps) contract = none := by
  cases hknown : recalled (afterSteps s steps) contract with
  | none => rfl
  | some artifact =>
    obtain ⟨before, hinitial, -, hread⟩ := exists_read hnew hknown
    obtain ⟨fault, hfault⟩ := h before hinitial
    cases hfault.symm.trans hread

/-- What was answered once is answered from then on. -/
theorem outcome_kept (h : outcome s before contract = .ok artifact)
    (hinitial : before ++ [.get contract] <+: steps) : outcome s steps contract = .ok artifact := by
  obtain ⟨later, rfl⟩ := hinitial
  have hknown : recalled (afterSteps s (before ++ [.get contract])) contract = some artifact := by
    rw [afterSteps_concat]
    show recalled ((Action.artifact contract).after (afterSteps s before)) contract = _
    rw [recalled_after]
    show (outcome s before contract).toOption = some artifact
    rw [h]
    rfl
  have hkept := recalled_afterSteps hknown later
  have happend : afterSteps s (before ++ [.get contract] ++ later) =
      afterSteps (afterSteps s (before ++ [.get contract])) later := List.foldl_append
  rw [outcome, happend]
  exact result_of_some hkept

/-- The store looks in the same directory, and reads just as deep, after any steps. -/
theorem store_afterSteps (s : Session) (steps : List Step) :
    (afterSteps s steps).artifacts.directory = s.artifacts.directory ∧
      (afterSteps s steps).artifacts.nesting = s.artifacts.nesting := by
  induction steps generalizing s with
  | nil => exact ⟨rfl, rfl⟩
  | cons step rest ih =>
    have hstep : (step.act s).artifacts.directory = s.artifacts.directory ∧
        (step.act s).artifacts.nesting = s.artifacts.nesting := by
      cases step with
      | get contract => exact ⟨(framed_after contract s).directory, (framed_after contract s).nesting⟩
      | alter change => exact ⟨rfl, rfl⟩
    exact ⟨(ih (step.act s)).1.trans hstep.1, (ih (step.act s)).2.trans hstep.2⟩

/-! ## Contracts apart from each other -/

/-- Two sessions are alike in all that decides what comes of asking for the artifact of a contract. -/
structure Alike (contract : Contract) (s t : Session) : Prop where
  files : s.files = t.files
  directory : s.artifacts.directory = t.artifacts.directory
  nesting : s.artifacts.nesting = t.artifacts.nesting
  recalled : recalled s contract = recalled t contract

theorem Alike.loaded (h : Alike contract s t) : loaded s contract = loaded t contract := by
  rw [ArtifactStore.loaded, ArtifactStore.loaded, path, path, h.files, h.directory, h.nesting]

theorem Alike.result (h : Alike contract s t) :
    (Action.artifact contract).result s = (Action.artifact contract).result t := by
  cases hknown : ArtifactStore.recalled t contract with
  | some artifact => rw [result_of_some hknown, result_of_some (h.recalled.trans hknown)]
  | none => rw [result_of_none hknown, result_of_none (h.recalled.trans hknown), h.loaded]

/-- Sessions that are alike stay alike if the same is done in both. -/
theorem Alike.act (h : Alike contract s t) (hconcerns : step.concerns contract = true) :
    Alike contract (step.act s) (step.act t) := by
  cases step with
  | get other =>
    obtain rfl : other = contract := of_decide_eq_true hconcerns
    have hframed := framed_after other s
    have hframed' := framed_after other t
    refine ⟨?_, ?_, ?_, ?_⟩
    · exact hframed.files.trans (h.files.trans hframed'.files.symm)
    · exact hframed.directory.trans (h.directory.trans hframed'.directory.symm)
    · exact hframed.nesting.trans (h.nesting.trans hframed'.nesting.symm)
    · exact (recalled_after other s).trans
        ((congrArg Except.toOption h.result).trans (recalled_after other t).symm)
  | alter change => exact ⟨congrArg change h.files, h.directory, h.nesting, h.recalled⟩

/-- Sessions that are alike stay alike if another contract is asked for in one of them. -/
theorem Alike.act_other (h : Alike contract s t) (hconcerns : step.concerns contract = false) :
    Alike contract (step.act s) t := by
  cases step with
  | get other =>
    have hdiffer : contract ≠ other := fun hsame => of_decide_eq_false hconcerns hsame.symm
    have hframed := framed_after other s
    exact ⟨hframed.files.trans h.files, hframed.directory.trans h.directory,
      hframed.nesting.trans h.nesting, (recalled_after_other hdiffer s).trans h.recalled⟩
  | alter change => cases hconcerns

/-- Asking for other contracts leaves everything alike. -/
theorem Alike.afterSteps (h : Alike contract s t) (steps : List Step) :
    Alike contract (afterSteps s steps)
      (ArtifactStore.afterSteps t (steps.filter (·.concerns contract))) := by
  induction steps generalizing s t with
  | nil => exact h
  | cons step rest ih =>
    cases hconcerns : step.concerns contract with
    | true =>
      rw [List.filter_cons_of_pos hconcerns]
      exact ih (h.act hconcerns)
    | false =>
      -- The second session does not take this step.
      rw [List.filter_cons_of_neg (by simp [hconcerns])]
      exact ih (h.act_other hconcerns)

/-! ## Stores that have just been opened -/

/-- The session in which a store of the artifacts in a directory is opened, which reads documents as
deep as the session does. -/
def opened (s : Session) (directory : String) : Session :=
  { s with artifacts := { directory := .ofText directory, nesting := s.artifacts.nesting } }

/-- A store answers by the files as long as it knows nothing better, and then by what it knows. -/
structure ReadsUntilKnown (s : Session) : Prop where
  /-- As long as asking for an artifact had no success, it comes to what comes of reading what stands
  at the path of the document at the time. -/
  reads : ∀ steps contract, NoneYet s steps contract →
    Artifact.Reads s.artifacts.nesting contract (s.artifacts.path contract).text
      ((afterSteps s steps).files.look (s.artifacts.path contract).text) (outcome s steps contract)
  /-- What happened before makes no difference then. -/
  present : ∀ steps steps' contract, NoneYet s steps contract → NoneYet s steps' contract →
    (afterSteps s steps).files.look (s.artifacts.path contract).text =
      (afterSteps s steps').files.look (s.artifacts.path contract).text →
    outcome s steps contract = outcome s steps' contract
  /-- What comes of it is an artifact of the contract, or a fault that tells that there is none, as long
  as what stands at the path of the document is not too deep. -/
  answers : ∀ steps contract, Artifact.Within s.artifacts.nesting
      ((afterSteps s steps).files.look (s.artifacts.path contract).text) →
    Artifact.Answers contract (outcome s steps contract)
  /-- Asking without success changes nothing. -/
  forgets : ∀ steps contract fault, outcome s steps contract = .error fault →
    afterSteps s (steps ++ [.get contract]) = afterSteps s steps
  /-- Once there was an answer, the answer is always the same. -/
  keeps : ∀ before steps contract artifact, outcome s before contract = .ok artifact →
    before ++ [.get contract] <+: steps → outcome s steps contract = .ok artifact
  /-- It makes no difference which others are asked for. -/
  apart : ∀ steps contract,
    outcome s steps contract = outcome s (steps.filter (·.concerns contract)) contract

theorem spelled_path {store : ArtifactStore} (h : store.directory.Spelled) (contract : Contract) :
    (store.path contract).Spelled := by
  refine (h.child ?_).child ?_ <;> cases contract <;> decide

/-- A store that does not know an artifact reads it from what stands at the path of its document. -/
theorem reads_of_unknown (hspelled : (s.artifacts.path contract).Spelled)
    (hshort : Tree.Short (s.artifacts.path contract))
    (hnone : recalled (afterSteps s steps) contract = none) {result : Except Fault Artifact} :
    outcome s steps contract = result ↔
      Artifact.Reads s.artifacts.nesting contract (s.artifacts.path contract).text
        ((afterSteps s steps).files.look (s.artifacts.path contract).text) result := by
  obtain ⟨hdirectory, hnesting⟩ := store_afterSteps s steps
  have hpath : (afterSteps s steps).artifacts.path contract = s.artifacts.path contract := by
    rw [path, path, hdirectory]
  rw [outcome, result_of_none hnone, loaded, hpath, hnesting]
  exact Artifact.load_eq_iff fun fault => Artifact.absent_of_short hspelled hshort

/-- **Reading until known.** A store whose paths are not too long answers by what the files hold until
it has answered once, and then always in the same way. -/
theorem readsUntilKnown (s : Session) {directory : String}
    (ordinary : ∀ contract, Tree.Short ((opened s directory).artifacts.path contract)) :
    ReadsUntilKnown (opened s directory) := by
  have hspelled : ∀ contract, ((opened s directory).artifacts.path contract).Spelled :=
    spelled_path (File.Path.spelled_ofText directory)
  have hnew : ∀ contract, recalled (opened s directory) contract = none := fun _ => rfl
  refine { reads := ?reads, present := ?present, answers := ?answers, forgets := ?forgets,
           keeps := fun _ _ _ _ => outcome_kept, apart := ?apart }
  case reads =>
    intro steps contract h
    have hnone := recalled_of_noneYet (hnew contract) h
    exact (reads_of_unknown (hspelled contract) (ordinary contract) hnone).1 rfl
  case present =>
    intro steps steps' contract h h' hsame
    have hnone := recalled_of_noneYet (hnew contract) h
    have hnone' := recalled_of_noneYet (hnew contract) h'
    rw [reads_of_unknown (hspelled contract) (ordinary contract) hnone, hsame]
    exact (reads_of_unknown (hspelled contract) (ordinary contract) hnone').1 rfl
  case answers =>
    intro steps contract hwithin
    cases hknown : recalled (afterSteps (opened s directory) steps) contract with
    | none =>
      have hreads := (reads_of_unknown (hspelled contract) (ordinary contract) hknown).1 rfl
      exact hreads.answers (hreads.ne_tooDeep hwithin)
    | some artifact =>
      -- What is known is what was read when it was asked for with success the first time.
      obtain ⟨before, hinitial, hnone, hread⟩ := exists_read (hnew contract) hknown
      rw [outcome_kept hread hinitial]
      have hreads := (reads_of_unknown (hspelled contract) (ordinary contract) hnone).1 hread
      exact hreads.answers (by simp)
  case forgets =>
    intro steps contract fault h
    rw [afterSteps_concat]
    exact after_of_result_error h
  case apart =>
    intro steps contract
    have halike : Alike contract (opened s directory) (opened s directory) := ⟨rfl, rfl, rfl, rfl⟩
    exact (halike.afterSteps steps).result

/-- A session in which the directory of the consensus contract's artifact is empty. -/
def cleared : Session where
  files := ⟨[(["out"], .directory), (["out", "HotShot.sol"], .directory)]⟩

/-- The artifact of the consensus contract is asked for before there is a document and while there is
a damaged one. Then the document is repaired. -/
def repair (document : String) : List Step :=
  [.get .hotShot, .write "out/HotShot.sol/HotShot.json" [0xFF], .get .hotShot,
    .write "out/HotShot.sol/HotShot.json" (Utf8.encode document)]

theorem noneYet_repair (document : String) :
    NoneYet (opened cleared "out") (repair document) .hotShot := by
  have hmissing : ∃ fault, outcome (opened cleared "out") [] .hotShot = .error fault := ⟨_, rfl⟩
  have hdamaged : ∃ fault, outcome (opened cleared "out")
      [.get .hotShot, .write "out/HotShot.sol/HotShot.json" [0xFF]] .hotShot = .error fault :=
    ⟨_, rfl⟩
  rintro before ⟨later, hsteps⟩
  rcases before with _ | ⟨first, _ | ⟨second, _ | ⟨third, _ | ⟨fourth, rest⟩⟩⟩⟩
  · exact hmissing
  · cases hsteps
  · cases hsteps
    exact hdamaged
  · cases hsteps
  · simp [repair] at hsteps

theorem outcome_repair (document : String) (fields : Fields) (hreturn : '\r' ∉ document.toList)
    (hparse : Json.parse Json.nestingLimit document.toList = .ok (.record fields)) :
    outcome (opened cleared "out") (repair document) .hotShot =
      Artifact.ofDocument .hotShot "out/HotShot.sol/HotShot.json" (.record fields) := by
  have hunknown := recalled_of_noneYet rfl (noneYet_repair document)
  have hdocument : Artifact.documentAt cleared.artifacts.nesting
      (afterSteps (opened cleared "out") (repair document)).files "out/HotShot.sol/HotShot.json" =
        .ok (.record fields) := Artifact.documentAt_of_read rfl hreturn hparse
  have hpath : ((afterSteps (opened cleared "out") (repair document)).artifacts.path .hotShot).text =
      "out/HotShot.sol/HotShot.json" := rfl
  have hnesting : (afterSteps (opened cleared "out") (repair document)).artifacts.nesting =
      cleared.artifacts.nesting := rfl
  rw [outcome, result_of_none hunknown, loaded, hpath, hnesting, Artifact.load_of_holds rfl,
    hdocument]

/-- What was read from the repaired document is answered even when the document is gone. -/
theorem readsUntilKnown_of_repair :
    let steps := repair "\x7b\"abi\":[],\"bytecode\":\"0x6001\"\x7d"
    let s := opened cleared "out"
    let artifact : Artifact :=
      ⟨.hotShot, .list [], { object := "0x6001", contract := some .hotShot }⟩
    (∀ contract, Tree.Short (s.artifacts.path contract)) ∧ ReadsUntilKnown s ∧
      NoneYet s steps .hotShot ∧ outcome s steps .hotShot = .ok artifact ∧
      outcome s (steps ++ [.get .hotShot, .delete ["out", "HotShot.sol", "HotShot.json"]])
        .hotShot = .ok artifact := by
  intro steps s artifact
  have hordinary : ∀ contract, Tree.Short (s.artifacts.path contract) := by
    intro contract
    cases contract <;> exact ⟨by decide, by decide⟩
  have hreads := readsUntilKnown cleared hordinary
  have hread : outcome s steps .hotShot = .ok artifact :=
    outcome_repair _ [("abi", .list []), ("bytecode", .text "0x6001")] (by decide) (by cbv)
  have hinitial : steps ++ [.get .hotShot] <+:
      steps ++ [.get .hotShot, .delete ["out", "HotShot.sol", "HotShot.json"]] :=
    ⟨[_], List.append_assoc _ _ _⟩
  exact ⟨hordinary, hreads, noneYet_repair _, hread,
    hreads.keeps steps _ .hotShot artifact hread hinitial⟩

end Rollout.ArtifactStore
