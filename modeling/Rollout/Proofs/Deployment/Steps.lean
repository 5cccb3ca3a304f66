import Rollout.Proofs.Deployment.Run
import Rollout.Proofs.Resolution.Steps

/-!
# Relations that deployments keep to

A deployment first checks the supplied addresses and resolves its contracts (`prepare`), and then
publishes the registry. A relation that holds across each thing that is done to resolve a contract,
and across each thing that is done between the resolutions, is kept to by all that comes before the
registry is published (`KeptByDeploying.prepare`), and by the whole deployment if it holds across
publishing too (`KeptByDeploying.run`).
-/

namespace Rollout.Deployment

open Rollout.Action Resolution

variable {R : Session → Session → Prop} {s s' : Session} {deployment : Deployment}

/-- What a deployment does before the registry is published. -/
def prepare (deployment : Deployment) : Action Unit := do
  deployment.supply
  let _ ← Resolution.resolve .hotShot
  enter .standaloneDeployed
  let _ ← Resolution.resolve .lightClientProxy
  enter .proxyChainResolved

theorem steps_eq_prepare (deployment : Deployment) : deployment.steps = (do
    deployment.prepare
    deployment.publish
    enter .written) := by
  rw [steps_eq, prepare]
  simp only [bind_assoc]

/-- A deployment that checks no code is ready to publish once its two contracts are resolved. -/
theorem prepare_of_resolves {first second : Address} {standalone chained : Session}
    (hcheck : deployment.checkPredeployed = false)
    (hfirst : Resolution.resolve .hotShot s = .ok first standalone)
    (hsecond : Resolution.resolve .lightClientProxy
      { standalone with stage := .standaloneDeployed } = .ok second chained) :
    deployment.prepare s = .ok () { chained with stage := .proxyChainResolved } := by
  have hsupply : deployment.supply s = .ok () s := by
    rw [supply, hcheck]
    rfl
  refine (bind_of_ok hsupply).trans ((bind_of_ok hfirst).trans ?_)
  exact (bind_of_ok rfl).trans ((bind_of_ok hsecond).trans rfl)

/-- A deployment succeeds where its steps do. -/
theorem run_of_steps (h : deployment.steps s = .ok () s') :
    deployment.run s = .ok () { s' with stage := .done } := by
  rw [run_eq]
  exact (bind_of_ok (tryCatch_of_ok h)).trans rfl

/-- A deployment succeeds once its registry is published. -/
theorem run_of_prepare {prepared published : Session}
    (hprepare : deployment.prepare s = .ok () prepared)
    (hpublish : deployment.publish prepared = .ok () published) :
    deployment.run s = .ok () { published with stage := .done } := by
  have hsteps : deployment.steps s = .ok () { published with stage := .written } := by
    rw [steps_eq_prepare]
    exact (bind_of_ok hprepare).trans ((bind_of_ok hpublish).trans rfl)
  exact (run_of_steps hsteps).trans rfl

/-- The notice that a deployment was aborted after a stage. -/
def abortNotice (stage : Stage) : String :=
  "Deployment aborted after stage '" ++ stage.name ++ "'." ++ "\n"

/-- The session in which it is told that a deployment was aborted. -/
def aborted (s : Session) : Session :=
  { s with notices := s.notices ++ abortNotice s.stage, stage := .failed }

/-- Unless the user declines, a fault is reported, and it is passed on in any case. -/
theorem report_eq (fault : Fault) (s : Session) :
    Deployment.report fault s = .error fault (if fault = .refusal then s else aborted s) := by
  rw [Deployment.report]
  split <;> rfl

/-- A deployment fails where one of its steps does. -/
theorem run_of_error {fault : Fault} {mid : Session} (h : deployment.steps s = .error fault mid) :
    deployment.run s = .error fault (if fault = .refusal then mid else aborted mid) := by
  have hcatch : tryCatch deployment.steps Deployment.report s = _ :=
    (tryCatch_of_error h).trans (report_eq fault mid)
  rw [run_eq, bind_of_error hcatch]

theorem run_eq_error {fault : Fault} (h : deployment.run s = .error fault s') :
    ∃ mid notices stage,
      deployment.steps s = .error fault mid ∧ s' = { mid with notices, stage } := by
  cases hsteps : deployment.steps s with
  | ok _ mid =>
    have hcatch : tryCatch deployment.steps Deployment.report s = .ok () mid :=
      tryCatch_of_ok hsteps
    rw [run_eq, bind_of_ok hcatch] at h
    cases h
  | error first mid =>
    rw [run_of_error hsteps] at h
    cases h
    refine ⟨mid, ?_⟩
    split
    · exact ⟨mid.notices, mid.stage, rfl, rfl⟩
    · exact ⟨_, .failed, rfl, rfl⟩

/-- A relation holds across each thing that is done to check the supplied addresses. -/
structure KeptByChecking (R : Session → Session → Prop) : Prop where
  /-- Telling of what is done. -/
  converses : ∀ {s s'}, Client.OnlyConverses s s' → R s s'
  /-- Asking for the code at an address. -/
  inquires : ∀ (s : Session) (address : String), R s (accessing none .code (.code address) s)

/-- A relation holds across each thing that a deployment does before the registry is published. -/
structure KeptByDeploying (R : Session → Session → Prop) : Prop
    extends KeptByResolving R, KeptByChecking R where
  /-- Entering a stage. -/
  enters : ∀ (s : Session) (stage : Stage), R s { s with stage }

namespace KeptByChecking

variable [Follows R]

theorem checkCode (h : KeptByChecking R) (contract : Contract) :
    Keeps R (Deployment.checkCode contract) := by
  refine keeps_get.bind fun session => ((Client.notice_keeps _).mono h.converses).bind fun _ => ?_
  refine Keeps.bind (fun s => ?_) fun code => keeps_ite (keeps_throw _) (keeps_pure _)
  rw [Client.queryCode_after]
  exact h.inquires s _

theorem supply (h : KeptByChecking R) (deployment : Deployment) : Keeps R deployment.supply := by
  refine keeps_ite ?_ (keeps_pure ())
  refine keeps_get.bind fun session => Keeps.bind (keeps_forIn _ (fun contract b => ?_) _)
    fun _ => keeps_pure _
  exact (h.checkCode contract).bind fun _ => keeps_pure _

end KeptByChecking

namespace KeptByDeploying

theorem enter (h : KeptByDeploying R) (stage : Stage) : Keeps R (Deployment.enter stage) :=
  fun s => h.enters s stage

variable [Follows R]

/-- A relation that holds across each thing that a deployment does before the registry is published
is kept to by all of this, however it ends. -/
theorem prepare (h : KeptByDeploying R) (deployment : Deployment) : Keeps R deployment.prepare := by
  refine (h.toKeptByChecking.supply deployment).bind fun _ => ?_
  refine (h.toKeptByResolving.resolve .hotShot).bind fun _ => ?_
  refine (h.enter .standaloneDeployed).bind fun _ => ?_
  exact (h.toKeptByResolving.resolve .lightClientProxy).bind fun _ => h.enter .proxyChainResolved

theorem report (h : KeptByDeploying R) (fault : Fault) : Keeps R (Deployment.report fault) := by
  refine keeps_ite (keeps_throw fault) (keeps_get.bind fun session => ?_)
  refine ((Client.notice_keeps _).mono h.converses).bind fun _ => ?_
  exact (h.enter .failed).bind fun _ => keeps_throw fault

/-- If it holds across publishing too, it is kept to by the whole deployment. -/
theorem run (h : KeptByDeploying R)
    (publishes : ∀ {s s' : Session}, Registry.OnlyPublishes s s' → R s s')
    (deployment : Deployment) : Keeps R deployment.run := by
  have hpublish : Keeps R deployment.publish :=
    keeps_get.bind fun session => (Registry.publish_keeps _ _).mono publishes
  have hsteps : Keeps R deployment.steps := by
    rw [steps_eq_prepare]
    exact (h.prepare deployment).bind fun _ => hpublish.bind fun _ => h.enter .written
  rw [run_eq]
  exact (hsteps.tryCatch h.report).bind fun _ => h.enter .done

end KeptByDeploying

end Rollout.Deployment
