import Rollout.Proofs.Deployment.Output

/-!
# The stages of a deployment

A deployment passes through its stages in order, doing the work of each one before it enters the next
one (`Reaches`). It is done exactly when it returns (`run_staged`). If the work of a stage fails, the
fault is passed on; it is told after which stage the deployment was aborted, and the deployment has
failed, unless the user declined: then nothing is told, and the deployment stays at its stage
(`not_always_failed`).
-/

namespace Rollout

/-- The stage that is entered once the work of a stage is done. -/
def Stage.next? : Stage → Option Stage
  | .start => some .standaloneDeployed
  | .standaloneDeployed => some .proxyChainResolved
  | .proxyChainResolved => some .written
  | .written => some .done
  | .done | .failed => none

namespace Deployment

open Rollout.Action Resolution

variable {deployment : Deployment} {s s' mid : Session} {stage following : Stage} {fault : Fault}

/-! ## The work of a stage -/

/-- What is done at a stage before the next one is entered. -/
def work (deployment : Deployment) : Stage → Action Unit
  | .start => do
    deployment.supply
    let _ ← Resolution.resolve .hotShot
    return ()
  | .standaloneDeployed => do
    let _ ← Resolution.resolve .lightClientProxy
    return ()
  | .proxyChainResolved => deployment.publish
  | .written | .done | .failed => pure ()

/-- What leads from a stage to the next one. -/
def pass (deployment : Deployment) (stage following : Stage) : Action Unit := do
  deployment.work stage
  enter following

theorem steps_eq_pass (deployment : Deployment) : deployment.steps = (do
    deployment.pass .start .standaloneDeployed
    deployment.pass .standaloneDeployed .proxyChainResolved
    deployment.pass .proxyChainResolved .written) := by
  simp only [steps_eq, pass, work, bind_assoc, pure_bind]

theorem keepsStage_keptBySettling : KeptBySettling (Unchanged Session.stage) where
  finding _ := rfl
  opening _ := rfl
  deploying {contract dependencies s} _ := by
    rw [Unchanged, deploy_onlyDeploys contract dependencies s]
  settling _ _ := rfl

theorem keepsStage_keptByChecking : KeptByChecking (Unchanged Session.stage) where
  converses h := by
    rw [Client.OnlyConverses] at h
    rw [Unchanged, h]
  inquires _ _ := rfl

/-- However the work of a stage ends, no other stage is entered. -/
theorem work_keepsStage (deployment : Deployment) (stage : Stage) :
    Keeps (Unchanged Session.stage) (deployment.work stage) := by
  have hresolve := fun contract => keepsStage_keptBySettling.keptByResolving.resolve contract
  cases stage with
  | start =>
    refine (keepsStage_keptByChecking.supply deployment).bind fun _ => ?_
    exact (hresolve .hotShot).bind fun _ => keeps_pure ()
  | standaloneDeployed => exact (hresolve .lightClientProxy).bind fun _ => keeps_pure ()
  | proxyChainResolved =>
    refine keeps_get.bind fun session => (Registry.publish_keeps _ _).mono fun {s s'} h => ?_
    rw [Registry.OnlyPublishes] at h
    rw [Unchanged, h]
  | written => exact keeps_pure ()
  | done => exact keeps_pure ()
  | failed => exact keeps_pure ()

/-! ## Passing through the stages -/

/-- A deployment that began in a session reaches a stage, having done the work of all stages
before. -/
inductive Reaches (deployment : Deployment) (s : Session) : Stage → Session → Prop where
  /-- The stage in which it begins. -/
  | start : Reaches deployment s s.stage s
  /-- The next stage, once the work of a stage is done. -/
  | next {stage following : Stage} {mid done : Session} : Reaches deployment s stage mid →
    deployment.work stage mid = .ok () done → stage.next? = some following →
    Reaches deployment s following { done with stage := following }

theorem Reaches.stage_eq (h : Reaches deployment s stage mid) : mid.stage = stage := by
  cases h with
  | start => rfl
  | next _ _ _ => rfl

/-- The work of a stage can fail only where there is something to do. -/
theorem underway_of_error {stopped : Session} (h : deployment.work stage mid = .error fault stopped) :
    stage ∈ [Stage.start, .standaloneDeployed, .proxyChainResolved] := by
  cases stage with
  | start => decide
  | standaloneDeployed => decide
  | proxyChainResolved => decide
  | written => cases h
  | done => cases h
  | failed => cases h

/-- A deployment that began in a session reaches a stage, the work of which fails with a fault and
leaves a session. -/
structure StopsAt (deployment : Deployment) (s : Session) (fault : Fault) (stage : Stage)
    (stopped : Session) : Prop where
  fails : ∃ mid, Reaches deployment s stage mid ∧ deployment.work stage mid = .error fault stopped
  stage_eq : stopped.stage = stage
  underway : stage ∈ [Stage.start, .standaloneDeployed, .proxyChainResolved]

/-- Steps of a deployment that began in a session have led to a stage, or have stopped at one. -/
def LeadsTo (deployment : Deployment) (s : Session) (stage : Stage) :
    EStateM.Result Fault Session Unit → Prop
  | .ok _ s' => Reaches deployment s stage s'
  | .error fault s' => ∃ stage, StopsAt deployment s fault stage s'

theorem Reaches.pass (h : Reaches deployment s stage mid) (hnext : stage.next? = some following) :
    LeadsTo deployment s following (deployment.pass stage following mid) := by
  cases hwork : deployment.work stage mid with
  | ok _ done =>
    have hpass : deployment.pass stage following mid = .ok () { done with stage := following } :=
      (bind_of_ok hwork).trans rfl
    rw [hpass]
    exact .next h hwork hnext
  | error fault stopped =>
    have hpass : deployment.pass stage following mid = .error fault stopped := bind_of_error hwork
    have hstage : stopped.stage = mid.stage := after_of_error hwork ▸ work_keepsStage _ _ mid
    rw [hpass]
    -- the work has not left the stage, so the stage tells where the deployment stopped
    exact ⟨stage, ⟨mid, h, hwork⟩, hstage.trans h.stage_eq, underway_of_error hwork⟩

theorem LeadsTo.bind {x : Action Unit} {f : Unit → Action Unit}
    (hx : LeadsTo deployment s stage (x mid))
    (hf : ∀ s', Reaches deployment s stage s' → LeadsTo deployment s following (f () s')) :
    LeadsTo deployment s following ((x >>= f) mid) := by
  cases h : x mid with
  | ok _ s' =>
    rw [bind_of_ok h]
    rw [h] at hx
    exact hf s' hx
  | error fault s' =>
    rw [bind_of_error h]
    rw [h] at hx
    exact hx

/-- The steps of a deployment lead to where the registry is written. -/
theorem steps_leadsTo (deployment : Deployment) (start : s.stage = .start) :
    LeadsTo deployment s .written (deployment.steps s) := by
  have hstart : Reaches deployment s .start s := start ▸ .start
  rw [steps_eq_pass]
  refine LeadsTo.bind (hstart.pass rfl) fun standalone hstandalone => ?_
  exact LeadsTo.bind (hstandalone.pass rfl) fun chained hchained => hchained.pass rfl

/-! ## How a deployment ends -/

/-- What has been done when a deployment returns. -/
structure Finished (deployment : Deployment) (s s' : Session) : Prop where
  reached : Reaches deployment s .done s'
  stage : s'.stage = .done
  /-- The two contracts that it is about are recorded. -/
  recorded : s'.registry.contains .hotShot = true ∧ s'.registry.contains .lightClientProxy = true
  /-- The record is written. -/
  written : ∃ text record, Lists s'.registry text record ∧ WritesOnly text s s' deployment.output

/-- How the session is left by a deployment that stops at a stage with a fault: unless the user
declined, it is told after which stage the deployment was aborted, and the deployment has failed. -/
def LeftBy (fault : Fault) (stage : Stage) (stopped s' : Session) : Prop :=
  if fault = .refusal then s' = stopped
  else s' = { stopped with notices := stopped.notices ++ abortNotice stage, stage := .failed }

theorem finished_of_run (nodup : s.registry.contracts.Nodup)
    (hreach : Reaches deployment s .written mid)
    (h : deployment.run s = .ok () { mid with stage := .done }) :
    Finished deployment s { mid with stage := .done } := by
  obtain ⟨made, resolved, published, hmade, hneeded, hpublish, hdone⟩ := run_eq_ok h
  have hkeeps : Registry.OnlyPublishes resolved published :=
    after_of_ok hpublish ▸ Registry.publish_keeps _ _ resolved
  have hregistry : mid.registry = resolved.registry :=
    (congrArg Session.registry hdone).trans hkeeps.registry_eq
  have hcontains : ∀ contract, contract = .hotShot ∨ contract = .lightClientProxy →
      mid.registry.contains contract = true := by
    intro contract hcontract
    rw [Registry.contains_iff, hregistry, hmade.contracts, hneeded]
    exact mem_append_needed hcontract _
  refine ⟨.next hreach rfl rfl, rfl, ⟨?_, ?_⟩, writesOnly_of_run nodup h⟩
  · exact hcontains .hotShot (.inl rfl)
  · exact hcontains .lightClientProxy (.inr rfl)

/-- **The stages of a deployment.** A deployment that returns is done, has recorded its two contracts
and has written the record. One that fails stops at a stage where the work of the stages before is
done, and passes on the fault of the work of this stage. Unless the user declined, it is told that the
deployment was aborted after this stage, and the deployment has failed. -/
theorem run_staged (deployment : Deployment) (start : s.stage = .start)
    (nodup : s.registry.contracts.Nodup) :
    match deployment.run s with
    | .ok _ s' => Finished deployment s s'
    | .error fault s' => ∃ stage stopped, StopsAt deployment s fault stage stopped ∧
        LeftBy fault stage stopped s' := by
  have hleads := steps_leadsTo deployment start
  cases hsteps : deployment.steps s with
  | ok _ mid =>
    have hrun := run_of_steps hsteps
    rw [hsteps] at hleads
    rw [hrun]
    exact finished_of_run nodup hleads hrun
  | error fault stopped =>
    rw [hsteps] at hleads
    obtain ⟨stage, hstops⟩ := hleads
    have hrun := run_of_error hsteps
    rw [hrun]
    refine ⟨stage, stopped, hstops, ?_⟩
    rw [LeftBy]
    split
    · rfl
    · rw [aborted, hstops.stage_eq]

/-- The user declines to create the consensus contract. -/
def declining : Session := { proxySupplied with client.autosign := false, input := "n\n".toList }

/-- The deployment is left at once, with the work of its first stage undone. -/
theorem run_declining : ∃ stopped,
    (Deployment.mk none false).run declining = .error .refusal stopped ∧ stopped.stage = .start := by
  let stopped := (procedure .hotShot).after (Registry.opening .hotShot declining)
  have hprocedure : procedure .hotShot (Registry.opening .hotShot declining) =
      .error .refusal stopped := by rfl
  have hresolve : Resolution.resolve .hotShot declining = .error .refusal stopped := by
    rw [resolve_eq, Registry.resolve_of_none rfl, bind_of_error hprocedure]
  have hsteps : (Deployment.mk none false).steps declining = .error .refusal stopped := by
    rw [steps_eq]
    exact (bind_of_ok rfl).trans (bind_of_error hresolve)
  exact ⟨stopped, run_of_error hsteps, rfl⟩

/-- A deployment that does not return has not always failed by its stage. -/
theorem not_always_failed : ¬ ∀ (deployment : Deployment) (s s' : Session) (fault : Fault),
    s.stage = .start → s.registry.contracts.Nodup → deployment.run s = .error fault s' →
    s'.stage = .failed := by
  intro h
  obtain ⟨stopped, hrun, hstage⟩ := run_declining
  have hfailed := h _ declining stopped .refusal rfl (by decide) hrun
  rw [hstage] at hfailed
  cases hfailed

theorem run_staged_of_declining : declining.stage = .start ∧
    declining.registry.contracts.Nodup ∧ ∃ stage stopped s',
      (Deployment.mk none false).run declining = .error .refusal s' ∧
      StopsAt ⟨none, false⟩ declining .refusal stage stopped ∧ LeftBy .refusal stage stopped s' := by
  have nodup : declining.registry.contracts.Nodup := by decide
  obtain ⟨s', hrun, -⟩ := run_declining
  have hstaged := run_staged ⟨none, false⟩ (s := declining) rfl nodup
  rw [hrun] at hstaged
  obtain ⟨stage, stopped, hstops, hleft⟩ := hstaged
  exact ⟨rfl, nodup, stage, stopped, s', hrun, hstops, hleft⟩

end Deployment

end Rollout
