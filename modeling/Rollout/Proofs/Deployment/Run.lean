import Rollout.Deployment
import Rollout.Proofs.Resolution.Order

/-!
# What a deployment does

A deployment puts in place what is missing for the consensus contract, and then what is missing for
the proxy (`needed`). However it ends, it follows its script (`run_scripted`); if it succeeds, it has
created all that is needed, and has published the registry (`run_eq_ok`).
-/

namespace Rollout.Deployment

open Rollout.Action Resolution

variable {s s' : Session} {deployment : Deployment}

/-! ## Looking supplied addresses up -/

theorem enter_keeps (stage : Stage) : Keeps Looks (enter stage) := fun _ =>
  ⟨⟨⟨rfl, rfl, rfl, fun _ => rfl, rfl⟩, Client.quiet_of_eq rfl rfl rfl, rfl, rfl⟩, rfl⟩

theorem queryCode_keeps (address : String) : Keeps Looks (Client.queryCode address) := by
  intro s
  rw [Client.queryCode_after]
  exact ⟨⟨⟨rfl, rfl, rfl, fun _ => rfl, rfl⟩,
    ⟨rfl, id, [.access none (.code address)], rfl, rfl, rfl, rfl⟩, rfl, rfl⟩, rfl⟩

theorem checkCode_keeps (contract : Contract) : Keeps Looks (checkCode contract) := by
  refine keeps_get.bind fun session => ?_
  refine ((Client.notice_keeps _).mono looks_of_onlyConverses).bind fun _ => ?_
  exact (queryCode_keeps _).bind fun code => keeps_ite (keeps_throw _) (keeps_pure _)

theorem checkSupplied_keeps : Keeps Looks checkSupplied := by
  refine keeps_get.bind fun session => Keeps.bind (keeps_forIn _ (fun contract b => ?_) _)
    fun _ => keeps_pure _
  exact (checkCode_keeps contract).bind fun _ => keeps_pure _

theorem checkCode_scripted (contract : Contract) (s : Session) :
    Scripted (checkCode contract) s [.access none .code] := by
  refine scripted_get ?_
  refine (Client.scripted_of_onlyConverses (Client.notice_keeps _) s).nil_bind fun _ mid _ => ?_
  refine Scripted.bind_nil ?_ fun code mid => ?_
  · refine (Client.scripted_naming (scripted_access _ _ _ mid)).bind_nil fun _ mid => ?_
    exact scripted_get (scripted_pure _ mid)
  · split
    · exact scripted_nil rfl rfl
    · exact scripted_nil rfl rfl

theorem scripted_forIn {γ : Type} (items : List γ) {act : γ → Action PUnit} {p : List Outline}
    (h : ∀ item s, Scripted (act item) s p) (s : Session) :
    Scripted (forIn items PUnit.unit fun item _ => do act item; pure (.yield PUnit.unit)) s
      (items.flatMap fun _ => p) := by
  induction items generalizing s with
  | nil => exact scripted_pure _ s
  | cons item rest ih =>
    rw [List.forIn_cons, List.flatMap_cons]
    refine Scripted.bind ((h item s).bind_nil fun _ mid => scripted_pure _ mid) fun step mid hstep => ?_
    obtain ⟨_, _, -, hpure⟩ := bind_eq_ok.1 hstep
    cases hpure
    exact ih mid

theorem checkSupplied_scripted (s : Session) :
    Scripted checkSupplied s
      ((sortContracts s.registry.predeployed).flatMap fun _ => [.access none .code]) := by
  refine scripted_get ((scripted_forIn _ checkCode_scripted s).bind_nil fun _ mid => ?_)
  exact scripted_pure _ mid

/-! ## What is needed -/

/-- The contracts that a deployment puts in place if some are recorded, in their order. -/
def needed (recorded : List Contract) : List Contract :=
  (if .hotShot ∈ recorded then [] else [.hotShot]) ++
    if .lightClientProxy ∈ recorded then []
    else
      (if .lightClient ∈ recorded then []
        else
          (if .plonkVerifier ∈ recorded then [] else [.plonkVerifier]) ++
          (if .lightClientStateUpdateVK ∈ recorded then [] else [.lightClientStateUpdateVK]) ++
          [.lightClient]) ++
      [.lightClientProxy]

theorem missing_leaf (contract : Contract) (h : contract.dependencies = [])
    (recorded : List Contract) :
    missing contract recorded = if contract ∈ recorded then [] else [contract] := by
  split
  · next hmem => exact missing_of_mem hmem
  · next hmem =>
    rw [missing_of_not_mem hmem, missingBelow_eq, h]
    rfl

theorem missing_lightClient (recorded : List Contract) :
    missing .lightClient recorded = if .lightClient ∈ recorded then []
      else (if .plonkVerifier ∈ recorded then [] else [.plonkVerifier]) ++
        (if .lightClientStateUpdateVK ∈ recorded then [] else [.lightClientStateUpdateVK]) ++
        [.lightClient] := by
  split
  · next hmem => exact missing_of_mem hmem
  · next hmem =>
    have hverifier := missing_leaf .plonkVerifier rfl recorded
    have hother : Contract.lightClientStateUpdateVK ∈ recorded ++ missing .plonkVerifier recorded ↔
        .lightClientStateUpdateVK ∈ recorded := by
      rw [hverifier]
      split <;> simp
    have hkey := missing_leaf .lightClientStateUpdateVK rfl
      (recorded ++ missing .plonkVerifier recorded)
    simp only [hother] at hkey
    rw [missing_of_not_mem hmem, missingBelow_eq]
    simp only [Contract.dependencies, gather, hkey, List.append_nil]
    rw [hverifier]

/-- What is needed is what is missing for the consensus contract, and then for the proxy. -/
theorem needed_eq (recorded : List Contract) : needed recorded = missing .hotShot recorded ++
    missing .lightClientProxy (recorded ++ missing .hotShot recorded) := by
  have hhotShot : missing .hotShot recorded = if .hotShot ∈ recorded then [] else [.hotShot] :=
    missing_leaf .hotShot rfl recorded
  have hsame : ∀ contract, contract ≠ .hotShot →
      (contract ∈ recorded ++ missing .hotShot recorded ↔ contract ∈ recorded) := by
    intro contract hne
    rw [hhotShot]
    split <;> simp [hne]
  have hproxy := hsame .lightClientProxy (by decide)
  have hlightClient := missing_lightClient (recorded ++ missing .hotShot recorded)
  simp only [hsame .lightClient (by decide), hsame .plonkVerifier (by decide),
    hsame .lightClientStateUpdateVK (by decide)] at hlightClient
  rw [needed, ← hhotShot]
  congr 1
  by_cases hmem : .lightClientProxy ∈ recorded
  · rw [if_pos hmem, missing_of_mem (hproxy.2 hmem)]
  · rw [if_neg hmem, missing_of_not_mem (mt hproxy.1 hmem), missingBelow_eq]
    simp only [Contract.dependencies, gather, hlightClient, List.append_nil]

/-! ## Running -/

theorem publish_scripted (deployment : Deployment) (s : Session) :
    Scripted deployment.publish s [] := by
  have hkeeps := Registry.publish_keeps s.registry.entries deployment.output s
  exact scripted_get (scripted_nil hkeeps.deeds_eq hkeeps.registry_eq)

/-- The check of the supplied addresses, if the deployment is to make it. -/
def supply (deployment : Deployment) : Action Unit :=
  if deployment.checkPredeployed then checkSupplied else pure ()

/-- What the check of the supplied addresses does, in outline. -/
def supplyScript (deployment : Deployment) (s : Session) : List Outline :=
  if deployment.checkPredeployed then
    (sortContracts s.registry.predeployed).flatMap fun _ => [.access none .code]
  else []

/-- What a deployment does, in outline. -/
def script (deployment : Deployment) (s : Session) : List Outline :=
  deployment.supplyScript s ++ scriptIn s (needed s.registry.contracts)

theorem supply_scripted (deployment : Deployment) (s : Session) :
    Scripted deployment.supply s (deployment.supplyScript s) := by
  rw [supply, supplyScript]
  split
  · exact checkSupplied_scripted s
  · exact scripted_pure () s

theorem supply_keeps (deployment : Deployment) : Keeps Looks deployment.supply :=
  keeps_ite checkSupplied_keeps (keeps_pure ())

theorem steps_eq (deployment : Deployment) : deployment.steps = (do
    deployment.supply
    let _ ← Resolution.resolve .hotShot
    enter .standaloneDeployed
    let _ ← Resolution.resolve .lightClientProxy
    enter .proxyChainResolved
    deployment.publish
    enter .written) := by
  rw [steps, supply]
  split <;> rfl

theorem scriptIn_of_looks (h : Looks s s') (contracts : List Contract) :
    scriptIn s' contracts = scriptIn s contracts := by
  rw [scriptIn, scriptIn, h.client, h.genesis]

theorem steps_scripted (deployment : Deployment) (s : Session) :
    Scripted deployment.steps s (deployment.script s) := by
  rw [steps_eq, script]
  refine (supply_scripted deployment s).bind fun _ checked hchecked => ?_
  have hlooks : Looks s checked := after_of_ok hchecked ▸ supply_keeps deployment s
  rw [← scriptIn_of_looks hlooks, ← hlooks.registry, needed_eq, scriptIn, script_append]
  refine (resolve_scripted .hotShot checked).bind fun _ standalone hstandalone => ?_
  obtain ⟨made, hmade, hcontracts, -⟩ := completes .hotShot hstandalone
  obtain ⟨hchain, hgenesis⟩ := hmade.known hcontracts
  rw [← hchain, ← hgenesis, ← hcontracts, ← hmade.contracts]
  refine (scripted_nil rfl rfl).nil_bind fun _ entered hentered => ?_
  cases hentered
  refine (resolve_scripted .lightClientProxy _).bind_nil fun _ resolved => ?_
  refine (scripted_nil rfl rfl).nil_bind fun _ entered _ => ?_
  refine (publish_scripted deployment entered).nil_bind fun _ published _ => ?_
  exact scripted_nil rfl rfl

/-- What is done about a fault, which is passed on. -/
def report (fault : Fault) : Action Unit := do
  unless fault = .refusal do
    Action.notice ("Deployment aborted after stage '" ++ (← get).stage.name ++ "'.")
    enter .failed
  throw fault

theorem run_eq (deployment : Deployment) : deployment.run = (do
    tryCatch deployment.steps report
    enter .done) := rfl

theorem report_eq_error (fault : Fault) (s : Session) : ∃ stop at',
    report fault s = .error stop at' ∧ at'.deeds = s.deeds ∧ at'.registry = s.registry := by
  rw [report]
  split
  · exact ⟨_, _, rfl, rfl, rfl⟩
  · exact ⟨_, _, rfl, rfl, rfl⟩

/-- **The script of a deployment.** However a deployment ends, it follows its script. -/
theorem run_scripted (deployment : Deployment) (s : Session) :
    Scripted deployment.run s (deployment.script s) := by
  rw [run_eq]
  refine ((steps_scripted deployment s).tryCatch report_eq_error).bind_nil fun _ mid => ?_
  exact scripted_nil rfl rfl

theorem steps_of_run (h : deployment.run s = .ok () s') : ∃ mid,
    deployment.steps s = .ok () mid ∧ s' = { mid with stage := .done } := by
  rw [run_eq] at h
  obtain ⟨_, mid, hcatch, hdone⟩ := bind_eq_ok.1 h
  cases hok : deployment.steps s with
  | ok _ mid' =>
    have e := (tryCatch_of_ok hok).symm.trans hcatch
    cases e
    cases hdone
    exact ⟨mid, rfl, rfl⟩
  | error fault mid' =>
    obtain ⟨stop, at', hreport, -⟩ := report_eq_error fault mid'
    have e := hreport.symm.trans ((tryCatch_of_error hok).symm.trans hcatch)
    cases e

/-- **What a deployment has done.** A deployment that succeeds has created what is needed, and then
has published the registry. -/
theorem run_eq_ok (h : deployment.run s = .ok () s') : ∃ made resolved published,
    Makes s resolved made ∧ made.map (·.contract) = needed s.registry.contracts ∧
      deployment.publish resolved = .ok () published ∧
      s' = { published with stage := .done } := by
  obtain ⟨mid, hsteps, rfl⟩ := steps_of_run h
  rw [steps_eq] at hsteps
  obtain ⟨_, checked, hcheck, hchecked⟩ := bind_eq_ok.1 hsteps
  have hlooks : Looks s checked := after_of_ok hcheck ▸ supply_keeps deployment s
  obtain ⟨_, standalone, hstandalone, hfirst⟩ := bind_eq_ok.1 hchecked
  obtain ⟨made, hmade, hcontracts, -⟩ := completes .hotShot hstandalone
  obtain ⟨_, entered, henter, hentered⟩ := bind_eq_ok.1 hfirst
  have hentered' : Looks standalone entered := after_of_ok henter ▸ enter_keeps _ standalone
  obtain ⟨_, chained, hchained, hsecond⟩ := bind_eq_ok.1 hentered
  obtain ⟨made', hmade', hcontracts', -⟩ := completes .lightClientProxy hchained
  obtain ⟨_, resolved, hresolve, hresolved⟩ := bind_eq_ok.1 hsecond
  have hresolved' : Looks chained resolved := after_of_ok hresolve ▸ enter_keeps _ chained
  obtain ⟨_, published, hpublish, hpublished⟩ := bind_eq_ok.1 hresolved
  cases hpublished
  have hall := ((makes_nil hlooks).trans hmade).trans
    (((makes_nil hentered').trans hmade').trans (makes_nil hresolved'))
  refine ⟨_, resolved, published, hall, ?_, hpublish, rfl⟩
  rw [hlooks.registry] at hcontracts
  rw [hentered'.registry, hmade.contracts, hlooks.registry, hcontracts] at hcontracts'
  simp only [List.nil_append, List.append_nil, List.map_append, hcontracts, hcontracts']
  rw [needed_eq]

end Rollout.Deployment
