import Rollout.Proofs.Deployment.Parts
import Rollout.Proofs.Outage

/-!
# What is told of an outage

Whether a contract is created or a deployment is run, and wherever an access, or the beginning of a
transaction, is refused with an error of the network, nothing more is done, and the error is told as
a failure of a transaction (`act_told`). It is told together with the contract that was being created,
so that its text begins with the name of the contract, with two exceptions: no contract is told where
the number of the chain is asked for, nor where the code at a supplied address is.
-/

namespace Rollout

open Rollout.Action Client

variable {s s' : Session}

namespace Deployment

open Resolution

/-! ## Deployments -/

theorem heeds_composes (tell : Deed → Fault → Fault) : Composes fun _ x s => Heeds tell x s where
  ofExcept := heeds_ofExcept
  bind := Heeds.bind
  congr := Heeds.congr

/-- Each thing that a deployment does stops where it is refused. -/
theorem heeds_heldByParts : HeldByParts fun _ x s => Heeds blame x s where
  toComposes := heeds_composes blame
  notices text s := heeds_of_conversation (notice_keeps text) s
  creates := deploy_heeds
  reads contract s := by
    refine heeds_get ((heeds_ofExcept _ s).bind fun found mid hfound => ?_)
    obtain ⟨-, rfl⟩ := ofExcept_eq_ok.1 hfound
    exact heeds_of_eq rfl rfl
  fetches s := by
    refine heeds_get ?_
    cases s.genesis.fetched with
    | some genesis => exact heeds_pure genesis s
    | none =>
      refine (heeds_of_conversation (notice_keeps _) s).bind fun _ mid _ => ?_
      refine Heeds.bind ?_ fun answer mid _ => (heeds_ofExcept _ mid).bind fun genesis mid _ => ?_
      · exact heeds_of_silent [.access none (.request _ _)] rfl rfl (by simp [Deed.isSilent])
      · exact heeds_of_eq rfl rfl
  inquires := queryCode_heeds
  enters stage s := heeds_of_eq rfl rfl
  finds {contract address s} hget := by
    have hresolve := resolve_of_get? hget
    refine heeds_of_silent [.found contract address] ?_ ?_ (by simp [Deed.isSilent])
    · rw [after_of_ok hresolve]
      rfl
    · rw [after_of_ok hresolve]
      rfl
  opens contract s := heeds_of_silent [.called contract] rfl rfl (by simp [Deed.isSilent])
  settles contract value s := by
    cases hrecord : s.registry.record contract value with
    | error fault =>
      have hsettle := Registry.settle_of_error hrecord
      refine heeds_of_silent [.answered contract value] ?_ ?_ (by simp [Deed.isSilent])
      · rw [after_of_error hsettle]
      · rw [after_of_error hsettle]
    | ok r =>
      have hsettle := Registry.settle_of_ok hrecord
      refine heeds_of_silent [.answered contract value, .recorded contract r.1] ?_ ?_
        (by simp [Deed.isSilent])
      · rw [after_of_ok hsettle]
      · rw [after_of_ok hsettle]

/-- **What becomes of an outage while a deployment is run.** The deployment stops where something is
refused, and passes on what is told of it. -/
theorem run_heeds (deployment : Deployment) (s : Session) : Heeds blame deployment.run s := by
  have hsteps : Heeds blame deployment.steps s := by
    rw [steps_eq_prepare]
    refine (heeds_heldByParts.prepare deployment s).bind fun _ mid _ => ?_
    refine Heeds.bind ?_ fun _ mid _ => heeds_of_eq rfl rfl
    have hkeeps := Registry.publish_keeps mid.registry.entries deployment.output mid
    exact heeds_get (heeds_of_eq hkeeps.deeds_eq hkeeps.node_eq)
  rw [run_eq]
  refine Heeds.bind ?_ fun _ mid _ => heeds_of_eq rfl rfl
  have hreports : ∀ fault mid, ∃ at', report fault mid = .error (id fault) at' ∧
      at'.deeds = mid.deeds ∧ at'.node = mid.node := by
    intro fault mid
    refine ⟨_, report_eq fault mid, ?_⟩
    split <;> exact ⟨rfl, rfl⟩
  exact hsteps.tryCatch hreports

/-! ## Tasks -/

/-- What the node can be accessed for. -/
inductive Task where
  /-- To create a contract. -/
  | create (contract : Contract) (interface : Value) (bytecode : Octets) (arguments : List Value)
  /-- To run a deployment. -/
  | run (deployment : Deployment)

namespace Task

/-- What is done for a task. -/
def act : Task → Action Unit
  | create contract interface bytecode arguments => do
    let _ ← Client.deploy contract interface bytecode arguments
    return ()
  | run deployment => deployment.run

/-- A contract may be created for a task: the one that the task is about or, by a deployment, one
that has no address yet. -/
def MayCreate (s : Session) : Task → Contract → Prop
  | create contract _ _ _, other => other = contract
  | run _, other => other ∉ s.registry.contracts

theorem act_heeds (task : Task) (s : Session) : Heeds blame task.act s := by
  cases task with
  | create contract interface bytecode arguments =>
    refine (deploy_heeds contract interface bytecode arguments s).bind fun address mid _ => ?_
    exact heeds_pure () mid
  | run deployment => exact run_heeds deployment s

end Task

/-! ## For which contract -/

/-- From one session to another, whatever could be refused is done for a contract that has no address
at first, unless code is asked for. -/
def Attributes (s s' : Session) : Prop :=
  (∀ contract ∈ s.registry.contracts, contract ∈ s'.registry.contracts) ∧
    ∃ added, s'.deeds = s.deeds ++ added ∧ ∀ deed ∈ added, deed.isSilent ∨
      deed.step? = some .code ∨ ∃ contract ∉ s.registry.contracts, deed.contract? = some contract

instance : Follows Attributes where
  refl s := ⟨fun _ => id, [], by simp, by simp⟩
  trans := by
    rintro s mid s' ⟨hgrows, a, ha, hfor⟩ ⟨hgrows', b, hb, hfor'⟩
    refine ⟨fun contract h => hgrows' contract (hgrows contract h), a ++ b,
      by rw [hb, ha, List.append_assoc], fun deed hdeed => ?_⟩
    rcases List.mem_append.1 hdeed with hdeed | hdeed
    · exact hfor deed hdeed
    · refine (hfor' deed hdeed).imp_right (Or.imp_right ?_)
      rintro ⟨contract, hnew, hcontract⟩
      exact ⟨contract, fun hmem => hnew (hgrows contract hmem), hcontract⟩

theorem attributes_of_silent (added : List Deed) (hdeeds : s'.deeds = s.deeds ++ added)
    (hregistry : s.registry.addresses <+: s'.registry.addresses)
    (hsilent : ∀ deed ∈ added, deed.isSilent) : Attributes s s' :=
  ⟨fun _ h => (hregistry.map Prod.fst).subset h, added, hdeeds,
    fun deed hdeed => Or.inl (hsilent deed hdeed)⟩

theorem attributes_of_eq (hdeeds : s'.deeds = s.deeds) (hregistry : s'.registry = s.registry) :
    Attributes s s' :=
  attributes_of_silent [] (by simp [hdeeds]) (hregistry ▸ List.prefix_rfl) (by simp)

theorem attributes_keptBySettling : KeptBySettling Attributes where
  finding {contract address _} _ := attributes_of_silent [.found contract address] rfl
    List.prefix_rfl (by simp [Deed.isSilent])
  opening {contract _} _ := attributes_of_silent [.called contract] rfl
    List.prefix_rfl (by simp [Deed.isSilent])
  deploying {contract dependencies s} h := by
    obtain ⟨added, hadded, hfor⟩ := (Resolution.onlyDoneFor_kept contract).deploy dependencies s
    have habsent := Registry.get?_eq_none_iff.1 h.absent
    refine ⟨by rw [deploy_registry]; exact fun _ => id, added, hadded, fun deed hdeed => ?_⟩
    cases hfor deed hdeed with
    | began _ _ _ => exact Or.inr (Or.inr ⟨contract, habsent, rfl⟩)
    | access _ => exact Or.inr (Or.inr ⟨contract, habsent, rfl⟩)
    | request _ _ => exact Or.inl rfl
  settling {contract _ s} address _ :=
    attributes_of_silent [.answered contract (.text address.text), .recorded contract address] rfl
      (List.prefix_append _ _) (by simp [Deed.isSilent])

theorem attributes_kept : KeptByDeploying Attributes where
  toKeptByResolving := attributes_keptBySettling.keptByResolving
  converses h := by
    rw [Client.OnlyConverses] at h
    exact attributes_of_eq (by rw [h]) (by rw [h])
  inquires s address := ⟨fun _ => id, [.access none (.code address)], rfl, by simp [Deed.step?]⟩
  enters s stage := attributes_of_eq rfl rfl

/-- What is done for a task and could be refused is done for a contract that may be created for the
task, unless code is asked for. -/
theorem mayCreate_of_mem {task : Task} {added : List Deed} {deed : Deed}
    (hdeeds : (task.act.after s).deeds = s.deeds ++ added) (hdeed : deed ∈ added)
    (hloud : ¬ deed.isSilent) (hcode : deed.step? ≠ some .code) :
    ∃ contract, task.MayCreate s contract ∧ deed.contract? = some contract := by
  cases task with
  | create contract interface bytecode arguments =>
    have hkeeps : Keeps (OnlyDoneFor contract)
        (Task.create contract interface bytecode arguments).act :=
      ((Client.onlyDoneFor_kept contract).deploy _ _ _).bind fun _ => keeps_pure ()
    obtain ⟨done, hdone, hfor⟩ := hkeeps s
    obtain rfl := List.append_cancel_left (hdeeds.symm.trans hdone)
    cases hfor deed hdeed with
    | began _ _ _ => exact ⟨contract, rfl, rfl⟩
    | access _ => exact ⟨contract, rfl, rfl⟩
    | request _ _ => exact absurd rfl hloud
  | run deployment =>
    have hpublishes : ∀ {s s' : Session}, Registry.OnlyPublishes s s' → Attributes s s' :=
      fun h => attributes_of_eq h.deeds_eq h.registry_eq
    obtain ⟨-, done, hdone, hfor⟩ := attributes_kept.run hpublishes deployment s
    obtain rfl := List.append_cancel_left (hdeeds.symm.trans hdone)
    exact ((hfor deed hdeed).resolve_left hloud).resolve_left hcode

/-! ## What is told -/

/-- What is told, as a cause and perhaps with a contract, of an error of the network with a text at a
deed that is refused, while some contracts may be created. -/
structure Told (mayCreate : Contract → Prop) (deed : Deed) (text : String) (cause : Cause)
    (culprit : Option Contract) : Prop where
  /-- It is a failure of a transaction. -/
  family : cause.family = .transaction
  /-- Of the number of the chain no contract is told. -/
  chainId : deed.step? = some .chainId → cause = .chainUnknown text ∧ culprit = none
  /-- Of the code at an address no contract is told. -/
  code : ∀ named address, deed = .access named (.code address) →
    cause = .codeUnknown address text ∧ culprit = none
  /-- Of anything else the contract is told for which it is done; the text begins with its name. -/
  transaction : deed.step? ≠ some .chainId → deed.step? ≠ some .code →
    cause = .transactionFailed text ∧ ∃ contract, mayCreate contract ∧
      deed.contract? = some contract ∧ culprit = some contract ∧
      (Fault.deployment cause culprit).text = contract.name ++ ": " ++ cause.message

theorem told_of_contract {mayCreate : Contract → Prop} {deed : Deed} {fault : Fault}
    (hnetwork : fault.isNetworkError) (hloud : ¬ deed.isSilent)
    (hcontract : deed.step? ≠ some .code →
      ∃ contract, mayCreate contract ∧ deed.contract? = some contract) :
    ∃ cause culprit, blame deed fault = .deployment cause culprit ∧
      Told mayCreate deed fault.text cause culprit := by
  have htold : ∀ cause culprit, told cause culprit fault = .deployment (cause fault.text) culprit :=
    fun _ _ => if_pos hnetwork
  -- the deeds that concern a transaction are told of alike
  have htransaction : (∀ fault, blame deed fault = told .transactionFailed deed.contract? fault) →
      deed.step? ≠ some .chainId → deed.step? ≠ some .code → ∃ cause culprit,
        blame deed fault = .deployment cause culprit ∧
          Told mayCreate deed fault.text cause culprit := by
    intro hblame hchain hcode
    obtain ⟨contract, hmay, hfor⟩ := hcontract hcode
    refine ⟨_, some contract, by rw [hblame, htold, hfor], rfl, fun h => absurd h hchain, ?_,
      fun _ _ => ⟨rfl, contract, hmay, hfor, rfl, rfl⟩⟩
    rintro named address rfl
    exact absurd rfl hcode
  cases deed with
  | began contract interface bytecode arguments => exact htransaction (fun _ => rfl) nofun nofun
  | access named event =>
    cases event with
    | request url timeout => exact absurd rfl hloud
    | chainId => exact ⟨_, none, htold _ _, rfl, fun _ => ⟨rfl, rfl⟩, nofun, fun h => absurd rfl h⟩
    | code address =>
      refine ⟨_, none, htold _ _, rfl, nofun, ?_, fun _ h => absurd rfl h⟩
      rintro _ _ ⟨⟩
      exact ⟨rfl, rfl⟩
    | _ => exact htransaction (fun _ => rfl) nofun nofun
  | _ => exact absurd rfl hloud

/-- **What is told of an outage.** Whatever a session is, and wherever something is refused with an
error of the network during a task, nothing is done after it, and the task ends with a failure of a
transaction. The contract is told for which the refused thing is done, except where the number of the
chain or the code at an address is asked for. -/
theorem act_told {task : Task} {before after : List Deed} {deed : Deed} {fault : Fault}
    (hdeeds : (task.act.after s).deeds = s.deeds ++ (before ++ deed :: after))
    (hrefused : (s.node.afterDeeds before).refusal? deed = some fault)
    (hnetwork : fault.isNetworkError) :
    after = [] ∧ ∃ cause culprit,
      task.act s = .error (.deployment cause culprit) (task.act.after s) ∧
      Told (task.MayCreate s) deed fault.text cause culprit := by
  obtain ⟨added, hstops⟩ := task.act_heeds s
  obtain rfl := List.append_cancel_left (hstops.deeds.symm.trans hdeeds)
  obtain ⟨rfl, herror⟩ := hstops.refused rfl hrefused
  have hloud : ¬ deed.isSilent := by
    intro hsilent
    rw [Chain.Node.refusal?_of_isSilent hsilent] at hrefused
    cases hrefused
  have hmem : deed ∈ before ++ [deed] := List.mem_append_right _ List.mem_cons_self
  obtain ⟨cause, culprit, hblame, htold⟩ :=
    told_of_contract hnetwork hloud (mayCreate_of_mem hdeeds hmem hloud)
  exact ⟨rfl, cause, culprit, hblame ▸ herror, htold⟩

/-- The node takes a transaction, but does not tell its receipt in time. -/
def unanswered : Session :=
  { node.outages :=
      [{ step := .receipt, transaction := some 0, fault := .report .chainTimeout "timed out" }] }

/-- The consensus contract is created from some bytecode. -/
def creation : Task := .create .hotShot (.list []) [0x60, 0x80] []

theorem act_told_of_unanswered : ∃ before hash,
    (creation.act.after unanswered).deeds =
      unanswered.deeds ++ (before ++ [.access (some .hotShot) (.receipt hash 120)]) ∧
    (unanswered.node.afterDeeds before).refusal? (.access (some .hotShot) (.receipt hash 120)) =
      some (.report .chainTimeout "timed out") ∧
    ∃ cause culprit,
      creation.act unanswered = .error (.deployment cause culprit) (creation.act.after unanswered) ∧
      Told (creation.MayCreate unanswered) (.access (some .hotShot) (.receipt hash 120)) "timed out"
        cause culprit := by
  let account := unanswered.client.account
  let before : List Deed := [.began .hotShot (.list []) [0x60, 0x80] [],
    .access (some .hotShot) (.constructor []), .access (some .hotShot) (.nonce account),
    .access (some .hotShot) .chainId,
    .access (some .hotShot) (.build account 7 31337 [0x60, 0x80]), .access (some .hotShot) (.send 7)]
  have hdeeds : (creation.act.after unanswered).deeds = unanswered.deeds ++
      (before ++ [.access (some .hotShot) (.receipt (Octets.ofNat 32 1) 120)]) := by rfl
  have hrefused : (unanswered.node.afterDeeds before).refusal?
      (.access (some .hotShot) (.receipt (Octets.ofNat 32 1) 120)) =
        some (.report .chainTimeout "timed out") := by rfl
  exact ⟨before, _, hdeeds, hrefused, (act_told hdeeds hrefused rfl).2⟩

/-- The node does not tell its chain. -/
def silent : Session :=
  { node.outages := [{ step := .chainId, fault := .report .connectionError "refused" }] }

/-- The contract for which something is done is not always told if it is refused. -/
theorem not_always_told : ¬ ∀ (task : Task) (s : Session) (before after : List Deed) (deed : Deed)
    (contract : Contract) (fault : Fault),
    (task.act.after s).deeds = s.deeds ++ (before ++ deed :: after) →
    (s.node.afterDeeds before).refusal? deed = some fault → fault.isNetworkError →
    deed.contract? = some contract →
    ∃ cause, task.act s = .error (.deployment cause (some contract)) (task.act.after s) := by
  intro h
  let before : List Deed := [.began .hotShot (.list []) [0x60, 0x80] [],
    .access (some .hotShot) (.constructor []),
    .access (some .hotShot) (.nonce silent.client.account)]
  have hdeeds : (creation.act.after silent).deeds =
      silent.deeds ++ (before ++ [.access (some .hotShot) .chainId]) := by rfl
  have hact : creation.act silent =
      .error (.deployment (.chainUnknown "refused") none) (creation.act.after silent) := by rfl
  obtain ⟨cause, hnamed⟩ := h creation silent before [] _ .hotShot _ hdeeds rfl rfl rfl
  rw [hact] at hnamed
  cases hnamed

end Deployment

end Rollout
