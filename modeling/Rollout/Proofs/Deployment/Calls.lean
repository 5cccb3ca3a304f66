import Rollout.Proofs.Deployment.Record
import Rollout.Proofs.Deployment.Steps
import Rollout.Proofs.Resolution.Closure

/-!
# Calls one after another

Contracts are resolved and deployments are run one after another with one registry, and any of the
calls may fail anywhere (`Calls`). At any moment the registry is closed under dependencies, and what
a call has left is taken up by the next one: a contract that is recorded is never deployed again, and
each is deployed once at most (`calls_resume`). If no call fails, the order and the repetition of the
contracts that are asked for do not matter.
-/

namespace Rollout.Deployment

open Rollout.Action Resolution Registry.Command

variable {R : Session → Session → Prop} {s s' mid : Session}

/-! ## Calls -/

/-- What can be asked for with a registry. -/
inductive Call where
  /-- To resolve a contract. -/
  | resolve (target : Contract)
  /-- To run a deployment. -/
  | run (deployment : Deployment)

/-- What is done at a call. -/
def Call.act : Call → Action Unit
  | resolve target => do
    let _ ← Resolution.resolve target
    return ()
  | run deployment => deployment.run

/-- The contracts that a call asks for, in order. -/
def Call.targets : Call → List Contract
  | resolve target => [target]
  | run _ => [.hotShot, .lightClientProxy]

/-- Between two calls anything can change but the registry, and what was done. -/
structure Meanwhile (s s' : Session) : Prop where
  registry : s'.registry = s.registry
  deeds : s'.deeds = s.deeds
  creations : s'.creations = s.creations

/-- From one session to another, calls are made one after another, each of which returns or fails
with a fault. -/
inductive Calls : Session → List (Call × Option Fault) → Session → Prop where
  /-- No call is made. -/
  | nil (s : Session) : Calls s [] s
  /-- A call returns, and others are made. -/
  | returned {s ready mid s' : Session} {call : Call} {rest : List (Call × Option Fault)} :
    Meanwhile s ready → call.act ready = .ok () mid → Calls mid rest s' →
    Calls s ((call, none) :: rest) s'
  /-- A call fails, and others are made. -/
  | failed {s ready mid s' : Session} {call : Call} {fault : Fault}
    {rest : List (Call × Option Fault)} :
    Meanwhile s ready → call.act ready = .error fault mid → Calls mid rest s' →
    Calls s ((call, some fault) :: rest) s'

/-- A relation holds across each thing that calls do, and across what happens between them. -/
structure KeptByCalls (R : Session → Session → Prop) : Prop extends KeptByDeploying R where
  meanwhile : ∀ {s s'}, Meanwhile s s' → R s s'

theorem KeptByCalls.act [Follows R] (h : KeptByCalls R) (call : Call) : Keeps R call.act := by
  cases call with
  | resolve target => exact (h.toKeptByResolving.resolve target).bind fun _ => keeps_pure ()
  | run deployment =>
    refine h.toKeptByDeploying.run (fun hpublishes => h.meanwhile ?_) deployment
    rw [Registry.OnlyPublishes] at hpublishes
    exact ⟨by rw [hpublishes], by rw [hpublishes], by rw [hpublishes]⟩

/-- Such a relation is kept to by any sequence of calls. -/
theorem KeptByCalls.calls [Follows R] (h : KeptByCalls R) {calls : List (Call × Option Fault)}
    (hcalls : Calls s calls s') : R s s' := by
  induction hcalls with
  | nil s => exact Follows.refl s
  | @returned _ ready _ _ call _ hmeanwhile hact _ ih =>
    have hstep := h.act call ready
    rw [after_of_ok hact] at hstep
    exact Follows.trans (h.meanwhile hmeanwhile) (Follows.trans hstep ih)
  | @failed _ ready _ _ call _ _ hmeanwhile hact _ ih =>
    have hstep := h.act call ready
    rw [after_of_error hact] at hstep
    exact Follows.trans (h.meanwhile hmeanwhile) (Follows.trans hstep ih)

/-! ## What calls keep to -/

theorem advances_keptByCalls : KeptByCalls Advances where
  toKeptByResolving := advances_kept.keptByResolving
  converses h := by
    rw [Client.OnlyConverses] at h
    exact advances_of_eq (by rw [h]) (by rw [h])
  inquires s address := advances_of_deed rfl rfl rfl True.intro
  enters s stage := advances_of_eq rfl rfl
  meanwhile h := advances_of_eq h.deeds h.registry

/-- From one session to another, each creation of a contract uses up the one address that the contract
can get. -/
def CreatedOnce (contract : Contract) (s s' : Session) : Prop :=
  ∃ created, s'.creations = s.creations ++ created ∧
    known contract s + (created.map (·.1)).count contract ≤ known contract s'

instance (contract : Contract) : Follows (CreatedOnce contract) where
  refl s := ⟨[], by simp, by simp⟩
  trans := by
    rintro s mid s' ⟨a, ha, hknown⟩ ⟨b, hb, hknown'⟩
    refine ⟨a ++ b, by rw [hb, ha, List.append_assoc], ?_⟩
    rw [List.map_append, List.count_append]
    omega

theorem createdOnce_of_eq {contract : Contract} (hcreations : s'.creations = s.creations)
    (hregistry : s'.registry = s.registry) : CreatedOnce contract s s' :=
  ⟨[], by simp [hcreations], by simp [known, hregistry]⟩

/-- A contract that is deployed is created once and gets its address; for each other contract nothing
changes. -/
theorem createdOnce_of_deploy {contract other : Contract} {dependencies : List (Contract × Address)}
    {address : Address} (absent : s.registry.get? other = none)
    (h : Resolution.deploy other dependencies s = .ok address s') :
    CreatedOnce contract s (settled other address s') := by
  have hregistry : s'.registry = s.registry :=
    after_of_ok h ▸ deploy_registry other dependencies s
  have hcreated : s'.creations = s.creations ++ [(other, address)] :=
    (deploy_createsOnce other dependencies).ok h
  have hcreations : (settled other address s').creations = s.creations ++ [(other, address)] :=
    hcreated
  refine ⟨[(other, address)], hcreations, ?_⟩
  have absent' : s'.registry.get? other = none := by rw [hregistry, absent]
  by_cases hsame : other = contract
  · subst hsame
    simp [known, Registry.contains, absent, get?_settled address absent']
  · have hother : (settled other address s').registry.get? contract = s.registry.get? contract :=
      hregistry ▸ Registry.get?_insert?_other (Registry.insert?_of_none absent') (Ne.symm hsame)
    rw [known, known, Registry.contains, Registry.contains, hother]
    simp [hsame]

theorem createdOnce_keptByCalls (contract : Contract) : KeptByCalls (CreatedOnce contract) where
  finding _ := createdOnce_of_eq rfl rfl
  opening _ := createdOnce_of_eq rfl rfl
  failing _ h := createdOnce_of_eq ((deploy_createsOnce _ _).error h)
    (after_of_error h ▸ deploy_registry _ _ _)
  making hready h := createdOnce_of_deploy hready.absent h
  converses h := by
    rw [Client.OnlyConverses] at h
    exact createdOnce_of_eq (by rw [h]) (by rw [h])
  inquires s address := createdOnce_of_eq rfl rfl
  enters s stage := createdOnce_of_eq rfl rfl
  meanwhile h := createdOnce_of_eq h.creations h.registry

/-! ## Calls that return -/

/-- A call that returns has put in place what was missing for the contracts that it asks for. -/
theorem act_eq_ok {call : Call} (h : call.act s = .ok () s') : s'.registry.contracts =
    s.registry.contracts ++ gather missing call.targets s.registry.contracts := by
  cases call with
  | resolve target =>
    obtain ⟨address, resolved, hresolve, hreturn⟩ := bind_eq_ok.1 h
    cases hreturn
    obtain ⟨made, hmade, hcontracts, -⟩ := completes target hresolve
    rw [hmade.contracts, hcontracts, Call.targets, gather, gather, List.append_nil]
  | run deployment =>
    obtain ⟨made, resolved, published, hmade, hneeded, hpublish, rfl⟩ := run_eq_ok h
    have hkeeps : Registry.OnlyPublishes resolved published :=
      after_of_ok hpublish ▸ Registry.publish_keeps _ _ resolved
    show published.registry.contracts = _
    rw [hkeeps.registry_eq, hmade.contracts, hneeded, needed_eq, Call.targets, gather, gather, gather,
      List.append_nil]

/-- Calls that all return have put in place what was missing for all the contracts that they ask for,
as one call for all of them would have done. -/
theorem calls_eq_ok {calls : List (Call × Option Fault)} (hcalls : Calls s calls s')
    (hreturned : ∀ call ∈ calls, call.2 = none) : s'.registry.contracts =
      s.registry.contracts ++
        gather missing (calls.flatMap fun call => call.1.targets) s.registry.contracts := by
  induction hcalls with
  | nil s => simp [gather]
  | returned hmeanwhile hact _ ih =>
    have hrest := ih fun call hcall => hreturned call (List.mem_cons_of_mem _ hcall)
    rw [hrest, act_eq_ok hact, hmeanwhile.registry, List.flatMap_cons, gather_append, List.append_assoc]
  | failed _ _ _ _ => cases hreturned _ List.mem_cons_self

/-! ## Any sequence of calls -/

/-- What calls have done, given the deeds and the created contracts that they add. -/
structure Resumes (s s' : Session) (added : List Deed) (created : List (Contract × Address)) :
    Prop where
  /-- The registry has grown by the addresses that the deeds record. -/
  registry : s'.registry = { s.registry with
    addresses := s.registry.addresses ++ entriesOf added }
  /-- At any moment a recorded contract that was not supplied has all its dependencies recorded
  before it. -/
  closed : ∀ done, done <+: added → Registry.Closed { s.registry with
    addresses := s.registry.addresses ++ entriesOf done }
  /-- Nothing is done to deploy a contract that is recorded, and none is recorded again. -/
  orderly : Orderly s.registry.contracts added
  /-- The creation of a contract answers with an address once at most. -/
  once : (created.map (·.1)).Nodup

/-- Whatever calls are made, no contract is created twice. -/
theorem created_of_calls {calls : List (Call × Option Fault)} (hcalls : Calls s calls s') :
    ∃ created, s'.creations = s.creations ++ created ∧ (created.map (·.1)).Nodup := by
  obtain ⟨created, hcreations, -⟩ := (createdOnce_keptByCalls .hotShot).calls hcalls
  refine ⟨created, hcreations, List.nodup_iff_count.2 fun contract => ?_⟩
  obtain ⟨created', hcreations', hknown⟩ := (createdOnce_keptByCalls contract).calls hcalls
  obtain rfl := List.append_cancel_left (hcreations.symm.trans hcreations')
  have hone : known contract s' ≤ 1 := by
    rw [known]
    split <;> omega
  omega

/-- **Closed under dependencies, and resumed.** With any registry of supplied addresses, and whatever
calls are made and wherever they fail, the registry is closed under dependencies at any moment, and no
contract is deployed twice. If no call fails, the contracts recorded in the end are the supplied ones
and those that can be reached from the contracts asked for without passing through a supplied one. -/
theorem calls_resume {supply : Supply} {calls : List (Call × Option Fault)}
    (accepted : Registry.ofSupply supply = .ok s.registry) (hcalls : Calls s calls s') :
    ∃ added created, s'.deeds = s.deeds ++ added ∧ s'.creations = s.creations ++ created ∧
      Resumes s s' added created ∧
      ((∀ call ∈ calls, call.2 = none) → ∀ contract, contract ∈ s'.registry.contracts ↔
        contract ∈ s.registry.predeployed ∨
          Reached s.registry.predeployed (calls.flatMap fun call => call.1.targets) contract) := by
  obtain ⟨-, hsupplied⟩ := Registry.ofSupply_eq_ok accepted
  obtain ⟨added, hdeeds, hregistry, horderly⟩ := advances_keptByCalls.calls hcalls
  have hclosed : ∀ done, done <+: added → Registry.Closed { s.registry with
      addresses := s.registry.addresses ++ entriesOf done } := by
    rintro done ⟨rest, rfl⟩
    exact closed_of_orderly hsupplied fun before deed after hsplit =>
      horderly before deed (after ++ rest) (by rw [hsplit, List.append_assoc]; rfl)
  obtain ⟨created, hcreations, honce⟩ := created_of_calls hcalls
  refine ⟨added, created, hdeeds, hcreations, ⟨hregistry, hclosed, horderly, honce⟩,
    fun hreturned contract => ?_⟩
  have hcontracts := calls_eq_ok hcalls hreturned
  rw [← hsupplied] at hcontracts
  refine mem_contracts_iff_reached hcontracts ?_ ?_
  · rw [hregistry]
  · rw [hregistry]
    exact hclosed added List.prefix_rfl

/-- The node cannot be asked for the number of transactions. -/
def cutOff : Session :=
  { proxySupplied with node.outages := [{ step := .nonce, fault := .report .chainError "refused" }] }

/-- What is left when the consensus contract could not be created. -/
def stopped : Session := (procedure .hotShot).after (Registry.opening .hotShot cutOff)

theorem act_cutOff : (Call.resolve .hotShot).act cutOff =
    .error (.deployment (.transactionFailed "refused") (some .hotShot)) stopped := by
  have hprocedure : procedure .hotShot (Registry.opening .hotShot cutOff) =
      .error (.deployment (.transactionFailed "refused") (some .hotShot)) stopped := by rfl
  have hresolve : resolve .hotShot cutOff =
      .error (.deployment (.transactionFailed "refused") (some .hotShot)) stopped := by
    rw [resolve_eq, Registry.resolve_of_none rfl, bind_of_error hprocedure]
  exact bind_of_error hresolve

/-- The node can be asked again. -/
def restored : Session :=
  { proxySupplied with deeds := stopped.deeds, creations := stopped.creations }

theorem run_restored : ∃ s', (Deployment.mk none false).run restored = .ok () s' := by
  let address : Address := ⟨Octets.ofNat 20 0x1001, rfl⟩
  let ready := (procedure .hotShot).after (Registry.opening .hotShot restored)
  have hprocedure : procedure .hotShot (Registry.opening .hotShot restored) =
      .ok (.text address.text) ready := by rfl
  have hhotShot : resolve .hotShot restored = .ok address (settled .hotShot address ready) :=
    resolve_of_procedure rfl hprocedure rfl
  have hproxy : (settled .hotShot address ready).registry.get? .lightClientProxy =
      some ⟨List.replicate 20 0x11, rfl⟩ := rfl
  exact run_of_resolves hhotShot (resolve_of_get? hproxy)

/-- A deployment goes on where an earlier call was stopped. -/
theorem calls_resume_of_restored : ∃ fault s' added created,
    Registry.ofSupply [(.lightClientProxy, .text "0x1111111111111111111111111111111111111111")] =
      .ok proxySupplied.registry ∧
    Calls proxySupplied [(.resolve .hotShot, some fault), (.run ⟨none, false⟩, none)] s' ∧
    s'.deeds = proxySupplied.deeds ++ added ∧ s'.creations = proxySupplied.creations ++ created ∧
    Resumes proxySupplied s' added created := by
  have accepted : Registry.ofSupply
      [(.lightClientProxy, .text "0x1111111111111111111111111111111111111111")] =
        .ok proxySupplied.registry := by rfl
  obtain ⟨s', hreturns⟩ := run_restored
  have hcut : Meanwhile proxySupplied cutOff := ⟨rfl, rfl, rfl⟩
  have hrestored : Meanwhile stopped restored := ⟨rfl, rfl, rfl⟩
  have hcalls : Calls proxySupplied
      [(.resolve .hotShot, some (.deployment (.transactionFailed "refused") (some .hotShot))),
        (.run ⟨none, false⟩, none)] s' :=
    .failed hcut act_cutOff (.returned hrestored hreturns (.nil s'))
  obtain ⟨added, created, hdeeds, hcreations, hresumes, -⟩ := calls_resume accepted hcalls
  exact ⟨_, s', added, created, accepted, hcalls, hdeeds, hcreations, hresumes⟩

end Rollout.Deployment
