import Rollout.Proofs.Resolution.Creation

/-!
# Relations that resolutions keep to

A relation between sessions that holds across each thing that the procedure of a contract does is
kept to by the procedure (`KeptByProcedure.deploy`). A relation that holds across each thing that is
done to resolve a contract whose dependencies are in place (`Ready`) is kept to by the resolution of
every contract (`KeptByResolving.resolve`). So what holds of all resolutions, however they end, is
shown one step at a time.
-/

namespace Rollout.Resolution

open Rollout.Action

variable {R : Session → Session → Prop} {s s' mid : Session} {contract : Contract}
  {dependencies : List (Contract × Address)} {address : Address}

/-! ## Procedures -/

/-- A relation holds across each thing that is done to look up what a procedure needs. -/
structure KeptByLooking (R : Session → Session → Prop) : Prop where
  /-- Telling of what is done. -/
  converses : ∀ {s s'}, Client.OnlyConverses s s' → R s s'
  /-- Reading an artifact. -/
  reads : ∀ (s : Session) (artifacts : ArtifactStore), R s { s with artifacts }
  /-- Requesting the genesis state. -/
  requests : ∀ (s : Session) (url : String) (timeout : Int), R s { s with
    deeds := s.deeds ++ [.access none (.request url timeout)]
    web.requests := s.web.requests + 1 }
  /-- Keeping the genesis state. -/
  fetches : ∀ (s : Session) (genesis : Genesis), R s { s with genesis.fetched := some genesis }

/-- A relation holds across each thing that the procedure of a contract does. -/
structure KeptByProcedure (R : Session → Session → Prop) (contract : Contract) : Prop
    extends Client.KeptByCreation R contract, KeptByLooking R

namespace KeptByLooking

variable [Follows R]

theorem artifact (h : KeptByLooking R) (other : Contract) : Keeps R (Action.artifact other) := by
  intro s
  refine after_bind (Follows.refl s) fun _ _ hget => ?_
  cases hget
  refine after_bind (keeps_ofExcept _ s) fun found mid hfound => ?_
  obtain ⟨-, rfl⟩ := ofExcept_eq_ok.1 hfound
  exact h.reads s found.2

theorem genesis (h : KeptByLooking R) : Keeps R Action.genesis := by
  refine keeps_get.bind fun session => ?_
  cases session.genesis.fetched with
  | some genesis => exact keeps_pure genesis
  | none =>
    refine ((Client.notice_keeps _).mono h.converses).bind fun _ => ?_
    refine Keeps.bind (fun s => h.requests s _ _) fun answer => ?_
    refine (keeps_ofExcept _).bind fun genesis => ?_
    exact Keeps.bind (keeps_modify fun s => h.fetches s genesis) fun _ => keeps_pure _

end KeptByLooking

namespace KeptByProcedure

variable [Follows R]

theorem deployArtifact (h : KeptByProcedure R contract) (arguments : List Value) :
    Keeps R (Client.deployArtifact contract arguments) :=
  (h.toKeptByLooking.artifact contract).bind fun artifact => (keeps_ofExcept _).bind fun code =>
    h.toKeptByCreation.deploy artifact.interface code arguments

/-- A relation that holds across each thing that the procedure of a contract does is kept to by the
whole procedure, however it ends. -/
theorem deploy (h : KeptByProcedure R contract) (dependencies : List (Contract × Address)) :
    Keeps R (Resolution.deploy contract dependencies) := by
  cases contract with
  | lightClient =>
    exact (h.toKeptByLooking.artifact .lightClient).bind fun artifact =>
      (keeps_ofExcept _).bind fun code => h.toKeptByCreation.deploy (.list []) code []
  | lightClientProxy =>
    cases dependencies with
    | nil => exact h.deployArtifact []
    | cons entry rest =>
      have hlooks := h.toKeptByLooking
      refine (hlooks.artifact .lightClient).bind fun artifact => hlooks.genesis.bind fun genesis => ?_
      refine (keeps_ofExcept _).bind fun call => ?_
      exact ((Client.notice_keeps _).mono h.converses).bind fun _ => h.deployArtifact _
  | hotShot => exact h.deployArtifact []
  | plonkVerifier => exact h.deployArtifact []
  | lightClientStateUpdateVK => exact h.deployArtifact []

end KeptByProcedure

/-- Only the conversation, the deeds, the created contracts, what the node counts, and what is known of
the chain, of the web, of the artifacts and of the genesis state change. -/
def OnlyDeploys (s s' : Session) : Prop :=
  s' = { s with
    input := s'.input, notices := s'.notices, deeds := s'.deeds, artifacts := s'.artifacts
    creations := s'.creations
    node := { s.node with sent := s'.node.sent, accesses := s'.node.accesses }
    web := { s.web with requests := s'.web.requests }
    client := { s.client with chainId := s'.client.chainId }
    genesis := { s.genesis with fetched := s'.genesis.fetched } }

instance : Follows OnlyDeploys where
  refl s := rfl
  trans {s mid s'} h h' := by
    rw [OnlyDeploys] at h h' ⊢
    rw [h', h]

theorem onlyDeploys_kept (contract : Contract) : KeptByProcedure OnlyDeploys contract where
  converses h := by
    rw [Client.OnlyConverses] at h
    rw [h]
    rfl
  begins _ _ _ _ := rfl
  accesses _ _ _ := rfl
  counts _ := rfl
  learns _ _ := rfl
  concludes _ _ := rfl
  reads _ _ := rfl
  requests _ _ _ := rfl
  fetches _ _ := rfl

theorem deploy_onlyDeploys (contract : Contract) (dependencies : List (Contract × Address))
    (s : Session) : OnlyDeploys s ((deploy contract dependencies).after s) :=
  (onlyDeploys_kept contract).deploy dependencies s

/-- However the procedure of a contract ends, it leaves the registry as it is. -/
theorem deploy_registry (contract : Contract) (dependencies : List (Contract × Address))
    (s : Session) : ((deploy contract dependencies).after s).registry = s.registry := by
  rw [deploy_onlyDeploys contract dependencies s]

theorem onlyDoneFor_kept (contract : Contract) :
    KeptByProcedure (Client.OnlyDoneFor contract) contract where
  toKeptByCreation := Client.onlyDoneFor_kept contract
  reads s artifacts := Client.onlyDoneFor_of_eq contract rfl
  requests s url timeout := ⟨[.access none (.request url timeout)], rfl, by simpa using .request url timeout⟩
  fetches s genesis := Client.onlyDoneFor_of_eq contract rfl

/-- What is looked up creates nothing. -/
theorem creations_kept : KeptByLooking (Unchanged Session.creations) where
  converses := Client.OnlyConverses.creations
  reads _ _ := rfl
  requests _ _ _ := rfl
  fetches _ _ := rfl

theorem deployArtifact_createsOnce (contract : Contract) (arguments : List Value) :
    Client.CreatesOnce contract (Client.deployArtifact contract arguments) :=
  .after_keeps (creations_kept.artifact contract) fun _ =>
    .after_keeps (keeps_ofExcept _) fun code => Client.deploy_createsOnce contract _ code _

/-- The procedure of a contract creates it once if it answers with an address, and else not at all.
-/
theorem deploy_createsOnce (contract : Contract) (dependencies : List (Contract × Address)) :
    Client.CreatesOnce contract (deploy contract dependencies) := by
  have hartifact := creations_kept.artifact .lightClient
  cases contract with
  | lightClient =>
    exact .after_keeps hartifact fun _ => .after_keeps (keeps_ofExcept _) fun code =>
      Client.deploy_createsOnce .lightClient _ code _
  | lightClientProxy =>
    cases dependencies with
    | nil => exact deployArtifact_createsOnce .lightClientProxy []
    | cons entry rest =>
      refine .after_keeps hartifact fun _ => .after_keeps creations_kept.genesis fun _ => ?_
      refine .after_keeps (keeps_ofExcept _) fun _ => ?_
      refine .after_keeps ((Client.notice_keeps _).mono creations_kept.converses) fun _ => ?_
      exact deployArtifact_createsOnce .lightClientProxy _
  | hotShot => exact deployArtifact_createsOnce .hotShot []
  | plonkVerifier => exact deployArtifact_createsOnce .plonkVerifier []
  | lightClientStateUpdateVK => exact deployArtifact_createsOnce .lightClientStateUpdateVK []

/-! ## Resolutions -/

/-- Once its dependencies are resolved, a contract that had no address can be deployed: what was put
in place for the dependencies stands below it. -/
theorem ready_of_resolveBelow (absent : s.registry.get? contract = none)
    (h : resolveBelow contract (Registry.opening contract s) = .ok dependencies s') :
    Ready contract dependencies s' := by
  obtain ⟨made, hmade, hcontracts, hnames, hgets⟩ :=
    completes_below (fun dependency _ => completes dependency) h
  have absent' : (Registry.opening contract s).registry.get? contract = none := absent
  exact ⟨absent_of_makes absent' hmade hcontracts, hnames, hgets⟩

/-- A contract that has no address is resolved to the one that its procedure answers with. -/
theorem resolve_of_procedure {ready : Session} (absent : s.registry.get? contract = none)
    (h : procedure contract (Registry.opening contract s) = .ok (.text address.text) ready)
    (habsent : ready.registry.get? contract = none) :
    resolve contract s = .ok address (settled contract address ready) := by
  rw [resolve_eq, Registry.resolve_of_none absent, bind_of_ok h]
  exact settle_of_absent address habsent

/-- A contract that is deployed is still ready, and its address can be recorded. -/
theorem Ready.of_deploy (h : Ready contract dependencies s)
    (hdeploy : deploy contract dependencies s = .ok address s') : Ready contract dependencies s' := by
  have hregistry := deploy_registry contract dependencies s
  rw [after_of_ok hdeploy] at hregistry
  exact h.congr hregistry

/-- A relation holds across each thing that is done to resolve a contract. -/
structure KeptByResolving (R : Session → Session → Prop) : Prop where
  /-- Finding the address of a contract. -/
  finding : ∀ {contract address s}, s.registry.get? contract = some address →
    R s (Registry.finding contract address s)
  /-- Calling the procedure of a contract that has no address. -/
  opening : ∀ {contract s}, s.registry.get? contract = none → R s (Registry.opening contract s)
  /-- Failing to deploy a contract whose dependencies are in place. -/
  failing : ∀ {contract dependencies s fault s'}, Ready contract dependencies s →
    deploy contract dependencies s = .error fault s' → R s s'
  /-- Deploying a contract whose dependencies are in place, and recording its address. -/
  making : ∀ {contract dependencies s address s'}, Ready contract dependencies s →
    deploy contract dependencies s = .ok address s' → R s (settled contract address s')

/-- A relation holds across each thing that is done to resolve a contract, and across recording an
address by itself. -/
structure KeptBySettling (R : Session → Session → Prop) : Prop where
  /-- Finding the address of a contract. -/
  finding : ∀ {contract address s}, s.registry.get? contract = some address →
    R s (Registry.finding contract address s)
  /-- Calling the procedure of a contract that has no address. -/
  opening : ∀ {contract s}, s.registry.get? contract = none → R s (Registry.opening contract s)
  /-- Deploying a contract whose dependencies are in place, however this ends. -/
  deploying : ∀ {contract dependencies s}, Ready contract dependencies s →
    R s ((deploy contract dependencies).after s)
  /-- Recording the address of a contract whose dependencies are in place. -/
  settling : ∀ {contract dependencies s} (address : Address), Ready contract dependencies s →
    R s (settled contract address s)

theorem KeptBySettling.keptByResolving [Follows R] (h : KeptBySettling R) : KeptByResolving R where
  finding := h.finding
  opening := h.opening
  failing hready hdeploy := after_of_error hdeploy ▸ h.deploying hready
  making hready hdeploy := Follows.trans (after_of_ok hdeploy ▸ h.deploying hready)
    (h.settling _ (hready.of_deploy hdeploy))

theorem keeps_mapM [Follows R] {α β : Type} {items : List α} {act : α → Action β}
    (h : ∀ item ∈ items, Keeps R (act item)) : Keeps R (items.mapM act) := by
  induction items with
  | nil => exact keeps_pure []
  | cons item rest ih =>
    rw [List.mapM_cons]
    refine (h item List.mem_cons_self).bind fun first => ?_
    exact (ih fun other hother => h other (List.mem_cons_of_mem _ hother)).bind fun others =>
      keeps_pure _

/-- A relation that holds across each thing that is done to resolve a contract is kept to by the
resolution of every contract, however it ends. -/
theorem KeptByResolving.resolve [Follows R] (h : KeptByResolving R) (contract : Contract) :
    Keeps R (resolve contract) := by
  intro s
  cases hget : s.registry.get? contract with
  | some address =>
    rw [after_of_ok (resolve_of_get? hget)]
    exact h.finding hget
  | none =>
    rw [resolve_eq, after, Registry.resolve_of_none hget]
    refine Follows.trans (h.opening hget) ?_
    rw [procedure, bind_assoc]
    refine after_bind ?_ fun dependencies ready hready => ?_
    · refine keeps_mapM (fun dependency _ => ?_) _
      exact (KeptByResolving.resolve h dependency.1).bind fun _ => keeps_pure _
    · have hplace := ready_of_resolveBelow hget hready
      cases hdeploy : deploy contract dependencies ready with
      | error fault s' =>
        rw [bind_assoc, after_of_error (bind_of_error hdeploy)]
        exact h.failing hplace hdeploy
      | ok address deployed =>
        have hsettle : (deploy contract dependencies >>= fun address =>
            pure (Value.text address.text) >>= Registry.settle contract) ready =
              .ok address (settled contract address deployed) :=
          (bind_of_ok hdeploy).trans (settle_of_absent address (hplace.of_deploy hdeploy).absent)
        rw [bind_assoc, after_of_ok hsettle]
        exact h.making hplace hdeploy
termination_by contract.height
decreasing_by exact Contract.height_lt_of_mem_dependencies dependency.2

end Rollout.Resolution
