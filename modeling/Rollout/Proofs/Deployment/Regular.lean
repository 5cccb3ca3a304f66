import Rollout.Proofs.Abi.Refusal
import Rollout.Proofs.Bytecode.Simultaneous
import Rollout.Proofs.Client.Plan
import Rollout.Proofs.Deployment.Run
import Rollout.Proofs.Resolution.Lazy
import Rollout.Proofs.Upholds

/-!
# Resolving with regular artifacts

Let the node and the genesis service serve, and let transactions be signed without asking (`Served`).
Then it is up to the build artifacts how a resolution ends. If those that can be read are regular
(`Regular`), a resolution succeeds or tells what is wrong with an artifact (`resolve_upholds`).
-/

namespace Rollout

open Rollout.Action

/-! ## A chain and a genesis service that serve -/

/-- A node serves: no access is refused, and each receipt tells of success and names an address. -/
structure Chain.Node.Serves (node : Chain.Node) : Prop where
  outages : node.outages = []
  receipts : ∀ number, ∃ status address, (node.receiptAt number).status = some status ∧
    status.EqualsOne ∧ Address.read (node.receiptAt number).contractAddress = .ok address

theorem Chain.Node.outage?_of_nil {node : Chain.Node} (h : node.outages = []) (step : Step) :
    node.outage? step = none := by
  unfold outage?
  rw [h]
  rfl

/-- A node without outages refuses nothing for which there are data. -/
theorem Chain.Node.allows_of_nil {node : Chain.Node} {plan : List Deed} (h : node.outages = [])
    (hplan : ∀ deed ∈ plan, ∀ other : Chain.Node, other.outages = [] →
      other.refusal? deed = none) : node.Allows plan := by
  induction plan generalizing node with
  | nil => trivial
  | cons deed rest ih =>
    obtain ⟨hdeed, hrest⟩ := List.forall_mem_cons.1 hplan
    have hafter : (node.afterDeed deed).outages = [] := by
      unfold afterDeed
      split
      · exact h
      · split
        · exact h
        · exact h
    exact ⟨hdeed node h, ih hafter hrest⟩

namespace Deployment

open Resolution

variable {s₀ s s' : Session} {contract : Contract} {fault : Fault}
  {dependencies : List (Contract × Address)}

/-! ## Regular artifacts -/

/-- The artifact of a contract is used: the contract is needed, or the proxy is and the contract is the
light client behind it. -/
def Uses (s : Session) (contract : Contract) : Prop :=
  contract ∈ needed s.registry.contracts ∨
    (contract = .lightClient ∧ .lightClientProxy ∈ needed s.registry.contracts)

/-- Transactions are signed without asking, the node serves, and the genesis state can be had. No
artifact is read yet, but it can be told which of those that are used there are. -/
structure Served (s : Session) : Prop where
  signs : s.client.autosign = true
  node : s.node.Serves
  genesis : ∃ genesis, genesisOf s = .ok genesis
  unread : s.artifacts.known = []
  holds : ∀ contract, Uses s contract →
    ∃ found, s.files.holds (s.artifacts.path contract).text = .ok found

/-- The number of arguments with which a contract is created. -/
def argumentCount : Contract → Nat
  | .lightClientProxy => 2
  | _ => 0

/-- The artifacts that a deployment needs are regular as far as they can be read: the compiler says of
each contract what libraries there are in the declared shape and by names that have a UTF-8 form, a
contract can be created with its interface, and the interface of the light client, which is created
without it, can be read to initialize the light client. No document that is used is deeper than is
read. -/
structure Regular (s : Session) : Prop where
  within : ∀ contract, Uses s contract → artifactOf s contract ≠ .error .tooDeep
  references : ∀ contract ∈ needed s.registry.contracts, ∀ artifact,
    artifactOf s contract = .ok artifact →
      Bytecode.Declared artifact.bytecode.references ∧ artifact.bytecode.Encodable
  interfaces : ∀ contract ∈ needed s.registry.contracts, contract ≠ .lightClient → ∀ artifact,
    artifactOf s contract = .ok artifact →
      ∃ entries, Abi.Creatable (argumentCount contract) artifact.interface entries
  initializer : .lightClientProxy ∈ needed s.registry.contracts → ∀ artifact,
    artifactOf s .lightClient = .ok artifact → ∃ entries, Abi.Readable artifact.interface entries

/-- What is told of an artifact that cannot be used. -/
inductive Blamed (s : Session) : Fault → Prop where
  /-- The artifact of a contract cannot be read. -/
  | unread {contract : Contract} {cause : Cause} : Uses s contract →
    artifactOf s contract = .error (.deployment cause (some contract)) → cause.family = .artifact →
    Blamed s (.deployment cause (some contract))
  /-- The bytecode of a contract cannot be linked. -/
  | unlinked {contract : Contract} {artifact : Artifact} {addresses : List (LibraryName × Address)}
    {cause : Cause} : contract ∈ needed s.registry.contracts → artifactOf s contract = .ok artifact →
    artifact.bytecode.link addresses = .error (.deployment cause (some contract)) →
    cause.family = .linking → Blamed s (.deployment cause (some contract))
  /-- The interface of the light client does not take the call that initializes it for the proxy. -/
  | uninitialized {artifact : Artifact} {genesis : Genesis} {cause : Cause} :
    .lightClientProxy ∈ needed s.registry.contracts → artifactOf s .lightClient = .ok artifact →
    Abi.encodeCall (some .lightClientProxy) artifact.interface initializer
        [genesis.argument, .integer blocksPerEpoch] =
      .error (.deployment cause (some .lightClientProxy)) →
    cause.family = .initialization → Blamed s (.deployment cause (some .lightClientProxy))
  /-- The constructor of a contract does not take its arguments. -/
  | refused {contract : Contract} {artifact : Artifact} {code : Octets} {arguments : List Value} :
    contract ∈ needed s.registry.contracts → artifactOf s contract = .ok artifact →
    Abi.creationData artifact.interface code arguments = .error Abi.refused →
    Blamed s (.deployment (.transactionFailed Abi.noReason) (some contract))

/-! ## Reading artifacts -/

theorem artifactOf_of_unread (h : s.artifacts.known = []) (contract : Contract) :
    artifactOf s contract =
      Artifact.load s.artifacts.nesting s.files contract (s.artifacts.path contract).text := by
  rw [artifactOf_eq, h]
  rfl

/-- The artifact of a contract that is used has bytecode of the contract, or it is told that it is no
good. -/
theorem tells_artifactOf (hserved : Served s) (hregular : Regular s) (huses : Uses s contract) :
    Artifact.Tells contract ((artifactOf s contract).map Artifact.bytecode) := by
  obtain ⟨found, hholds⟩ := hserved.holds contract huses
  have hwithin := hregular.within contract huses
  rw [artifactOf_of_unread hserved.unread] at hwithin ⊢
  exact Artifact.tells_load hholds hwithin

/-! ## What stays while contracts are resolved -/

/-- A session comes later in a deployment that began in another session, as long as contracts are
resolved. -/
structure Later (s₀ s : Session) : Prop extends Frame s₀ s where
  signs : s.client.autosign = s₀.client.autosign
  predeployed : s.registry.predeployed = s₀.registry.predeployed
  grows : ∀ contract ∈ s₀.registry.contracts, contract ∈ s.registry.contracts

instance : Follows Later where
  refl s := ⟨Follows.refl s, rfl, rfl, fun _ => id⟩
  trans h h' := ⟨Follows.trans h.toFrame h'.toFrame, h'.signs.trans h.signs,
    h'.predeployed.trans h.predeployed,
    fun contract hcontract => h'.grows contract (h.grows contract hcontract)⟩

theorem later_of_frame (h : Frame s s') (hclient : s'.client.autosign = s.client.autosign)
    (hregistry : s'.registry = s.registry) : Later s s' :=
  ⟨h, hclient, by rw [hregistry], fun contract hcontract => by rwa [hregistry]⟩

theorem later_of_prepares (h : Prepares s s') : Later s s' :=
  later_of_frame h.frame (by rw [h.client]) h.registry

theorem later_of_onlyTransacts (h : Client.OnlyTransacts s s') : Later s s' :=
  later_of_frame (frame_of_onlyTransacts h) (by rw [h]) (by rw [h])

theorem Later.outage? (h : Later s₀ s) (hserved : Served s₀) (step : Chain.Step) :
    s.node.outage? step = none := by
  refine Chain.Node.outage?_of_nil ?_ step
  rw [h.node]
  exact hserved.node.outages

/-! ## Creating contracts -/

/-- A node without outages refuses nothing of the creation of a contract that has data. -/
theorem allows_creation {creation : Client.Creation} {data : Octets} (houtages : s.node.outages = [])
    (hdata : Abi.creationData creation.interface creation.bytecode creation.arguments = .ok data) :
    s.node.Allows (creation.plan s) := by
  refine Chain.Node.allows_of_nil houtages fun deed hdeed other hother => ?_
  rw [Client.Creation.plan, hdata] at hdeed
  rcases List.mem_cons.1 hdeed with rfl | hdeed
  · simp only [Client.Creation.beginning, Chain.Node.refusal?]
    rw [hdata]
  · obtain ⟨event, -, rfl⟩ := List.mem_map.1 hdeed
    rw [Chain.Node.refusal?_access]
    cases Deed.step? (.access (some creation.contract) event) with
    | none => rfl
    | some step => exact Chain.Node.outage?_of_nil hother step

/-- The creation of a contract that has no data ends once there is consent to it. -/
theorem creation_run_of_refused {creation : Client.Creation} (hagreed : creation.Agreed s)
    (hcheck : Abi.checkCreatable creation.interface = .ok ())
    (hdata : Abi.creationData creation.interface creation.bytecode creation.arguments =
      .error Abi.refused) :
    ∃ s', creation.run s =
      .error (.deployment (.transactionFailed Abi.noReason) (some creation.contract)) s' := by
  obtain ⟨asked, hask⟩ := Client.Creation.ask_eq_ok_iff.2 hagreed
  have htransact : creation.transact asked = .error Abi.refused
      { asked with deeds := asked.deeds ++ [creation.beginning] } := by
    refine bind_of_error ((bind_of_ok rfl).trans (bind_of_error ?_))
    show ofExcept (Abi.creationData creation.interface creation.bytecode creation.arguments) _ = _
    rw [hdata]
    rfl
  have hnaming : Client.naming .transactionFailed (some creation.contract) creation.transact asked =
      .error (.deployment (.transactionFailed Abi.noReason) (some creation.contract)) _ :=
    tryCatch_of_error htransact
  exact ⟨_, (Client.Creation.run_of_ask hask hcheck).trans (bind_of_error hnaming)⟩

/-- If the node serves, the creation of a contract with an interface that can be used goes well, unless
the encoder refuses the arguments. -/
theorem deploy_upholds {interface : Value} {code : Octets} {arguments : List Value}
    (hserved : Served s₀) (hcheck : Abi.checkCreatable interface = .ok ())
    (hrefused : ∀ fault, Abi.creationData interface code arguments = .error fault →
      fault = Abi.refused ∧
        Blamed s₀ (.deployment (.transactionFailed Abi.noReason) (some contract))) :
    Upholds (Later s₀) (Blamed s₀) (fun _ => True)
      (Client.deploy contract interface code arguments) := by
  intro s hlater
  let creation : Client.Creation := ⟨contract, interface, code, arguments⟩
  have hagreed : creation.Agreed s := .signs (hlater.signs.trans hserved.signs)
  cases hdata : Abi.creationData interface code arguments with
  | ok data =>
    have houtages : s.node.outages = [] := by rw [hlater.node]; exact hserved.node.outages
    have hreceipt := hserved.node.receipts s.node.sent
    rw [← receiptAt_of_frame hlater.toFrame] at hreceipt
    obtain ⟨status, address, hstatus, hsucceeded, hnames⟩ := hreceipt
    have hsucceeds : creation.Succeeds s address :=
      ⟨hagreed, hcheck, ⟨data, hdata⟩, allows_creation houtages hdata, ⟨status, hstatus, hsucceeded⟩,
        hnames⟩
    obtain ⟨s', hrun⟩ := Client.Creation.run_eq_ok_iff.2 hsucceeds
    have hkeeps : Client.OnlyTransacts s s' :=
      after_of_ok hrun ▸ (Client.onlyTransacts_kept contract).deploy interface code arguments s
    exact Or.inl ⟨address, s', hrun, trivial, Follows.trans hlater (later_of_onlyTransacts hkeeps)⟩
  | error fault =>
    obtain ⟨rfl, hblamed⟩ := hrefused fault hdata
    obtain ⟨s', hrun⟩ := creation_run_of_refused hagreed hcheck hdata
    exact Or.inr ⟨_, s', hrun, hblamed⟩

/-- Reading the artifact of a contract that is used gives the artifact that the session has for it. -/
theorem artifact_upholds (hserved : Served s₀) (hregular : Regular s₀) (huses : Uses s₀ contract) :
    Upholds (Later s₀) (Blamed s₀)
      (fun artifact => artifactOf s₀ contract = .ok artifact) (Action.artifact contract) := by
  intro s hlater
  rcases artifact_cases contract s with
    ⟨artifact, store, hartifact, hread, hstore⟩ | ⟨fault, hartifact, hread⟩
  · refine Or.inl ⟨artifact, _, hread, (hlater.artifact contract).symm.trans hartifact, ?_⟩
    exact Follows.trans hlater (later_of_frame ⟨rfl, rfl, rfl, hstore, rfl⟩ rfl rfl)
  · have hartifact' := (hlater.artifact contract).symm.trans hartifact
    have htells := tells_artifactOf hserved hregular huses
    rw [hartifact'] at htells
    obtain ⟨cause, rfl, hfamily⟩ := htells
    exact Or.inr ⟨_, s, hread, .unread huses hartifact' hfamily⟩

theorem genesis_upholds (hserved : Served s₀) :
    Upholds (Later s₀) (Blamed s₀) (fun _ => True) Action.genesis := by
  intro s hlater
  obtain ⟨genesis, hgenesis⟩ := hserved.genesis
  rw [← hlater.genesis] at hgenesis
  obtain ⟨s', hok⟩ := genesis_of_genesisOf hgenesis
  obtain ⟨-, -, hprepares⟩ := genesis_eq_ok hok
  exact Or.inl ⟨genesis, s', hok, trivial, Follows.trans hlater (later_of_prepares hprepares)⟩

theorem notice_upholds (text : String) :
    Upholds (Later s₀) (Blamed s₀) (fun _ => True) (Action.notice text) := by
  refine upholds_modify fun s hlater => Follows.trans hlater ?_
  exact later_of_onlyTransacts rfl

/-! ## Procedures -/

/-- What is told if the bytecode of a contract cannot be linked. -/
theorem link_upholds {artifact : Artifact} (hserved : Served s₀) (hregular : Regular s₀)
    (hneeded : contract ∈ needed s₀.registry.contracts)
    (hartifact : artifactOf s₀ contract = .ok artifact) (addresses : List (LibraryName × Address)) :
    Upholds (Later s₀) (Blamed s₀) (fun _ => True)
      (Action.ofExcept (artifact.bytecode.link addresses)) := by
  refine upholds_ofExcept (fun _ _ => trivial) fun fault hlink => ?_
  obtain ⟨hdeclared, hencodable⟩ := hregular.references contract hneeded artifact hartifact
  obtain ⟨cause, rfl, hfamily⟩ := Bytecode.fault_of_link hdeclared hencodable hlink
  have htells := tells_artifactOf hserved hregular (Or.inl hneeded)
  rw [hartifact] at htells
  have hcontract : artifact.bytecode.contract = some contract := htells
  rw [hcontract] at hlink ⊢
  exact .unlinked hneeded hartifact hlink hfamily

theorem deployArtifact_upholds {arguments : List Value} (hserved : Served s₀)
    (hregular : Regular s₀) (hneeded : contract ∈ needed s₀.registry.contracts)
    (hcontract : contract ≠ .lightClient) (hcount : arguments.length = argumentCount contract) :
    Upholds (Later s₀) (Blamed s₀) (fun _ => True) (Client.deployArtifact contract arguments) := by
  refine (artifact_upholds hserved hregular (Or.inl hneeded)).bind fun artifact hartifact => ?_
  refine (link_upholds hserved hregular hneeded hartifact []).bind fun code _ => ?_
  obtain ⟨entries, hcreatable⟩ := hregular.interfaces contract hneeded hcontract artifact hartifact
  refine deploy_upholds hserved hcreatable.checkCreatable_eq fun fault hdata => ?_
  obtain rfl := hcreatable.creationData_eq_error hcount hdata
  exact ⟨rfl, .refused hneeded hartifact hdata⟩

theorem deployLightClient_upholds (hserved : Served s₀) (hregular : Regular s₀)
    (hneeded : .lightClient ∈ needed s₀.registry.contracts) :
    Upholds (Later s₀) (Blamed s₀) (fun _ => True) (deployLightClient dependencies) := by
  refine (artifact_upholds hserved hregular (Or.inl hneeded)).bind fun artifact hartifact => ?_
  refine (link_upholds hserved hregular hneeded hartifact _).bind fun code _ => ?_
  -- with an interface that lists nothing, the code is all there is to the data
  exact deploy_upholds hserved rfl fun fault hdata => nomatch hdata

theorem deployProxy_upholds (hserved : Served s₀) (hregular : Regular s₀)
    (hneeded : .lightClientProxy ∈ needed s₀.registry.contracts) (lightClient : Address) :
    Upholds (Later s₀) (Blamed s₀) (fun _ => True) (deployProxy lightClient) := by
  have huses : Uses s₀ .lightClient := Or.inr ⟨rfl, hneeded⟩
  refine (artifact_upholds hserved hregular huses).bind fun artifact hartifact => ?_
  refine (genesis_upholds hserved).bind fun genesis _ => ?_
  obtain ⟨entries, hreadable⟩ := hregular.initializer hneeded artifact hartifact
  have hlegible : Abi.Legible artifact.interface := ⟨entries, hreadable.toLists⟩
  have hcall : Upholds (Later s₀) (Blamed s₀) (fun _ => True)
      (Action.ofExcept (Abi.encodeCall (some .lightClientProxy) artifact.interface initializer
        [genesis.argument, .integer blocksPerEpoch])) := by
    refine upholds_ofExcept (fun _ _ => trivial) fun fault hrefused => ?_
    obtain ⟨cause, rfl, hfamily⟩ := Abi.encodeCall_eq_error hlegible (List.cons_ne_nil _ _) hrefused
    exact .uninitialized hneeded hartifact hrefused hfamily
  refine hcall.bind fun call _ => (notice_upholds _).bind fun _ _ => ?_
  exact deployArtifact_upholds hserved hregular hneeded (by decide) rfl

theorem procedure_upholds (hserved : Served s₀) (hregular : Regular s₀)
    (hneeded : contract ∈ needed s₀.registry.contracts)
    (hnames : dependencies.map (·.1) = contract.dependencies) :
    Upholds (Later s₀) (Blamed s₀) (fun _ => True) (deploy contract dependencies) := by
  cases contract with
  | lightClient => exact deployLightClient_upholds hserved hregular hneeded
  | lightClientProxy =>
    cases dependencies with
    | nil => cases hnames
    | cons entry rest => exact deployProxy_upholds hserved hregular hneeded entry.2
  | hotShot => exact deployArtifact_upholds hserved hregular hneeded (by decide) rfl
  | plonkVerifier => exact deployArtifact_upholds hserved hregular hneeded (by decide) rfl
  | lightClientStateUpdateVK => exact deployArtifact_upholds hserved hregular hneeded (by decide) rfl

/-! ## Resolving -/

/-- What is reached is recorded, or it is needed. -/
theorem mem_needed_of_reached {recorded : List Contract}
    (h : Reached recorded [.hotShot, .lightClientProxy] contract) (hnew : contract ∉ recorded) :
    contract ∈ needed recorded := by
  have hall : contract ∈ recorded ∨ contract ∈ needed recorded := by
    clear hnew
    induction h with
    | target htarget =>
      rcases List.mem_cons.1 htarget with rfl | htarget
      · by_cases hmem : .hotShot ∈ recorded <;> simp [needed, hmem]
      · obtain rfl := List.mem_singleton.1 htarget
        by_cases hmem : .lightClientProxy ∈ recorded <;> simp [needed, hmem]
    | @dependency contract dependency _ hpasses hdependency ih =>
      have hneeded := ih.resolve_left hpasses
      by_cases hmem : dependency ∈ recorded
      · exact Or.inl hmem
      · refine Or.inr ?_
        unfold needed at hneeded ⊢
        cases contract <;> cases dependency <;> simp_all [Contract.dependencies]
  exact hall.resolve_left hnew

/-- **Resolving with regular artifacts.** A contract that is reached is resolved, or it is told what is
wrong with an artifact. -/
theorem resolve_upholds {contract : Contract} (hserved : Served s₀) (hregular : Regular s₀)
    (hreached : Reached s₀.registry.contracts [.hotShot, .lightClientProxy] contract) :
    Upholds (Later s₀) (Blamed s₀) (fun _ => True) (resolve contract) := by
  intro s hlater
  cases hget : s.registry.get? contract with
  | some address =>
    have hfound : Later s (Registry.finding contract address s) :=
      later_of_frame ⟨rfl, rfl, rfl, fun _ => rfl, rfl⟩ rfl rfl
    exact Or.inl ⟨address, _, resolve_of_get? hget, trivial, Follows.trans hlater hfound⟩
  | none =>
    have hnew : contract ∉ s₀.registry.contracts := fun hmem =>
      Registry.get?_eq_none_iff.1 hget (hlater.grows contract hmem)
    have hneeded := mem_needed_of_reached hreached hnew
    have hopened : Later s₀ (Registry.opening contract s) :=
      Follows.trans hlater (later_of_frame ⟨rfl, rfl, rfl, fun _ => rfl, rfl⟩ rfl rfl)
    have hbelow : Upholds (Later s₀) (Blamed s₀) (fun _ => True) (resolveBelow contract) := by
      refine upholds_mapM fun dependency _ => ?_
      have hresolve := resolve_upholds hserved hregular
        (hreached.dependency hnew dependency.2)
      exact hresolve.bind fun _ _ => upholds_pure trivial
    have hrun : resolve contract s =
        (procedure contract >>= Registry.settle contract) (Registry.opening contract s) := by
      rw [resolve_eq, Registry.resolve_of_none hget]
    rw [hrun, procedure, bind_assoc]
    rcases hbelow _ hopened with
      ⟨dependencies, ready, hbelow, -, hlater'⟩ | ⟨fault, s', herror, hblamed⟩
    · -- the contract is absent even when its dependencies are in place, so its address can be recorded
      have hready := ready_of_resolveBelow hget hbelow
      rw [bind_of_ok hbelow, bind_assoc]
      rcases procedure_upholds hserved hregular hneeded hready.names ready hlater' with
        ⟨address, deployed, hdeploy, -, hlater''⟩ | ⟨fault, s', herror, hblamed⟩
      · have hregistry := deploy_registry contract dependencies ready
        rw [after_of_ok hdeploy] at hregistry
        have hsettle := settle_of_absent address (hready.congr hregistry).absent
        have hsettled : Later deployed (settled contract address deployed) := by
          refine ⟨⟨rfl, rfl, rfl, fun _ => rfl, rfl⟩, rfl, rfl, fun other hmem => ?_⟩
          show other ∈ (deployed.registry.addresses ++ [(contract, address)]).map Prod.fst
          rw [List.map_append]
          exact List.mem_append_left _ hmem
        refine Or.inl ⟨address, _, (bind_of_ok hdeploy).trans ?_, trivial,
          Follows.trans hlater'' hsettled⟩
        exact (bind_of_ok rfl).trans hsettle
      · exact Or.inr ⟨fault, s', bind_of_error herror, hblamed⟩
    · exact Or.inr ⟨fault, s', bind_of_error herror, hblamed⟩
termination_by contract.height
decreasing_by exact Contract.height_lt_of_mem_dependencies dependency.2

end Deployment

end Rollout
