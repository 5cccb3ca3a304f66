import Rollout.Proofs.Client
import Rollout.Resolution

/-!
# What the procedures do

The procedure of each contract is followed in two ways: by its script (`deploy_scripted`), however it
ends, and by the contract that it has created if it ends with an address (`deploy_eq_ok`). The
artifacts and the genesis state that a procedure uses are those that the session has from the
beginning (`Frame`).
-/

namespace Rollout.Resolution

open Rollout.Action

variable {s s' mid : Session} {contract : Contract} {dependencies : List (Contract × Address)}
  {address : Address} {data : Octets}

/-! ## What stays as it is -/

/-- The artifact that a session has for a contract. -/
def artifactOf (s : Session) (contract : Contract) : Except Fault Artifact :=
  (s.artifacts.get s.files contract).map (·.1)

/-- The genesis state that a session has, or gets from the web. -/
def genesisOf (s : Session) : Except Fault Genesis :=
  match s.genesis.fetched with
  | some genesis => .ok genesis
  | none => s.genesis.read s.web.answer

/-- Another session has the same files, output, artifacts and genesis state, and the same node but for
what it counts. -/
structure Frame (s s' : Session) : Prop where
  files : s'.files = s.files
  output : s'.output = s.output
  node : s'.node = { s.node with sent := s'.node.sent, accesses := s'.node.accesses }
  artifact : ∀ contract, artifactOf s' contract = artifactOf s contract
  genesis : genesisOf s' = genesisOf s

instance : Follows Frame where
  refl s := ⟨rfl, rfl, rfl, fun _ => rfl, rfl⟩
  trans h h' := by
    refine ⟨h'.files.trans h.files, h'.output.trans h.output, ?_,
      fun contract => (h'.artifact contract).trans (h.artifact contract),
      h'.genesis.trans h.genesis⟩
    rw [h'.node, h.node]

theorem frame_of_onlyTransacts (h : Client.OnlyTransacts s s') : Frame s s' := by
  rw [Client.OnlyTransacts] at h
  rw [h]
  exact ⟨rfl, rfl, rfl, fun _ => rfl, rfl⟩

/-- From one session to another, what a transaction needs was looked up. -/
structure Prepares (s s' : Session) : Prop where
  frame : Frame s s'
  quiet : Client.Quiet s s'
  client : s'.client = s.client
  registry : s'.registry = s.registry

instance : Follows Prepares where
  refl s := ⟨Follows.refl s, Follows.refl s, rfl, rfl⟩
  trans h h' := ⟨Follows.trans h.frame h'.frame, Follows.trans h.quiet h'.quiet,
    h'.client.trans h.client, h'.registry.trans h.registry⟩

/-- From one session to another, something was looked up, but not the genesis state. -/
structure Looks (s s' : Session) : Prop extends Prepares s s' where
  genesis : s'.genesis = s.genesis

instance : Follows Looks where
  refl s := ⟨Follows.refl s, rfl⟩
  trans h h' := ⟨Follows.trans h.toPrepares h'.toPrepares, h'.genesis.trans h.genesis⟩

theorem looks_of_onlyConverses (h : Client.OnlyConverses s s') : Looks s s' := by
  have hframe := frame_of_onlyTransacts h.onlyTransacts
  have hquiet := h.quiet
  rw [Client.OnlyConverses] at h
  refine ⟨⟨hframe, hquiet, ?_, ?_⟩, ?_⟩ <;> rw [h]

/-! ## Artifacts -/

/-- A store answers the same before and after it has read an artifact. -/
theorem get_of_get {store store' : ArtifactStore} {files : File.Tree} {artifact : Artifact}
    (h : store.get files contract = .ok (artifact, store')) (other : Contract) :
    (store'.get files other).map (·.1) = (store.get files other).map (·.1) := by
  rw [ArtifactStore.get] at h
  cases hknown : store.known.lookup contract with
  | some known =>
    rw [hknown] at h
    cases h
    rfl
  | none =>
    rw [hknown] at h
    cases hload : Artifact.load store.nesting files contract (store.path contract).text with
    | error fault =>
      rw [hload] at h
      cases h
    | ok loaded =>
      rw [hload] at h
      cases h
      by_cases e : other = contract
      · subst e
        simp [ArtifactStore.get, hknown, hload, bind, Except.bind, Except.map, pure,
          Except.pure]
      · have differ : (other == contract) = false := by simp [e]
        simp only [ArtifactStore.get, List.lookup_cons, differ]
        cases store.known.lookup other with
        | some known => rfl
        | none =>
          show Except.map _ (Artifact.load store.nesting files other (store.path other).text >>= _) =
            Except.map _ (Artifact.load store.nesting files other (store.path other).text >>= _)
          cases Artifact.load store.nesting files other (store.path other).text <;> rfl

theorem artifact_eq_ok {artifact : Artifact} (h : Action.artifact contract s = .ok artifact s') :
    artifactOf s contract = .ok artifact ∧ Looks s s' := by
  obtain ⟨_, _, hget, hlooked⟩ := bind_eq_ok.1 h
  cases hget
  obtain ⟨⟨found, store⟩, _, hlookup, hstored⟩ := bind_eq_ok.1 hlooked
  obtain ⟨hfound, rfl⟩ := ofExcept_eq_ok.1 hlookup
  cases hstored
  refine ⟨?_, ⟨⟨rfl, rfl, rfl, get_of_get hfound, rfl⟩,
    Client.quiet_of_eq rfl rfl rfl, rfl, rfl⟩, rfl⟩
  rw [artifactOf, hfound]
  rfl

theorem artifact_scripted (contract : Contract) (s : Session) :
    Scripted (Action.artifact contract) s [] := by
  refine scripted_get ((scripted_ofExcept _ s).nil_bind fun found mid hfound => ?_)
  obtain ⟨-, rfl⟩ := ofExcept_eq_ok.1 hfound
  exact scripted_nil rfl rfl

/-! ## The genesis state -/

/-- What getting the genesis state does, in outline. -/
def genesisScript (genesisKnown : Bool) : List Outline := if genesisKnown then [] else [.request]

theorem request_scripted (url : String) (timeout : Int) (s : Session) :
    Scripted (request url timeout) s [.request] :=
  ⟨[.access none (.request url timeout)], rfl, List.prefix_rfl, fun _ _ _ => rfl, .nil s.registry⟩

theorem genesis_scripted (s : Session) :
    Scripted Action.genesis s (genesisScript s.genesis.fetched.isSome) := by
  refine scripted_get ?_
  rw [genesisScript]
  cases s.genesis.fetched with
  | some genesis => exact scripted_pure genesis s
  | none =>
    refine (Client.scripted_of_onlyConverses (Client.notice_keeps _) s).nil_bind fun _ mid _ => ?_
    refine (request_scripted _ _ mid).bind_nil fun answer mid => ?_
    refine (scripted_ofExcept _ mid).nil_bind fun genesis mid _ => ?_
    exact scripted_nil rfl rfl

theorem genesis_eq_ok {genesis : Genesis} (h : Action.genesis s = .ok genesis s') :
    genesisOf s = .ok genesis ∧ s'.genesis.fetched.isSome ∧ Prepares s s' := by
  rw [genesisOf]
  cases hfetched : s.genesis.fetched with
  | some known =>
    rw [genesis_of_some hfetched] at h
    cases h
    exact ⟨rfl, by rw [hfetched]; rfl, Follows.refl s⟩
  | none =>
    rw [genesis_of_none hfetched] at h
    split at h
    · next found hread =>
      cases h
      refine ⟨hread, rfl, ⟨rfl, rfl, rfl, fun _ => rfl, ?_⟩,
        ⟨rfl, id, [.access none (.request _ _)], rfl, rfl, rfl, rfl⟩, rfl, rfl⟩
      rw [genesisOf, genesisOf, hfetched]
      exact hread.symm
    · cases h

/-- The genesis state that a session has, or gets, can be had. -/
theorem genesis_of_genesisOf {genesis : Genesis} (h : genesisOf s = .ok genesis) :
    ∃ s', Action.genesis s = .ok genesis s' := by
  unfold genesisOf at h
  cases hfetched : s.genesis.fetched with
  | some known =>
    rw [hfetched] at h
    obtain rfl := Except.ok.inj h
    exact ⟨s, genesis_of_some hfetched⟩
  | none =>
    have hread : s.genesis.read s.web.answer = .ok genesis := by
      rwa [hfetched] at h
    exact ⟨_, by rw [genesis_of_none hfetched, hread]⟩

/-! ## The scripts of the procedures -/

/-- Reading the artifact of a contract and linking it is not in the script. -/
theorem linked_scripted (contract : Contract) (addresses : List (LibraryName × Address))
    (interface : Artifact → Value) (arguments : List Value) (s : Session) :
    Scripted (Action.artifact contract >>= fun artifact =>
        Action.ofExcept (artifact.bytecode.link addresses) >>= fun code =>
          Client.deploy contract (interface artifact) code arguments) s
      (Client.creationScript contract s.client.chainId.isSome) := by
  refine (artifact_scripted contract s).nil_bind fun artifact mid hartifact => ?_
  obtain ⟨-, hlooks⟩ := artifact_eq_ok hartifact
  refine (scripted_ofExcept _ mid).nil_bind fun code _ hcode => ?_
  obtain ⟨-, rfl⟩ := ofExcept_eq_ok.1 hcode
  rw [← hlooks.client]
  exact Client.deploy_scripted _ _ _ _ mid

theorem deployArtifact_scripted (contract : Contract) (arguments : List Value) (s : Session) :
    Scripted (Client.deployArtifact contract arguments) s
      (Client.creationScript contract s.client.chainId.isSome) :=
  linked_scripted contract [] Artifact.interface arguments s

/-- The light client is created without an interface. -/
theorem deployLightClient_scripted (dependencies : List (Contract × Address)) (s : Session) :
    Scripted (deployLightClient dependencies) s
      (Client.creationScript .lightClient s.client.chainId.isSome) :=
  linked_scripted .lightClient (libraryAddresses dependencies) (fun _ => .list []) [] s

theorem deployProxy_scripted (lightClient : Address) (s : Session) :
    Scripted (deployProxy lightClient) s (genesisScript s.genesis.fetched.isSome
      ++ Client.creationScript .lightClientProxy s.client.chainId.isSome) := by
  refine (artifact_scripted .lightClient s).nil_bind fun artifact mid hartifact => ?_
  obtain ⟨-, hlooks⟩ := artifact_eq_ok hartifact
  rw [← hlooks.client, ← hlooks.genesis]
  refine (genesis_scripted mid).bind fun genesis known hgenesis => ?_
  obtain ⟨-, -, hprepares⟩ := genesis_eq_ok hgenesis
  rw [← hprepares.client]
  refine (scripted_ofExcept _ known).nil_bind fun call _ hcall => ?_
  obtain ⟨-, rfl⟩ := ofExcept_eq_ok.1 hcall
  have hnotice := Client.scripted_of_onlyConverses (Client.notice_keeps
    ("\nWrapping " ++ Contract.lightClient.artifact ++ " at " ++ lightClient.text ++ " into "
      ++ Contract.lightClientProxy.artifact ++ ".")) known
  refine hnotice.nil_bind fun _ noticed hnoticed => ?_
  cases hnoticed
  exact deployArtifact_scripted _ _ _

/-- What the procedure of a contract does once its dependencies are in place, in outline. -/
def procedureScript (contract : Contract) (chainKnown genesisKnown : Bool) : List Outline :=
  (if contract = .lightClientProxy then genesisScript genesisKnown else [])
    ++ Client.creationScript contract chainKnown

/-- The procedure of a contract follows its script, however it ends. -/
theorem deploy_scripted (hdependencies : dependencies.map (·.1) = contract.dependencies)
    (s : Session) : Scripted (deploy contract dependencies) s
      (procedureScript contract s.client.chainId.isSome s.genesis.fetched.isSome) := by
  cases contract with
  | lightClient => exact deployLightClient_scripted dependencies s
  | lightClientProxy =>
    cases dependencies with
    | nil => cases hdependencies
    | cons entry rest => exact deployProxy_scripted entry.2 s
  | hotShot => exact deployArtifact_scripted .hotShot [] s
  | plonkVerifier => exact deployArtifact_scripted .plonkVerifier [] s
  | lightClientStateUpdateVK => exact deployArtifact_scripted .lightClientStateUpdateVK [] s

/-! ## The contracts that the procedures create -/

/-- Data are those for the artifact of a contract, with arguments for its constructor. -/
def ArtifactData (s : Session) (contract : Contract) (arguments : List Value) (data : Octets) :
    Prop :=
  ∃ artifact code, artifactOf s contract = .ok artifact ∧ artifact.bytecode.link [] = .ok code ∧
    Abi.creationData artifact.interface code arguments = .ok data

/-- Data are those of the light client, linked against its libraries. -/
def LightClientData (s : Session) (dependencies : List (Contract × Address)) (data : Octets) :
    Prop :=
  ∃ artifact, artifactOf s .lightClient = .ok artifact ∧
    artifact.bytecode.link (libraryAddresses dependencies) = .ok data

/-- Data are those of the proxy in front of a light client. -/
def ProxyData (s : Session) (lightClient : Address) (data : Octets) : Prop :=
  ∃ artifact genesis call, artifactOf s .lightClient = .ok artifact ∧ genesisOf s = .ok genesis ∧
    Abi.encodeCall (some .lightClientProxy) artifact.interface initializer
      [genesis.argument, .integer blocksPerEpoch] = .ok call ∧
    ArtifactData s .lightClientProxy [.text lightClient.text, .octets call] data

/-- Data are those with which a contract is created if its dependencies are at some addresses. -/
def DataFor (s : Session) (contract : Contract) (dependencies : List (Contract × Address))
    (data : Octets) : Prop :=
  match contract, dependencies with
  | .lightClient, dependencies => LightClientData s dependencies data
  | .lightClientProxy, (_, lightClient) :: _ => ProxyData s lightClient data
  | contract, _ => ArtifactData s contract [] data

/-- From one session to another, the procedure of a contract has created it. -/
structure Deploys (contract : Contract) (data : Octets) (address : Address) (s s' : Session) :
    Prop where
  creates : Client.Creates contract data address s s'
  frame : Frame s s'
  registry : s'.registry = s.registry
  genesisKnown : s'.genesis.fetched.isSome =
    (s.genesis.fetched.isSome || decide (contract = .lightClientProxy))

theorem Frame.artifactData_iff {arguments : List Value} (h : Frame s s') :
    ArtifactData s' contract arguments data ↔ ArtifactData s contract arguments data := by
  rw [ArtifactData, ArtifactData, h.artifact]

/-- The data for a contract depend only on what stays as it is. -/
theorem Frame.dataFor_iff (h : Frame s s') :
    DataFor s' contract dependencies data ↔ DataFor s contract dependencies data := by
  unfold DataFor
  split
  · rw [LightClientData, LightClientData, h.artifact]
  · simp only [ProxyData, h.artifact, h.genesis, h.artifactData_iff]
  · exact h.artifactData_iff

theorem deploys_of_prepares {interface : Value} {code : Octets} {arguments : List Value}
    (hprepares : Prepares s mid)
    (h : Client.deploy contract interface code arguments mid = .ok address s') :
    ∃ data, Abi.creationData interface code arguments = .ok data ∧
      Client.Creates contract data address s s' ∧ Frame s s' ∧ s'.registry = s.registry ∧
      s'.genesis = mid.genesis := by
  obtain ⟨data, hdata, hcreates⟩ := Client.deploy_eq_ok h
  have hkeeps : Client.OnlyTransacts mid s' :=
    after_of_ok h ▸ (Client.onlyTransacts_kept contract).deploy _ _ _ mid
  refine ⟨data, hdata, hcreates.after_quiet hprepares.quiet,
    Follows.trans hprepares.frame (frame_of_onlyTransacts hkeeps), ?_, ?_⟩
  · rw [hkeeps, hprepares.registry]
  · rw [hkeeps]

/-- What is done with the artifact of a contract is done once it is read and linked. -/
theorem linked_eq_ok {addresses : List (LibraryName × Address)}
    {create : Artifact → Octets → Action Address}
    (h : (Action.artifact contract >>= fun artifact =>
      Action.ofExcept (artifact.bytecode.link addresses) >>= fun code => create artifact code) s =
        .ok address s') :
    ∃ artifact code mid, artifactOf s contract = .ok artifact ∧
      artifact.bytecode.link addresses = .ok code ∧ Looks s mid ∧
        create artifact code mid = .ok address s' := by
  obtain ⟨artifact, mid, hartifact, hfound⟩ := bind_eq_ok.1 h
  obtain ⟨hhas, hlooks⟩ := artifact_eq_ok hartifact
  obtain ⟨code, _, hlink, hcreate⟩ := bind_eq_ok.1 hfound
  obtain ⟨hcode, rfl⟩ := ofExcept_eq_ok.1 hlink
  exact ⟨artifact, code, mid, hhas, hcode, hlooks, hcreate⟩

theorem deployArtifact_eq_ok {arguments : List Value}
    (h : Client.deployArtifact contract arguments s = .ok address s') :
    ∃ data, ArtifactData s contract arguments data ∧
      Client.Creates contract data address s s' ∧ Frame s s' ∧ s'.registry = s.registry ∧
      s'.genesis = s.genesis := by
  obtain ⟨artifact, code, mid, hhas, hcode, hlooks, hdeploy⟩ := linked_eq_ok h
  obtain ⟨data, hdata, hcreates, hframe, hregistry, hgenesis⟩ :=
    deploys_of_prepares hlooks.toPrepares hdeploy
  exact ⟨data, ⟨artifact, code, hhas, hcode, hdata⟩, hcreates, hframe, hregistry,
    hgenesis.trans hlooks.genesis⟩

theorem deploys_of_deployArtifact (hproxy : contract ≠ .lightClientProxy)
    (h : Client.deployArtifact contract [] s = .ok address s') :
    ∃ data, ArtifactData s contract [] data ∧ Deploys contract data address s s' := by
  obtain ⟨data, hdata, hcreates, hframe, hregistry, hgenesis⟩ := deployArtifact_eq_ok h
  refine ⟨data, hdata, hcreates, hframe, hregistry, ?_⟩
  rw [hgenesis, decide_eq_false hproxy, Bool.or_false]

theorem deployLightClient_eq_ok (h : deployLightClient dependencies s = .ok address s') :
    ∃ data, LightClientData s dependencies data ∧ Deploys .lightClient data address s s' := by
  obtain ⟨artifact, code, mid, hhas, hcode, hlooks, hdeploy⟩ := linked_eq_ok h
  obtain ⟨data, hdata, hcreates, hframe, hregistry, hgenesis⟩ :=
    deploys_of_prepares hlooks.toPrepares hdeploy
  -- an interface without constructor adds nothing to the code
  obtain rfl : code = data := Except.ok.inj hdata
  refine ⟨code, ⟨artifact, hhas, hcode⟩, hcreates, hframe, hregistry, ?_⟩
  rw [hgenesis, hlooks.genesis]
  simp

theorem deployProxy_eq_ok {lightClient : Address}
    (h : deployProxy lightClient s = .ok address s') :
    ∃ data, ProxyData s lightClient data ∧ Deploys .lightClientProxy data address s s' := by
  obtain ⟨artifact, mid, hartifact, hfound⟩ := bind_eq_ok.1 h
  obtain ⟨hhas, hlooks⟩ := artifact_eq_ok hartifact
  obtain ⟨genesis, known, hgenesis, hfetched⟩ := bind_eq_ok.1 hfound
  obtain ⟨hgenesisOf, hknown, hprepares⟩ := genesis_eq_ok hgenesis
  rw [hlooks.frame.genesis] at hgenesisOf
  obtain ⟨call, _, hencode, hencoded⟩ := bind_eq_ok.1 hfetched
  obtain ⟨hcall, rfl⟩ := ofExcept_eq_ok.1 hencode
  obtain ⟨_, noticed, hnotice, hdeploy⟩ := bind_eq_ok.1 hencoded
  have hnoticed : Looks known noticed :=
    looks_of_onlyConverses (after_of_ok hnotice ▸ Client.notice_keeps _ known)
  have hready : Prepares s noticed :=
    Follows.trans hlooks.toPrepares (Follows.trans hprepares hnoticed.toPrepares)
  obtain ⟨data, hdata, hcreates, hframe, hregistry, hkept⟩ := deployArtifact_eq_ok hdeploy
  refine ⟨data, ⟨artifact, genesis, call, hhas, hgenesisOf, hcall,
    hready.frame.artifactData_iff.1 hdata⟩, hcreates.after_quiet hready.quiet,
    Follows.trans hready.frame hframe, hregistry.trans hready.registry, ?_⟩
  rw [hkept, hnoticed.genesis, hknown]
  simp

/-- **What a procedure has done.** If the procedure of a contract ends with an address, it has
created the contract there, with the data for the addresses of its dependencies. -/
theorem deploy_eq_ok (hdependencies : dependencies.map (·.1) = contract.dependencies)
    (h : deploy contract dependencies s = .ok address s') :
    ∃ data, DataFor s contract dependencies data ∧ Deploys contract data address s s' := by
  cases contract with
  | lightClient => exact deployLightClient_eq_ok h
  | lightClientProxy =>
    cases dependencies with
    | nil => cases hdependencies
    | cons entry rest => exact deployProxy_eq_ok h
  | hotShot => exact deploys_of_deployArtifact (by decide) h
  | plonkVerifier => exact deploys_of_deployArtifact (by decide) h
  | lightClientStateUpdateVK => exact deploys_of_deployArtifact (by decide) h

end Rollout.Resolution
