import Rollout.Proofs.Artifact
import Rollout.Proofs.File.Tree
import Rollout.Proofs.Parallel
import Rollout.Proofs.Resolution.Closure

/-!
# What a resolution uses

A resolution reads the artifact of a contract only if it deploys the contract, and that of the light
client also if it deploys the proxy, of which it then needs the interface only; it asks for the genesis
state only if it deploys the proxy. Nothing else counts: two sessions that differ in other artifacts and
in an unused genesis service are not told apart (`resolve_lazy`).
-/

namespace Rollout.Resolution

open Rollout.Action

variable {recorded : List Contract} {target contract : Contract} {s t : Session}

/-! ## What is used -/

/-- A contract is deployed, if nothing goes wrong, when another is resolved while some are recorded: it
is reached without passing through those, and is none of them. -/
def Awaited (recorded : List Contract) (target contract : Contract) : Prop :=
  Reached recorded [target] contract ∧ contract ∉ recorded

/-- The artifact of a contract is used: the contract is deployed, or it is the light client and the
proxy is deployed. -/
def Used (recorded : List Contract) (target contract : Contract) : Prop :=
  Awaited recorded target contract ∨
    (contract = .lightClient ∧ Awaited recorded target .lightClientProxy)

/-- Two trees have the same file at a path, or none. -/
structure SameFile (files files' : File.Tree) (path : String) : Prop where
  holds : files'.holds path = files.holds path
  read : files.holds path = .ok true → files'.read path = files.read path

/-- The document at a path is a record that has well-formed bytecode for a contract. -/
structure Describes (nesting : Nat) (files : File.Tree) (path : String) (contract : Contract)
    (fields : Fields) : Prop where
  holds : files.holds path = .ok true
  document : Artifact.documentAt nesting files path = .ok (.record fields)
  bytecode : ∃ value bytecode, fields.get? "bytecode" = some value ∧
    Artifact.bytecodeOf contract value = .ok bytecode

/-- Two trees have documents at a path that describe a contract, and differ in the bytecode only. -/
def SameButBytecode (nesting : Nat) (files files' : File.Tree) (path : String)
    (contract : Contract) : Prop :=
  ∃ fields fields', Describes nesting files path contract fields ∧
    Describes nesting files' path contract fields' ∧
      ∀ name, name ≠ "bytecode" → fields'.get? name = fields.get? name

/-- Two sessions differ at most in what the resolution of a contract does not use: in the files, apart
from the artifacts that are used, and in the genesis service if it is not used. If the light client is
recorded, the bytecode of its artifact is not used. -/
structure Apart (target : Contract) (s t : Session) : Prop where
  rest : t = { s with files := t.files, genesis := t.genesis, web := t.web }
  artifacts : ∀ contract, Used s.registry.contracts target contract →
    SameFile s.files t.files (s.artifacts.path contract).text ∨
      (contract = .lightClient ∧ contract ∈ s.registry.contracts ∧
        SameButBytecode s.artifacts.nesting s.files t.files (s.artifacts.path contract).text contract)
  service : Awaited s.registry.contracts target .lightClientProxy →
    t.genesis = s.genesis ∧ t.web = s.web

/-- Two sessions differ at most in the files, in the artifacts that are known, and in the genesis
service. -/
def Unseen (s t : Session) : Prop :=
  t = { s with files := t.files, artifacts := t.artifacts, genesis := t.genesis, web := t.web }

/-! ## Artifacts -/

theorem SameFile.load {files files' : File.Tree} {path : String} (h : SameFile files files' path)
    (nesting : Nat) (contract : Contract) :
    Artifact.load nesting files' contract path = Artifact.load nesting files contract path := by
  unfold Artifact.load
  rw [h.holds]
  cases hholds : files.holds path with
  | error fault => rfl
  | ok found =>
    cases found with
    | false => rfl
    | true =>
      have hdocument :
          Artifact.documentAt nesting files' path = Artifact.documentAt nesting files path := by
        unfold Artifact.documentAt File.Tree.readText
        rw [h.read hholds]
      rw [hdocument]

/-- The interface that a document gives does not depend on its bytecode, as long as that is
well-formed. -/
theorem Describes.interface {nesting : Nat} {files : File.Tree} {path : String} {fields : Fields}
    (h : Describes nesting files path contract fields) :
    (Artifact.load nesting files contract path).map Artifact.interface =
      match fields.get? "abi" with
      | some interface => .ok interface
      | none => .error (.deployment (.artifactIncomplete path) (some contract)) := by
  obtain ⟨value, bytecode, hvalue, hbytecode⟩ := h.bytecode
  rw [Artifact.load_of_holds h.holds, h.document]
  simp only [Artifact.ofDocument, hvalue]
  cases Fields.get? fields "abi" with
  | none => rfl
  | some interface =>
    show Except.map Artifact.interface (Artifact.bytecodeOf contract value >>= fun _ => _) = _
    rw [hbytecode]
    rfl

theorem SameButBytecode.interface {nesting : Nat} {files files' : File.Tree} {path : String}
    (h : SameButBytecode nesting files files' path contract) :
    (Artifact.load nesting files' contract path).map Artifact.interface =
      (Artifact.load nesting files contract path).map Artifact.interface := by
  obtain ⟨fields, fields', hfields, hfields', hsame⟩ := h
  rw [hfields.interface, hfields'.interface, hsame "abi" (by decide)]

theorem artifactOf_eq (s : Session) (contract : Contract) :
    artifactOf s contract = match s.artifacts.known.lookup contract with
      | some artifact => .ok artifact
      | none =>
        Artifact.load s.artifacts.nesting s.files contract (s.artifacts.path contract).text := by
  unfold artifactOf ArtifactStore.get
  cases s.artifacts.known.lookup contract with
  | some artifact => rfl
  | none =>
    show Except.map _ (Artifact.load s.artifacts.nesting s.files contract
      (s.artifacts.path contract).text >>= _) = _
    cases Artifact.load s.artifacts.nesting s.files contract (s.artifacts.path contract).text <;> rfl

/-! ## Two sessions side by side -/

/-- While a contract is resolved in two sessions, at the beginning of which some contracts were
recorded, they agree on what is used. -/
structure Agree (recorded : List Contract) (target : Contract) (s t : Session) : Prop where
  rest : Unseen s t
  known : ∀ contract ∈ recorded, contract ∈ s.registry.contracts
  artifact : ∀ contract, Awaited recorded target contract → artifactOf t contract = artifactOf s contract
  interface : Awaited recorded target .lightClientProxy →
    (artifactOf t .lightClient).map Artifact.interface =
      (artifactOf s .lightClient).map Artifact.interface
  service : Awaited recorded target .lightClientProxy → t.genesis = s.genesis ∧ t.web = s.web

theorem Apart.agree (h : Apart target s t) : Agree s.registry.contracts target s t where
  rest := by
    unfold Unseen
    rw [h.rest]
  known _ hcontract := hcontract
  service := h.service
  artifact contract hawaited := by
    have hstore : t.artifacts = s.artifacts := by rw [h.rest]
    rw [artifactOf_eq, artifactOf_eq, hstore]
    rcases h.artifacts contract (Or.inl hawaited) with hfile | ⟨rfl, hrecorded, -⟩
    · rw [hfile.load]
    · exact absurd hrecorded hawaited.2
  interface hproxy := by
    have hstore : t.artifacts = s.artifacts := by rw [h.rest]
    rw [artifactOf_eq, artifactOf_eq, hstore]
    cases s.artifacts.known.lookup .lightClient with
    | some artifact => rfl
    | none =>
      rcases h.artifacts .lightClient (Or.inr ⟨rfl, hproxy⟩) with hfile | ⟨-, -, hbytecode⟩
      · rw [hfile.load]
      · exact hbytecode.interface

namespace Agree

theorem of_eq {s' t' : Session} (h : Agree recorded target s t) (hrest : Unseen s' t')
    (hregistry : s'.registry = s.registry) (hs : s'.artifacts = s.artifacts ∧ s'.files = s.files)
    (ht : t'.artifacts = t.artifacts ∧ t'.files = t.files)
    (hservice : Awaited recorded target .lightClientProxy →
      t'.genesis = s'.genesis ∧ t'.web = s'.web) : Agree recorded target s' t' where
  rest := hrest
  known := hregistry ▸ h.known
  artifact contract hawaited := by
    have hsame := h.artifact contract hawaited
    unfold artifactOf at hsame ⊢
    rwa [hs.1, hs.2, ht.1, ht.2]
  interface hproxy := by
    have hsame := h.interface hproxy
    unfold artifactOf at hsame ⊢
    rwa [hs.1, hs.2, ht.1, ht.2]
  service := hservice

/-- Recording an address keeps what is recorded. -/
theorem records {value : Value} {address : Address} {registry : Registry}
    (h : Agree recorded target s t) (hrecord : s.registry.record contract value = .ok (address, registry)) :
    Agree recorded target { s with registry } { t with registry } where
  rest := by
    unfold Unseen
    rw [h.rest]
  known other hother :=
    (Registry.mem_contracts_of_insert? (Registry.record_eq_ok.1 hrecord).2).2 (Or.inl (h.known other hother))
  artifact := h.artifact
  interface := h.interface
  service := h.service

end Agree

theorem agree_mirrorsRecording : MirrorsRecording (Agree recorded target) where
  input h := by rw [h.rest]
  node h := Chain.Node.matches_of_eq (by rw [h.rest])
  client h := by rw [h.rest]
  registry h := by rw [h.rest]
  tells text h := h.of_eq (by unfold Unseen; rw [h.rest]) rfl ⟨rfl, rfl⟩ ⟨rfl, rfl⟩ h.service
  logs deed h := h.of_eq (by unfold Unseen; rw [h.rest]) rfl ⟨rfl, rfl⟩ ⟨rfl, rfl⟩ h.service
  hears input h := h.of_eq (by unfold Unseen; rw [h.rest]) rfl ⟨rfl, rfl⟩ ⟨rfl, rfl⟩ h.service
  accesses step h := h.of_eq (by unfold Unseen; rw [h.rest]) rfl ⟨rfl, rfl⟩ ⟨rfl, rfl⟩ h.service
  counts h := h.of_eq (by unfold Unseen; rw [h.rest]) rfl ⟨rfl, rfl⟩ ⟨rfl, rfl⟩ h.service
  learns number h := h.of_eq (by unfold Unseen; rw [h.rest]) rfl ⟨rfl, rfl⟩ ⟨rfl, rfl⟩ h.service
  concludes creation h :=
    h.of_eq (by unfold Unseen; rw [h.rest]) rfl ⟨rfl, rfl⟩ ⟨rfl, rfl⟩ h.service
  records h hrecord := h.records hrecord

theorem agree_mirrorsFetching (hproxy : Awaited recorded target .lightClientProxy) :
    MirrorsFetching (Agree recorded target) where
  toMirrorsCreation := agree_mirrorsRecording.toMirrorsCreation
  web h := (h.service hproxy).2
  source h := (h.service hproxy).1
  requests web h := h.of_eq (by unfold Unseen; rw [h.rest]) rfl ⟨rfl, rfl⟩ ⟨rfl, rfl⟩
    fun _ => ⟨(h.service hproxy).1, rfl⟩
  keeps genesis h := h.of_eq (by unfold Unseen; rw [h.rest]) rfl ⟨rfl, rfl⟩ ⟨rfl, rfl⟩
    fun _ => ⟨rfl, (h.service hproxy).2⟩

/-! ## Reading artifacts -/

/-- Reading an artifact ends with the artifact that a session has, and only adds to the store. -/
theorem artifact_cases (contract : Contract) (s : Session) :
    (∃ artifact store, artifactOf s contract = .ok artifact ∧
      Action.artifact contract s = .ok artifact { s with artifacts := store } ∧
      ∀ other, artifactOf { s with artifacts := store } other = artifactOf s other) ∨
    (∃ fault, artifactOf s contract = .error fault ∧
      Action.artifact contract s = .error fault s) := by
  cases hget : s.artifacts.get s.files contract with
  | ok found =>
    refine Or.inl ⟨found.1, found.2, ?_, artifact_of_get hget, get_of_get hget⟩
    rw [artifactOf, hget]
    rfl
  | error fault =>
    refine Or.inr ⟨fault, ?_, artifact_of_error hget⟩
    rw [artifactOf, hget]
    rfl

theorem Agree.stores {store store' : ArtifactStore} (h : Agree recorded target s t)
    (hs : ∀ other, artifactOf { s with artifacts := store } other = artifactOf s other)
    (ht : ∀ other, artifactOf { t with artifacts := store' } other = artifactOf t other) :
    Agree recorded target { s with artifacts := store } { t with artifacts := store' } where
  rest := by
    unfold Unseen
    rw [h.rest]
  known := h.known
  artifact contract hawaited := by
    rw [hs, ht]
    exact h.artifact contract hawaited
  interface hproxy := by
    rw [hs, ht]
    exact h.interface hproxy
  service := h.service

/-- What needs a part of an artifact only ends alike if the sessions agree on this part. -/
theorem Agree.reads {α β : Type} {part : Artifact → β} {f : β → Action α}
    (h : Agree recorded target s t)
    (hsame : (artifactOf t contract).map part = (artifactOf s contract).map part)
    (hf : ∀ b, Mirrored (Agree recorded target) (f b)) :
    Alike (Agree recorded target) ((Action.artifact contract >>= fun artifact => f (part artifact)) s)
      ((Action.artifact contract >>= fun artifact => f (part artifact)) t) := by
  rcases artifact_cases contract s with ⟨artifact, store, hs, hread, hstore⟩ | ⟨fault, hs, hread⟩
  · rcases artifact_cases contract t with ⟨artifact', store', ht, hread', hstore'⟩ | ⟨fault', ht, -⟩
    · rw [ht, hs] at hsame
      have hpart : part artifact' = part artifact := Except.ok.inj hsame
      rw [bind_of_ok hread, bind_of_ok hread', hpart]
      exact hf _ (h.stores hstore hstore')
    · rw [ht, hs] at hsame
      cases hsame
  · rcases artifact_cases contract t with ⟨artifact', store', ht, -⟩ | ⟨fault', ht, hread'⟩
    · rw [ht, hs] at hsame
      cases hsame
    · rw [ht, hs] at hsame
      obtain rfl := Except.error.inj hsame
      rw [bind_of_error hread, bind_of_error hread']
      exact .error _ h

/-- The artifact of a contract that is deployed is the same in both sessions. -/
theorem Awaited.reads {α : Type} {f : Artifact → Action α}
    (hawaited : Awaited recorded target contract)
    (hf : ∀ artifact, Mirrored (Agree recorded target) (f artifact)) :
    Mirrored (Agree recorded target) (Action.artifact contract >>= f) := by
  intro s t h
  have hsame : (artifactOf t contract).map id = (artifactOf s contract).map id := by
    rw [h.artifact contract hawaited]
  exact h.reads hsame hf

/-! ## Procedures -/

theorem Awaited.deployArtifact (hawaited : Awaited recorded target contract)
    (arguments : List Value) :
    Mirrored (Agree recorded target) (Client.deployArtifact contract arguments) :=
  hawaited.reads fun artifact => (mirrored_ofExcept _).bind fun code =>
    agree_mirrorsRecording.toMirrorsCreation.deploy contract artifact.interface code arguments

/-- Creates the proxy in front of a light client with a known interface. -/
def deployProxyFor (lightClient : Address) (interface : Value) : Action Address := do
  let genesis ← Action.genesis
  let call ← Action.ofExcept (Abi.encodeCall (some .lightClientProxy) interface initializer
    [genesis.argument, .integer blocksPerEpoch])
  Action.notice
    ("\nWrapping " ++ Contract.lightClient.artifact ++ " at " ++ lightClient.text ++ " into "
      ++ Contract.lightClientProxy.artifact ++ ".")
  Client.deployArtifact .lightClientProxy [.text lightClient.text, .octets call]

/-- Of the artifact of the light client the proxy needs the interface only. -/
theorem deployProxy_eq (lightClient : Address) : deployProxy lightClient =
    Action.artifact .lightClient >>= fun artifact => deployProxyFor lightClient artifact.interface :=
  rfl

theorem Awaited.deployProxy (hproxy : Awaited recorded target .lightClientProxy)
    (lightClient : Address) : Mirrored (Agree recorded target) (deployProxy lightClient) := by
  rw [deployProxy_eq]
  intro s t h
  refine h.reads (h.interface hproxy) fun interface => ?_
  refine (agree_mirrorsFetching hproxy).genesis.bind fun genesis => ?_
  refine (mirrored_ofExcept _).bind fun call => ?_
  refine (agree_mirrorsRecording.toMirrorsCreation.notice _).bind fun _ => ?_
  exact hproxy.deployArtifact _

/-- The procedure of a contract that is deployed ends alike in both sessions. -/
theorem Awaited.deploy (hawaited : Awaited recorded target contract)
    (dependencies : List (Contract × Address)) :
    Mirrored (Agree recorded target) (Resolution.deploy contract dependencies) := by
  cases contract with
  | lightClient =>
    exact hawaited.reads fun artifact => (mirrored_ofExcept _).bind fun code =>
      agree_mirrorsRecording.toMirrorsCreation.deploy .lightClient (.list []) code []
  | lightClientProxy =>
    cases dependencies with
    | nil => exact hawaited.deployArtifact []
    | cons entry rest => exact hawaited.deployProxy entry.2
  | hotShot => exact hawaited.deployArtifact []
  | plonkVerifier => exact hawaited.deployArtifact []
  | lightClientStateUpdateVK => exact hawaited.deployArtifact []

/-- What a resolution comes to is reached, and what it deploys is awaited. -/
theorem Agree.called (h : Agree recorded target s t) (hreached : Reached recorded [target] contract)
    (hget : s.registry.get? contract = none) :
    (∀ dependency ∈ contract.dependencies, Reached recorded [target] dependency) ∧
      ∀ dependencies, Mirrored (Agree recorded target) (Resolution.deploy contract dependencies) := by
  have hnew : contract ∉ recorded := by
    intro hmem
    exact Registry.get?_eq_none_iff.1 hget (h.known contract hmem)
  have hawaited : Awaited recorded target contract := ⟨hreached, hnew⟩
  exact ⟨fun dependency hdependency => hreached.dependency hnew hdependency, hawaited.deploy⟩

/-- **What a resolution does not use does not count.** In two sessions that differ at most in artifacts
and in a genesis service that are not used, a resolution ends with the same address or the same fault,
and does the same otherwise. -/
theorem resolve_lazy (h : Apart target s t) :
    Alike Unseen (resolve target s) (resolve target t) := by
  have htarget : Reached s.registry.contracts [target] target := .target List.mem_cons_self
  have halike : Mirrored (Agree s.registry.contracts target) (resolve target) :=
    agree_mirrorsRecording.resolve Agree.called htarget
  rcases (halike h.agree).cases with
    ⟨address, mid, mid', hs, ht, hmid⟩ | ⟨fault, mid, mid', hs, ht, hmid⟩
  · rw [hs, ht]
    exact .ok address hmid.rest
  · rw [hs, ht]
    exact .error fault hmid.rest

/-- A session in which the light client is recorded, and its artifact is the only file. -/
def lightClientRecorded (document : String) : Session where
  files := ⟨[(["out"], .directory), (["out", "LightClient.sol"], .directory),
    (["out", "LightClient.sol", "LightClient.json"], .file (Utf8.encode document))]⟩
  registry := ⟨[(.lightClient, .filled 0x11)], [.lightClient]⟩

/-- From the proxy nothing is reached beyond a light client that is recorded. -/
theorem reached_proxy (h : Reached [.lightClient] [.lightClientProxy] contract) :
    contract = .lightClientProxy ∨ contract = .lightClient := by
  induction h with
  | target htarget => exact Or.inl (List.mem_singleton.1 htarget)
  | dependency _ hpasses hdependency ih =>
    rcases ih with rfl | rfl
    · exact Or.inr (List.mem_singleton.1 hdependency)
    · exact absurd List.mem_cons_self hpasses

theorem describes_lightClient {document : String} {fields : Fields} {object : String}
    (hreturn : '\r' ∉ document.toList)
    (hparse : Json.parse Json.nestingLimit document.toList = .ok (.record fields))
    (hobject : fields.get? "bytecode" = some (.text object)) :
    Describes Json.nestingLimit (lightClientRecorded document).files
      "out/LightClient.sol/LightClient.json" .lightClient fields where
  holds := rfl
  document := Artifact.documentAt_of_read rfl hreturn hparse
  bytecode := ⟨_, _, hobject, rfl⟩

/-- With the light client recorded, the proxy is resolved alike whatever the light client's bytecode. -/
theorem resolve_lazy_lightClientRecorded :
    let s := lightClientRecorded "\x7b\"abi\":[],\"bytecode\":\"0x00\"\x7d"
    let t := lightClientRecorded "\x7b\"abi\":[],\"bytecode\":\"0x01\"\x7d"
    Apart .lightClientProxy s t ∧
      Alike Unseen (resolve .lightClientProxy s) (resolve .lightClientProxy t) := by
  intro s t
  have hs : Describes Json.nestingLimit s.files "out/LightClient.sol/LightClient.json" .lightClient
      [("abi", .list []), ("bytecode", .text "0x00")] :=
    describes_lightClient (by decide) (by cbv) rfl
  have ht : Describes Json.nestingLimit t.files "out/LightClient.sol/LightClient.json" .lightClient
      [("abi", .list []), ("bytecode", .text "0x01")] :=
    describes_lightClient (by decide) (by cbv) rfl
  have happart : Apart .lightClientProxy s t := by
    refine ⟨rfl, fun contract hused => ?_, fun _ => ⟨rfl, rfl⟩⟩
    have hcontract : contract = .lightClientProxy ∨ contract = .lightClient := by
      rcases hused with ⟨hreached, -⟩ | ⟨rfl, -⟩
      · exact reached_proxy hreached
      · exact Or.inr rfl
    rcases hcontract with rfl | rfl
    · have hpath : (s.artifacts.path .lightClientProxy).text =
          "out/ERC1967Proxy.sol/ERC1967Proxy.json" := rfl
      have hs : s.files.holds "out/ERC1967Proxy.sol/ERC1967Proxy.json" = .ok false := rfl
      have ht : t.files.holds "out/ERC1967Proxy.sol/ERC1967Proxy.json" = .ok false := rfl
      rw [hpath]
      refine Or.inl ⟨ht.trans hs.symm, fun hholds => ?_⟩
      rw [hs] at hholds
      cases hholds
    · refine Or.inr ⟨rfl, List.mem_cons_self, _, _, hs, ht, fun name hname => ?_⟩
      simp only [Fields.get?_cons]
      split <;> simp_all
  exact ⟨happart, resolve_lazy happart⟩

end Rollout.Resolution
