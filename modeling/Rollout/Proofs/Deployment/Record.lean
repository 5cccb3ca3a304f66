import Rollout.Proofs.Abi.Creation
import Rollout.Proofs.Bytecode
import Rollout.Proofs.Deployment.Order
import Rollout.Proofs.Deployment.Steps
import Rollout.Proofs.Registry.Record

/-!
# The record of a deployment

A deployment that succeeds leaves a record, in the output or in a file, that is read as the addresses
of the contracts. The record agrees with the transactions of the deployment (`run_record`): it has
the address of each created contract from the receipt of the transaction that created it, and the
addresses that the data of the light client and of the proxy refer to are those of the record.
-/

namespace Rollout.Deployment

open Rollout.Action Resolution

variable {s s' : Session} {deployment : Deployment} {supply : Supply}
  {record : List (Contract × Address)} {made : List Creation} {data : Octets}

/-! ## What a record is and agrees with -/

/-- A text is the record of some addresses: no contract has two, each has a line with the checksum
form of its address, and the text is read as the addresses. -/
structure Records (text : String) (record : List (Contract × Address)) : Prop where
  nodup : (record.map (·.1)).Nodup
  lines : text.toList =
    (record.map fun pair => (Registry.lineOf pair).text.toList).flatMap fun line => line ++ ['\n']
  read : ∀ path, Registry.read path text.toList = .ok record

/-- Bytecode is written with an even number of digits. -/
def EvenDigits (bytecode : Bytecode) : Prop :=
  (Hex.dropMark bytecode.object.toList).countP Hex.isDigit % 2 = 0

/-- The libraries of the light client, by the names under which the compiler refers to them. -/
def lightClientLibraries (verifier key : Address) : List (LibraryName × Address) :=
  [(⟨"contracts/src/libraries/PlonkVerifier.sol:PlonkVerifier", rfl⟩, verifier),
    (⟨"contracts/src/libraries/LightClientStateUpdateVK.sol:LightClientStateUpdateVK", rfl⟩, key)]

/-- Data are those of a light client whose libraries are in a record: they are spelled by the
bytecode with the digits of the addresses in the place of all the placeholders of the libraries. -/
def LightClientAgrees (s : Session) (record : List (Contract × Address)) (data : Octets) : Prop :=
  ∃ artifact verifier key, ∃ pieces : List Bytecode.Piece,
    artifactOf s .lightClient = .ok artifact ∧
    (.plonkVerifier, verifier) ∈ record ∧ (.lightClientStateUpdateVK, key) ∈ record ∧
    (∀ piece ∈ pieces, piece.Fits (lightClientLibraries verifier key)) ∧
    Hex.dropMark artifact.bytecode.object.toList = pieces.flatMap Bytecode.Piece.source ∧
    Hex.decode? (pieces.flatMap Bytecode.Piece.linked) = some data

/-- The constructor of an interface takes an address and octets. -/
def TakesAddressAndBytes (interface : Value) : Prop :=
  ∃ entries entry, Abi.entriesOf interface = .ok entries ∧ entry ∈ entries ∧
    Abi.hasType "constructor" entry = true ∧ Abi.kindTexts entry = .ok ["address", "bytes"]

/-- Data are those of a proxy whose light client is in a record: the bytecode, and behind it the
address of the light client and the call that initializes it with the genesis state and the greatest
number of thirty-two bits. -/
def ProxyAgrees (s : Session) (record : List (Contract × Address)) (data : Octets) : Prop :=
  ∃ proxy artifact genesis lightClient code call,
    artifactOf s .lightClientProxy = .ok proxy ∧ artifactOf s .lightClient = .ok artifact ∧
    genesisOf s = .ok genesis ∧ (.lightClient, lightClient) ∈ record ∧
    Hex.decode? (Hex.dropMark proxy.bytecode.object.toList) = some code ∧
    Abi.encodeCall (some .lightClientProxy) artifact.interface "initialize"
      [.tuple [.integer genesis.viewNum, .integer genesis.blockHeight,
        .integer genesis.blockCommRoot, .integer genesis.feeLedgerComm,
        .integer genesis.stakeTableBlsKeyComm, .integer genesis.stakeTableSchnorrKeyComm,
        .integer genesis.stakeTableAmountComm, .integer genesis.threshold],
        .integer 0xFFFFFFFF] = .ok call ∧
    (TakesAddressAndBytes proxy.interface → data = code ++ Abi.addressAndBytes lightClient call)

/-- A record agrees with the transactions of a deployment, which created some contracts in order. -/
structure Agrees (s s' : Session) (record : List (Contract × Address)) (made : List Creation) :
    Prop where
  /-- The transactions completed and broadcast are those of the created contracts, and for each of them
  the receipt is waited for that belongs to the hash of its own transaction. -/
  transactions : ∃ added, s'.deeds = s.deeds ++ added ∧
    added.filterMap Deed.build? = made.map (fun creation =>
      (some creation.contract, s.node.nonce + creation.number, creation.data)) ∧
    added.filterMap Deed.send? = made.map (fun creation =>
      (some creation.contract, s.node.nonce + creation.number)) ∧
    added.filterMap Deed.receipt? = made.map fun creation =>
      (some creation.contract, Chain.hashOf creation.number)
  /-- The transactions are numbered in turn. -/
  numbers : made.map (·.number) = List.range' s.node.sent made.length
  /-- No contract is created twice. -/
  once : (made.map (·.contract)).Nodup
  /-- A supplied address is recorded as it is. -/
  supplied : ∀ entry ∈ s.registry.addresses, entry ∈ record
  /-- A recorded contract that was not supplied is created, at the recorded address. -/
  created : ∀ entry ∈ record, entry.1 ∉ s.registry.predeployed →
    ∃ creation ∈ made, creation.entry = entry
  /-- A created contract was not supplied, and is recorded. -/
  recorded : ∀ creation ∈ made,
    creation.contract ∉ s.registry.predeployed ∧ creation.entry ∈ record
  /-- The address of a created contract is the one that the receipt of its transaction names. -/
  receipts : ∀ creation ∈ made,
    Address.read (s.node.receiptAt creation.number).contractAddress = .ok creation.address
  /-- The data of the light client refer to the recorded libraries. -/
  lightClient : ∀ creation ∈ made, creation.contract = .lightClient →
    LightClientAgrees s record creation.data
  /-- The data of the proxy refer to the recorded light client. -/
  proxy : ∀ creation ∈ made, creation.contract = .lightClientProxy →
    ProxyAgrees s record creation.data

/-! ## The data of the created contracts -/

/-- Bytecode that needs no library spells its octets as it stands. -/
theorem decode?_of_link {bytecode : Bytecode} {code : Octets} (h : bytecode.link [] = .ok code)
    (heven : EvenDigits bytecode) : Hex.decode? (Hex.dropMark bytecode.object.toList) = some code := by
  have hoctets : Bytecode.octetsOf? (Hex.dropMark bytecode.object.toList) = some code :=
    Bytecode.octetsOf?_of_link h
  have hdigits := Bytecode.isDigit_of_octetsOf? hoctets
  rw [EvenDigits, Bytecode.countP_of_digits hdigits] at heven
  rw [Bytecode.octetsOf?, if_neg (by omega)] at hoctets
  exact hoctets

theorem lightClientAgrees_of_linked {creation : Creation} (hlinked : creation.Linked s')
    (hframe : Frame s s') (hcontract : creation.contract = .lightClient)
    (heven : ∀ contract artifact, artifactOf s contract = .ok artifact → EvenDigits artifact.bytecode)
    (hrecord : ∀ entry, s'.registry.get? entry.1 = some entry.2 → entry ∈ record) :
    LightClientAgrees s record creation.data := by
  obtain ⟨dependencies, hnames, hget, hdata⟩ := hlinked
  have hmem : ∀ entry ∈ dependencies, entry ∈ record := fun entry h => hrecord entry (hget entry h)
  rw [hframe.dataFor_iff] at hdata
  rw [hcontract] at hnames hdata
  match dependencies, hnames with
  | [(_, verifier), (_, key)], rfl =>
    obtain ⟨artifact, hartifact, hlink⟩ := hdata
    obtain ⟨pieces, hfits, hsource, hlinked⟩ :=
      Bytecode.link_eq_ok hlink (heven _ _ hartifact)
    exact ⟨artifact, verifier, key, pieces, hartifact, hmem _ List.mem_cons_self,
      hmem _ (List.mem_cons_of_mem _ List.mem_cons_self), hfits, hsource, hlinked⟩

theorem proxyAgrees_of_linked {creation : Creation} (hlinked : creation.Linked s')
    (hframe : Frame s s') (hcontract : creation.contract = .lightClientProxy)
    (heven : ∀ contract artifact, artifactOf s contract = .ok artifact → EvenDigits artifact.bytecode)
    (hrecord : ∀ entry, s'.registry.get? entry.1 = some entry.2 → entry ∈ record) :
    ProxyAgrees s record creation.data := by
  obtain ⟨dependencies, hnames, hget, hdata⟩ := hlinked
  have hmem : ∀ entry ∈ dependencies, entry ∈ record := fun entry h => hrecord entry (hget entry h)
  rw [hframe.dataFor_iff] at hdata
  rw [hcontract] at hnames hdata
  match dependencies, hnames with
  | [(_, lightClient)], rfl =>
    obtain ⟨artifact, genesis, call, hartifact, hgenesis, hcall, hproxy⟩ := hdata
    obtain ⟨proxy, code, hhas, hlink, hcreation⟩ := hproxy
    refine ⟨proxy, artifact, genesis, lightClient, code, call, hhas, hartifact, hgenesis,
      hmem _ List.mem_cons_self, decode?_of_link hlink (heven _ _ hhas), hcall, ?_⟩
    rintro ⟨entries, entry, hentries, hentry, hconstructor, hkinds⟩
    exact Abi.creationData_address_bytes hentries hentry hconstructor hkinds hcreation

/-! ## The record of a run -/

theorem mem_sorted_of_get? {registry : Registry} {entry : Contract × Address}
    (h : registry.get? entry.1 = some entry.2) : entry ∈ registry.sorted :=
  registry.sorted_perm.mem_iff.2 (Registry.mem_addresses_of_get? h)

/-- What a deployment has made agrees with the registry that it leaves. -/
theorem agrees_of_makes (hmade : Makes s s' made)
    (hneeded : made.map (·.contract) = needed s.registry.contracts)
    (hsupplied : s.registry.predeployed = s.registry.contracts)
    (heven : ∀ contract artifact, artifactOf s contract = .ok artifact →
      EvenDigits artifact.bytecode) : Agrees s s' s'.registry.sorted made := by
  have hfresh := fresh_needed s.registry.contracts
  rw [← hneeded] at hfresh
  have hmem : ∀ entry, entry ∈ s'.registry.sorted ↔
      entry ∈ s.registry.addresses ∨ ∃ creation ∈ made, creation.entry = entry := by
    intro entry
    rw [s'.registry.sorted_perm.mem_iff, hmade.addresses, List.mem_append, List.mem_map]
  refine ⟨hmade.deeds, hmade.numbers, hfresh.nodup, fun entry h => (hmem entry).2 (Or.inl h), ?_, ?_,
    hmade.receipts, ?_, ?_⟩
  · -- created
    intro entry hentry habsent
    rcases (hmem entry).1 hentry with h | h
    · rw [hsupplied] at habsent
      exact absurd (List.mem_map_of_mem h) habsent
    · exact h
  · -- recorded
    intro creation hcreation
    refine ⟨?_, (hmem _).2 (Or.inr ⟨creation, hcreation, rfl⟩)⟩
    rw [hsupplied]
    exact hfresh.not_mem _ (List.mem_map_of_mem hcreation)
  · -- lightClient
    intro creation hcreation hcontract
    exact lightClientAgrees_of_linked (hmade.linked creation hcreation) hmade.frame hcontract heven
      fun _ => mem_sorted_of_get?
  · -- proxy
    intro creation hcreation hcontract
    exact proxyAgrees_of_linked (hmade.linked creation hcreation) hmade.frame hcontract heven
      fun _ => mem_sorted_of_get?

theorem nodup_of_makes (hmade : Makes s s' made)
    (hneeded : made.map (·.contract) = needed s.registry.contracts)
    (hnodup : s.registry.contracts.Nodup) : s'.registry.contracts.Nodup := by
  have hfresh := fresh_needed s.registry.contracts
  rw [hmade.contracts, hneeded]
  refine List.nodup_append.2 ⟨hnodup, hfresh.nodup, ?_⟩
  rintro a ha b hb rfl
  exact hfresh.not_mem a hb ha

/-- A deployment that checks no code and writes to the output succeeds once its two contracts are
resolved. -/
theorem run_of_resolves {first second : Address} {standalone chained : Session}
    (hfirst : Resolution.resolve .hotShot s = .ok first standalone)
    (hsecond : Resolution.resolve .lightClientProxy
      { standalone with stage := .standaloneDeployed } = .ok second chained) :
    ∃ s', (Deployment.mk none false).run s = .ok () s' := by
  have hprepare : (Deployment.mk none false).prepare s = .ok () _ :=
    prepare_of_resolves rfl hfirst hsecond
  exact ⟨_, run_of_prepare hprepare rfl⟩

/-- **The record of a deployment.** A deployment that succeeds, started with supplied addresses and
bytecode of even length, leaves the record of some addresses, and the record agrees with the
transactions of the deployment. -/
theorem run_record (accepted : Registry.ofSupply supply = .ok s.registry)
    (even : ∀ contract artifact, artifactOf s contract = .ok artifact →
      EvenDigits artifact.bytecode)
    (succeeds : deployment.run s = .ok () s') : ∃ text record made,
      Registry.PublishedAs text s deployment.output s' ∧ Records text record ∧
        Agrees s s' record made := by
  obtain ⟨made, resolved, published, hmade, hneeded, hpublish, rfl⟩ := run_eq_ok succeeds
  obtain ⟨hnodup, hsupplied⟩ := Registry.ofSupply_eq_ok accepted
  have hkeeps : Registry.OnlyPublishes resolved published :=
    after_of_ok hpublish ▸ Registry.publish_keeps _ _ resolved
  have hpublished : Registry.PublishedAs (Registry.write resolved.registry.entries) resolved
      deployment.output published := Registry.publish_eq_ok hpublish
  have hagrees := agrees_of_makes hmade hneeded hsupplied even
  refine ⟨Registry.write resolved.registry.entries, resolved.registry.sorted, made, ?_, ?_, ?_⟩
  · -- resolving writes nothing to the output, so the record is all that is added to it
    cases hpath : deployment.output with
    | none =>
      rw [hpath] at hpublished
      show published.output = s.output ++ _
      rw [← hmade.frame.output]
      exact hpublished
    | some path =>
      rw [hpath] at hpublished
      exact hpublished
  · have hresolved := nodup_of_makes hmade hneeded hnodup
    exact ⟨(resolved.registry.sorted_perm.map _).nodup_iff.2 hresolved,
      resolved.registry.toList_write, Registry.read_write hresolved⟩
  · obtain ⟨added, hadded, hrest⟩ := hagrees.transactions
    exact { hagrees with transactions := ⟨added, hkeeps.deeds_eq.trans hadded, hrest⟩ }

/-- A session in which the proxy is supplied, and all contracts have the same code. -/
def proxySupplied : Session where
  registry := ⟨[(.lightClientProxy, ⟨List.replicate 20 0x11, rfl⟩)], [.lightClientProxy]⟩
  artifacts.directory := .ofText "out"
  artifacts.known :=
    Contract.all.map fun contract => (contract, ⟨contract, .list [], { object := "0x6001" }⟩)

/-- The consensus contract is created in it by the first transaction. -/
theorem resolve_proxySupplied : ∃ standalone,
    Resolution.resolve .hotShot proxySupplied =
      .ok ⟨Octets.ofNat 20 0x1001, rfl⟩ standalone ∧
    standalone.registry.get? .lightClientProxy = some ⟨List.replicate 20 0x11, rfl⟩ := by
  let address : Address := ⟨Octets.ofNat 20 0x1001, rfl⟩
  let ready := (procedure .hotShot).after (Registry.opening .hotShot proxySupplied)
  have hprocedure : procedure .hotShot (Registry.opening .hotShot proxySupplied) =
      .ok (.text address.text) ready := by rfl
  exact ⟨_, resolve_of_procedure rfl hprocedure rfl, rfl⟩

/-- The deployment creates the consensus contract, writes a record to the output, and succeeds. -/
theorem run_record_of_proxySupplied : ∃ s',
    Registry.ofSupply [(.lightClientProxy, .text "0x1111111111111111111111111111111111111111")] =
      .ok proxySupplied.registry ∧
    (Deployment.mk none false).run proxySupplied = .ok () s' ∧
    ∃ text record made, Registry.PublishedAs text proxySupplied none s' ∧ Records text record ∧
      Agrees proxySupplied s' record made := by
  have accepted : Registry.ofSupply
      [(.lightClientProxy, .text "0x1111111111111111111111111111111111111111")] =
        .ok proxySupplied.registry := by rfl
  have even : ∀ contract artifact, artifactOf proxySupplied contract = .ok artifact →
      EvenDigits artifact.bytecode := by
    intro contract artifact h
    have hsame : artifactOf proxySupplied contract =
        .ok ⟨contract, .list [], { object := "0x6001" }⟩ := by cases contract <;> rfl
    obtain rfl := Except.ok.inj (hsame.symm.trans h)
    show (Hex.dropMark "0x6001".toList).countP Hex.isDigit % 2 = 0
    decide
  obtain ⟨standalone, hhotShot, hproxy⟩ := resolve_proxySupplied
  let entered : Session := { standalone with stage := .standaloneDeployed }
  have hfound : entered.registry.get? .lightClientProxy = some ⟨List.replicate 20 0x11, rfl⟩ := hproxy
  obtain ⟨s', succeeds⟩ := run_of_resolves hhotShot
    (resolve_eq .lightClientProxy ▸ Registry.resolve_of_some hfound)
  exact ⟨s', accepted, succeeds, run_record accepted even succeeds⟩

end Rollout.Deployment
