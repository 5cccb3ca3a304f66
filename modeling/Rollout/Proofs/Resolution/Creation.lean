import Rollout.Proofs.Resolution.Deploy

/-!
# What a resolution creates

A resolution that ends with an address has created exactly the contracts that were missing
(`missing`), one after the other, each by one transaction (`Makes`). The claim for one contract and
the claim for a list of dependencies are proved together, along the layers of dependencies.
-/

namespace Rollout.Resolution

open Rollout.Action

variable {s s' mid : Session} {contract : Contract} {address : Address} {recorded : List Contract}

/-! ## The contracts that are missing -/

/-- What is missing for each of some items, where what is missing for one item is in place for the
items after it. -/
def gather {α : Type} (need : α → List Contract → List Contract) :
    List α → List Contract → List Contract
  | [], _ => []
  | item :: rest, recorded => need item recorded ++ gather need rest (recorded ++ need item recorded)

/-- The contracts that are missing for a contract if some are recorded, in the order in which they
are put in place: none if the contract is recorded, else what is missing for its dependencies and the
contract itself. -/
def missing (contract : Contract) (recorded : List Contract) : List Contract :=
  if contract ∈ recorded then []
  else gather (fun dependency => missing dependency.1) contract.dependencies.attach recorded
    ++ [contract]
termination_by contract.height
decreasing_by exact Contract.height_lt_of_mem_dependencies dependency.2

theorem missing_of_mem (h : contract ∈ recorded) : missing contract recorded = [] := by
  rw [missing, if_pos h]

/-- A list of contracts can be put in place while some are recorded: each is put there once, none is
recorded already, and all stand below a height. -/
structure Fresh (recorded : List Contract) (bound : Nat) (contracts : List Contract) : Prop where
  nodup : contracts.Nodup
  not_mem : ∀ other ∈ contracts, other ∉ recorded
  height : ∀ other ∈ contracts, other.height < bound

theorem fresh_gather {α : Type} {need : α → List Contract → List Contract} {bound : Nat}
    {items : List α} (h : ∀ item ∈ items, ∀ recorded, Fresh recorded bound (need item recorded))
    (recorded : List Contract) : Fresh recorded bound (gather need items recorded) := by
  induction items generalizing recorded with
  | nil => exact ⟨List.nodup_nil, by simp [gather], by simp [gather]⟩
  | cons item rest ih =>
    have hfirst := h item List.mem_cons_self recorded
    have hrest := ih (fun other hother => h other (List.mem_cons_of_mem _ hother))
      (recorded ++ need item recorded)
    rw [gather]
    refine ⟨?_, fun other hother => ?_, fun other hother => ?_⟩
    · refine List.nodup_append.2 ⟨hfirst.nodup, hrest.nodup, ?_⟩
      rintro a ha b hb rfl
      exact hrest.not_mem a hb (List.mem_append_right _ ha)
    · rcases List.mem_append.1 hother with hother | hother
      · exact hfirst.not_mem other hother
      · exact fun hmem => hrest.not_mem other hother (List.mem_append_left _ hmem)
    · rcases List.mem_append.1 hother with hother | hother
      · exact hfirst.height other hother
      · exact hrest.height other hother

theorem Fresh.mono {bound bound' : Nat} {contracts : List Contract}
    (h : Fresh recorded bound contracts) (hle : bound ≤ bound') : Fresh recorded bound' contracts :=
  ⟨h.nodup, h.not_mem, fun other hother => Nat.lt_of_lt_of_le (h.height other hother) hle⟩

/-- What is missing for the dependencies of a contract while some contracts are recorded, in the
order in which it is put in place. -/
def missingBelow (contract : Contract) (recorded : List Contract) : List Contract :=
  gather (fun dependency => missing dependency.1) contract.dependencies.attach recorded

theorem gather_map {α β : Type} (g : β → α) (need : α → List Contract → List Contract)
    (items : List β) (recorded : List Contract) :
    gather (fun item => need (g item)) items recorded = gather need (items.map g) recorded := by
  induction items generalizing recorded with
  | nil => rfl
  | cons item rest ih => simp only [gather, List.map_cons, ih]

theorem missingBelow_eq (contract : Contract) (recorded : List Contract) :
    missingBelow contract recorded = gather missing contract.dependencies recorded := by
  rw [missingBelow, gather_map Subtype.val missing, List.attach_map_subtype_val]

theorem missing_of_not_mem (h : contract ∉ recorded) :
    missing contract recorded = missingBelow contract recorded ++ [contract] := by
  rw [missing, if_neg h, missingBelow]

mutual

/-- What is missing for a contract can be put in place, and nothing of it stands above the contract.
-/
theorem fresh_missing (contract : Contract) (recorded : List Contract) :
    Fresh recorded (contract.height + 1) (missing contract recorded) := by
  by_cases h : contract ∈ recorded
  · rw [missing_of_mem h]
    exact ⟨List.nodup_nil, by simp, by simp⟩
  · have hbelow := fresh_missingBelow contract recorded
    rw [missing_of_not_mem h]
    refine ⟨?_, fun other hother => ?_, fun other hother => ?_⟩
    · refine List.nodup_append.2 ⟨hbelow.nodup, by simp, ?_⟩
      intro a ha b hb e
      rw [e, List.mem_singleton.1 hb] at ha
      exact absurd (hbelow.height contract ha) (Nat.lt_irrefl _)
    · rcases List.mem_append.1 hother with hother | hother
      · exact hbelow.not_mem other hother
      · exact List.mem_singleton.1 hother ▸ h
    · rcases List.mem_append.1 hother with hother | hother
      · exact Nat.lt_succ_of_lt (hbelow.height other hother)
      · exact List.mem_singleton.1 hother ▸ Nat.lt_succ_self _
termination_by (contract.height, 1)

theorem fresh_missingBelow (contract : Contract) (recorded : List Contract) :
    Fresh recorded contract.height (missingBelow contract recorded) := by
  refine fresh_gather (fun dependency _ known => ?_) recorded
  have hlt := Contract.height_lt_of_mem_dependencies dependency.2
  exact (fresh_missing dependency.1 known).mono hlt
termination_by (contract.height, 0)

end

theorem not_mem_missingBelow (contract : Contract) (recorded : List Contract) :
    contract ∉ missingBelow contract recorded :=
  fun hmem => absurd ((fresh_missingBelow contract recorded).height contract hmem) (Nat.lt_irrefl _)

/-! ## What was created -/

/-- A contract that was created: by a transaction with a number, counted from zero, with data, at an
address. -/
structure Creation where
  /-- The contract. -/
  contract : Contract
  /-- The number of the transaction. -/
  number : Nat
  /-- The data of the transaction. -/
  data : Octets
  /-- The address of the contract. -/
  address : Address

/-- The entry of a created contract in the registry. -/
def Creation.entry (creation : Creation) : Contract × Address :=
  (creation.contract, creation.address)

/-- The data of a created contract are those for the addresses at which its dependencies are
recorded. -/
def Creation.Linked (s : Session) (creation : Creation) : Prop :=
  ∃ dependencies : List (Contract × Address),
    dependencies.map (·.1) = creation.contract.dependencies ∧
    (∀ entry ∈ dependencies, s.registry.get? entry.1 = some entry.2) ∧
    DataFor s creation.contract dependencies creation.data

/-- From one session to another, some contracts were created and recorded, in their order, each by
one transaction. -/
structure Makes (s s' : Session) (made : List Creation) : Prop where
  frame : Frame s s'
  addresses : s'.registry.addresses = s.registry.addresses ++ made.map Creation.entry
  predeployed : s'.registry.predeployed = s.registry.predeployed
  sent : s'.node.sent = s.node.sent + made.length
  numbers : made.map (·.number) = List.range' s.node.sent made.length
  receipts : ∀ creation ∈ made,
    Address.read (s.node.receiptAt creation.number).contractAddress = .ok creation.address
  linked : ∀ creation ∈ made, creation.Linked s'
  chainKnown : s'.client.chainId.isSome = (s.client.chainId.isSome || !made.isEmpty)
  genesisKnown : s'.genesis.fetched.isSome =
    (s.genesis.fetched.isSome || decide (.lightClientProxy ∈ made.map (·.contract)))
  deeds : ∃ added, s'.deeds = s.deeds ++ added ∧
    added.filterMap Deed.build? = made.map (fun creation =>
      (some creation.contract, s.node.nonce + creation.number, creation.data)) ∧
    added.filterMap Deed.send? = made.map (fun creation =>
      (some creation.contract, s.node.nonce + creation.number)) ∧
    added.filterMap Deed.receipt? = made.map fun creation =>
      (some creation.contract, Chain.hashOf creation.number)

theorem Makes.contracts {made : List Creation} (h : Makes s s' made) :
    s'.registry.contracts = s.registry.contracts ++ made.map (·.contract) := by
  rw [Registry.contracts, h.addresses, List.map_append, List.map_map]
  rfl

theorem makes_nil (h : Looks s s') : Makes s s' [] where
  frame := h.frame
  addresses := by simp [h.registry]
  predeployed := by rw [h.registry]
  sent := by simp [h.quiet.sent]
  numbers := rfl
  receipts := by simp
  linked := by simp
  chainKnown := by simp [h.client]
  genesisKnown := by simp [h.genesis]
  deeds := h.quiet.deeds

/-- A created contract stays linked while nothing but the registry grows. -/
theorem Creation.Linked.mono {creation : Creation} (h : creation.Linked s) (hframe : Frame s s')
    (hextends : s.registry.addresses <+: s'.registry.addresses) : creation.Linked s' := by
  obtain ⟨dependencies, hdependencies, hget, hdata⟩ := h
  exact ⟨dependencies, hdependencies,
    fun entry hentry => Registry.get?_of_prefix hextends (hget entry hentry),
    hframe.dataFor_iff.2 hdata⟩

theorem receiptAt_of_frame (h : Frame s s') (number : Nat) :
    s'.node.receiptAt number = s.node.receiptAt number := by
  rw [h.node]
  rfl

theorem Makes.trans {made made' : List Creation} (h : Makes s mid made) (h' : Makes mid s' made') :
    Makes s s' (made ++ made') where
  frame := Follows.trans h.frame h'.frame
  addresses := by rw [h'.addresses, h.addresses, List.map_append, List.append_assoc]
  predeployed := h'.predeployed.trans h.predeployed
  sent := by
    rw [h'.sent, h.sent, List.length_append]
    omega
  numbers := by
    rw [List.map_append, h.numbers, h'.numbers, h.sent, List.length_append]
    exact List.range'_append_1
  receipts := by
    intro creation hcreation
    rcases List.mem_append.1 hcreation with hmem | hmem
    · exact h.receipts creation hmem
    · rw [← receiptAt_of_frame h.frame]
      exact h'.receipts creation hmem
  linked := by
    intro creation hcreation
    rcases List.mem_append.1 hcreation with hmem | hmem
    · exact (h.linked creation hmem).mono h'.frame (h'.addresses ▸ List.prefix_append _ _)
    · exact h'.linked creation hmem
  chainKnown := by
    rw [h'.chainKnown, h.chainKnown]
    cases made <;> simp
  genesisKnown := by
    rw [h'.genesisKnown, h.genesisKnown, List.map_append, Bool.or_assoc]
    simp
  deeds := by
    obtain ⟨first, hfirst, hbuilds, hsends, hreceipts⟩ := h.deeds
    obtain ⟨second, hsecond, hbuilds', hsends', hreceipts'⟩ := h'.deeds
    have hnonce : mid.node.nonce = s.node.nonce := by rw [h.frame.node]
    rw [hnonce] at hbuilds' hsends'
    refine ⟨first ++ second, ?_, ?_, ?_, ?_⟩
    · rw [hsecond, hfirst, List.append_assoc]
    · rw [List.filterMap_append, hbuilds, hbuilds', List.map_append]
    · rw [List.filterMap_append, hsends, hsends', List.map_append]
    · rw [List.filterMap_append, hreceipts, hreceipts', List.map_append]

/-! ## Resolving -/

/-- The dependencies of a contract, resolved one after the other. -/
def resolveBelow (contract : Contract) : Action (List (Contract × Address)) :=
  contract.dependencies.attach.mapM fun dependency => do
    return (dependency.1, ← resolve dependency.1)

/-- What is done to get a value for a contract that has no address. -/
def procedure (contract : Contract) : Action Value := do
  let dependencies ← resolveBelow contract
  let address ← deploy contract dependencies
  return .text address.text

theorem resolve_eq (contract : Contract) :
    resolve contract = Registry.resolve contract (procedure contract) := by
  rw [resolve]
  rfl

/-- A contract that has an address is resolved to it. -/
theorem resolve_of_get? (h : s.registry.get? contract = some address) :
    resolve contract s = .ok address (Registry.finding contract address s) := by
  rw [resolve_eq]
  exact Registry.resolve_of_some h

/-- Resolving a contract, if it ends with an address, creates what is missing for the contract. -/
def Completes (contract : Contract) : Prop :=
  ∀ {s s' : Session} {address : Address}, resolve contract s = .ok address s' →
    ∃ made, Makes s s' made ∧
      made.map (·.contract) = missing contract s.registry.contracts ∧
      s'.registry.get? contract = some address

theorem completes_all {α : Type} {g : α → Contract} {items : List α}
    (hitems : ∀ item ∈ items, Completes (g item)) {found : List (Contract × Address)}
    (h : items.mapM (fun item => do return (g item, ← resolve (g item)) : α → Action _) s =
      .ok found s') :
    ∃ made, Makes s s' made ∧
      made.map (·.contract) = gather (fun item => missing (g item)) items s.registry.contracts ∧
      found.map (·.1) = items.map g ∧
      ∀ entry ∈ found, s'.registry.get? entry.1 = some entry.2 := by
  induction items generalizing s found with
  | nil =>
    obtain ⟨rfl, rfl⟩ := EStateM.Result.ok.inj h
    exact ⟨[], makes_nil (Follows.refl _), rfl, rfl, by simp⟩
  | cons item rest ih =>
    rw [List.mapM_cons] at h
    obtain ⟨entry, mid, hentry, hrest⟩ := bind_eq_ok.1 h
    obtain ⟨address, _, hresolve, hpure⟩ := bind_eq_ok.1 hentry
    cases hpure
    obtain ⟨others, _, hothers, hpure⟩ := bind_eq_ok.1 hrest
    cases hpure
    obtain ⟨made, hmade, hcontracts, hget⟩ := hitems item List.mem_cons_self hresolve
    obtain ⟨made', hmade', hcontracts', hnames, hgets⟩ :=
      ih (fun other hother => hitems other (List.mem_cons_of_mem _ hother)) hothers
    refine ⟨made ++ made', hmade.trans hmade', ?_, ?_, ?_⟩
    · rw [List.map_append, hcontracts, hcontracts', hmade.contracts, hcontracts]
      rfl
    · rw [List.map_cons, List.map_cons, hnames]
    · intro entry hentry
      rcases List.mem_cons.1 hentry with rfl | hentry
      · exact Registry.get?_of_prefix (hmade'.addresses ▸ List.prefix_append _ _) hget
      · exact hgets entry hentry

/-- Resolving the dependencies of a contract creates what is missing below it. -/
theorem completes_below (h : ∀ dependency ∈ contract.dependencies, Completes dependency)
    {found : List (Contract × Address)} (hok : resolveBelow contract s = .ok found s') :
    ∃ made, Makes s s' made ∧
      made.map (·.contract) = missingBelow contract s.registry.contracts ∧
      found.map (·.1) = contract.dependencies ∧
      ∀ entry ∈ found, s'.registry.get? entry.1 = some entry.2 := by
  obtain ⟨made, hmade, hcontracts, hnames, hgets⟩ :=
    completes_all (g := Subtype.val) (fun dependency _ => h dependency.1 dependency.2) hok
  exact ⟨made, hmade, hcontracts, hnames.trans (List.attach_map_subtype_val _), hgets⟩

/-- The dependencies of a contract are in place, at the given addresses, but the contract is not. -/
structure Ready (contract : Contract) (dependencies : List (Contract × Address)) (s : Session) :
    Prop where
  absent : s.registry.get? contract = none
  names : dependencies.map (·.1) = contract.dependencies
  found : ∀ entry ∈ dependencies, s.registry.get? entry.1 = some entry.2

theorem Ready.congr {dependencies : List (Contract × Address)} (h : Ready contract dependencies s)
    (hregistry : s'.registry = s.registry) : Ready contract dependencies s' :=
  ⟨hregistry ▸ h.absent, h.names, hregistry ▸ h.found⟩

/-- What is put in place below a contract stands below it, so that the contract is still missing. -/
theorem absent_of_makes {made : List Creation} (absent : s.registry.get? contract = none)
    (h : Makes s s' made)
    (hcontracts : made.map (·.contract) = missingBelow contract s.registry.contracts) :
    s'.registry.get? contract = none := by
  rw [Registry.get?_eq_none_iff, h.contracts, hcontracts]
  intro hmem
  rcases List.mem_append.1 hmem with hmem | hmem
  · exact Registry.get?_eq_none_iff.1 absent hmem
  · exact not_mem_missingBelow _ _ hmem

/-- The session that is left when the address of a contract has been recorded for the first time. -/
def settled (contract : Contract) (address : Address) (s : Session) : Session :=
  { s with
    registry := { s.registry with addresses := s.registry.addresses ++ [(contract, address)] }
    notices := s.notices ++ ("(i) Deployed " ++ contract.name ++ " at " ++ address.text ++ "\n")
    deeds := s.deeds ++ [.answered contract (.text address.text), .recorded contract address] }

/-- The address of a contract that has none can be recorded. -/
theorem settle_of_absent (address : Address) (absent : s.registry.get? contract = none) :
    Registry.settle contract (.text address.text) s = .ok address (settled contract address s) := by
  have hinsert : s.registry.insert? contract address = some _ := Registry.insert?_of_none absent
  exact Registry.settle_of_ok (Registry.record_eq_ok.2 ⟨Address.read_text address, hinsert⟩)

theorem get?_settled (address : Address) (absent : s.registry.get? contract = none) :
    (settled contract address s).registry.get? contract = some address :=
  Registry.get?_insert?_same (Registry.insert?_of_none absent)

/-- Deploying a contract whose dependencies are in place, and recording its address, makes it. -/
theorem makes_of_deploys {data : Octets} {dependencies : List (Contract × Address)}
    (hready : Ready contract dependencies s) (hdata : DataFor s contract dependencies data)
    (hdeploys : Deploys contract data address s mid) :
    Makes s (settled contract address mid) [⟨contract, s.node.sent, data, address⟩] := by
  have hsettled : Frame mid (settled contract address mid) := ⟨rfl, rfl, rfl, fun _ => rfl, rfl⟩
  have hframe : Frame s (settled contract address mid) := Follows.trans hdeploys.frame hsettled
  have haddresses : (settled contract address mid).registry.addresses =
      s.registry.addresses ++ [(contract, address)] := by rw [settled, hdeploys.registry]
  refine ⟨hframe, haddresses, ?_, hdeploys.creates.sent, rfl, ?_, ?_, ?_, ?_, ?_⟩
  · -- predeployed
    rw [settled, hdeploys.registry]
  · -- receipts
    intro creation hcreation
    rw [List.mem_singleton.1 hcreation]
    exact hdeploys.creates.receipt
  · -- linked
    intro creation hcreation
    rw [List.mem_singleton.1 hcreation]
    have hlinked : Creation.Linked s ⟨contract, s.node.sent, data, address⟩ :=
      ⟨dependencies, hready.names, hready.found, hdata⟩
    exact hlinked.mono hframe (haddresses ▸ List.prefix_append _ _)
  · -- chainKnown
    rw [settled, hdeploys.creates.chainKnown]
    simp
  · -- genesisKnown
    rw [settled, hdeploys.genesisKnown]
    simp [eq_comm]
  · -- deeds
    obtain ⟨added, hadded, hbuilds, hsends, hreceipts⟩ := hdeploys.creates.deeds
    refine ⟨added ++ [.answered contract (.text address.text), .recorded contract address],
      ?_, ?_, ?_, ?_⟩
    · rw [settled, hadded, List.append_assoc]
    · rw [List.filterMap_append, hbuilds]
      rfl
    · rw [List.filterMap_append, hsends]
      rfl
    · rw [List.filterMap_append, hreceipts]
      rfl

theorem makes_opening (contract : Contract) (s : Session) :
    Makes s (Registry.opening contract s) [] :=
  makes_nil ⟨⟨⟨rfl, rfl, rfl, fun _ => rfl, rfl⟩, ⟨rfl, id, [.called contract], rfl, rfl, rfl, rfl⟩, rfl,
    rfl⟩, rfl⟩

theorem makes_finding (contract : Contract) (address : Address) (s : Session) :
    Makes s (Registry.finding contract address s) [] :=
  makes_nil ⟨⟨⟨rfl, rfl, rfl, fun _ => rfl, rfl⟩,
    ⟨rfl, id, [.found contract address], rfl, rfl, rfl, rfl⟩, rfl, rfl⟩, rfl⟩

/-- **What a resolution has done.** Resolving a contract, if it ends with an address, creates what is
missing for the contract, in order, and leaves the contract at the address. -/
theorem completes (contract : Contract) : Completes contract := by
  intro s s' address h
  cases hget : s.registry.get? contract with
  | some known =>
    rw [resolve_of_get? hget] at h
    cases h
    refine ⟨[], makes_finding contract address s, ?_, hget⟩
    rw [missing_of_mem (Registry.mem_contracts_of_get? hget)]
    rfl
  | none =>
    rw [resolve_eq, Registry.resolve_of_none hget] at h
    obtain ⟨value, mid, hprocedure, hsettle⟩ := bind_eq_ok.1 h
    obtain ⟨dependencies, ready, hresolved, hdeploy⟩ := bind_eq_ok.1 hprocedure
    obtain ⟨created, _, hcreated, hpure⟩ := bind_eq_ok.1 hdeploy
    cases hpure
    obtain ⟨made, hmade, hcontracts, hnames, hgets⟩ :=
      completes_below (fun dependency _ => completes dependency) hresolved
    have hget' : (Registry.opening contract s).registry.get? contract = none := hget
    have habsent : ready.registry.get? contract = none := absent_of_makes hget' hmade hcontracts
    obtain ⟨data, hdata, hdeploys⟩ := deploy_eq_ok hnames hcreated
    have hown := makes_of_deploys ⟨habsent, hnames, hgets⟩ hdata hdeploys
    have habsent' := hdeploys.registry.symm ▸ habsent
    rw [settle_of_absent created habsent'] at hsettle
    cases hsettle
    refine ⟨made ++ [_], ((makes_opening contract s).trans hmade).trans hown, ?_,
      get?_settled address habsent'⟩
    rw [List.map_append, hcontracts, missing_of_not_mem (Registry.get?_eq_none_iff.1 hget)]
    rfl
termination_by contract.height
decreasing_by exact Contract.height_lt_of_mem_dependencies ‹_›

end Rollout.Resolution
