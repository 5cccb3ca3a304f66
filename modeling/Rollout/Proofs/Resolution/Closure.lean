import Rollout.Proofs.Registry.Agreement
import Rollout.Proofs.Resolution.Steps

/-!
# Dependencies come first

Whatever is done to resolve contracts, however it ends, is done in order (`Advances`): a contract is
deployed only while it is not recorded, and it is recorded only when all the contracts that it
depends on are. So the registry is closed under dependencies at any moment (`closed_of_orderly`), and
what an aborted resolution has left is a fit start for the next one. What is put in place for some
contracts, if nothing goes wrong, is what can be reached from them without passing through a contract
that is recorded already (`mem_gather_iff_reached`).
-/

namespace Rollout

open Rollout.Action

/-! ## Deeds in order -/

/-- The contracts that deeds record, in their order. -/
def recordedBy (deeds : List Deed) : List Contract := (entriesOf deeds).map (·.1)

@[simp]
theorem recordedBy_nil : recordedBy [] = [] := rfl

theorem recordedBy_of_none {deeds : List Deed} (h : entriesOf deeds = []) :
    recordedBy deeds = [] := by
  rw [recordedBy, h, List.map_nil]

theorem recordedBy_append (a b : List Deed) :
    recordedBy (a ++ b) = recordedBy a ++ recordedBy b := by
  rw [recordedBy, entriesOf_append, List.map_append]
  rfl

/-- A deed is done at its time, if some contracts are recorded by then: nothing is done to deploy a
contract that is recorded, and none is recorded before its dependencies, nor twice. -/
def Deed.Timely (known : List Contract) : Deed → Prop
  | .access none _ => True
  | .access (some contract) _ => contract ∉ known
  | .began contract _ _ _ => contract ∉ known
  | .called contract => contract ∉ known
  | .answered contract _ => contract ∉ known
  | .found contract _ => contract ∈ known
  | .recorded contract _ =>
    contract ∉ known ∧ ∀ dependency ∈ contract.dependencies, dependency ∈ known

/-- Deeds are done in order, each at its time, if some contracts are recorded at first. -/
def Orderly (known : List Contract) (deeds : List Deed) : Prop :=
  ∀ before deed after, deeds = before ++ deed :: after → deed.Timely (known ++ recordedBy before)

variable {known : List Contract} {s s' mid : Session} {contract : Contract}

theorem orderly_nil (known : List Contract) : Orderly known [] := by
  intro before deed after h
  simp at h

theorem orderly_singleton {deed : Deed} (h : deed.Timely known) : Orderly known [deed] := by
  intro before other after hsplit
  rcases List.cons_eq_append_iff.1 hsplit with ⟨rfl, hcons⟩ | ⟨rest, rfl, hnil⟩
  · obtain ⟨rfl, -⟩ := List.cons.inj hcons
    rwa [recordedBy_nil, List.append_nil]
  · simp at hnil

theorem Orderly.append {a b : List Deed} (ha : Orderly known a)
    (hb : Orderly (known ++ recordedBy a) b) : Orderly known (a ++ b) := by
  intro before deed after hsplit
  rcases List.append_eq_append_iff.1 hsplit with ⟨c, rfl, hb'⟩ | ⟨c, rfl, hc⟩
  · rw [recordedBy_append, ← List.append_assoc]
    exact hb c deed after hb'
  · cases c with
    | nil =>
      have h := hb [] deed after hc.symm
      rwa [recordedBy_nil, List.append_nil, List.append_nil] at h
    | cons first rest =>
      obtain ⟨rfl, -⟩ := List.cons.inj hc
      exact ha before deed rest rfl

/-- Deeds that record nothing are in order if each could be done at first. -/
theorem orderly_of_timely {deeds : List Deed} (hnone : entriesOf deeds = [])
    (h : ∀ deed ∈ deeds, deed.Timely known) : Orderly known deeds := by
  rintro before deed after rfl
  rw [entriesOf_append] at hnone
  rw [recordedBy_of_none (List.append_eq_nil_iff.1 hnone).1, List.append_nil]
  exact h deed (by simp)

/-- An entry that deeds record in order comes after those of its dependencies. -/
theorem Orderly.entry {deeds : List Deed} (h : Orderly known deeds)
    {before after : List (Contract × Address)} {entry : Contract × Address}
    (hsplit : entriesOf deeds = before ++ entry :: after) :
    ∀ dependency ∈ entry.1.dependencies, dependency ∈ known ++ before.map (·.1) := by
  obtain ⟨first, rest, rfl, hfirst, hrest⟩ := List.filterMap_eq_append_iff.1 hsplit
  obtain ⟨silent, deed, others, rfl, hsilent, hdeed, -⟩ := List.filterMap_eq_cons_iff.1 hrest
  have htimely := h (first ++ silent) deed others (List.append_assoc _ _ _).symm
  have hbefore : recordedBy (first ++ silent) = before.map (·.1) := by
    rw [recordedBy_append, recordedBy_of_none (List.filterMap_eq_nil_iff.2 hsilent), List.append_nil,
      recordedBy, entriesOf, hfirst]
  rw [hbefore] at htimely
  cases deed with
  | recorded contract address =>
    cases hdeed
    exact htimely.2
  | _ => cases hdeed

/-- Addresses are closed under dependencies: a contract that was not supplied has all its
dependencies before it. -/
def Registry.Closed (registry : Registry) : Prop :=
  ∀ before entry after, registry.addresses = before ++ entry :: after →
    entry.1 ∉ registry.predeployed →
      ∀ dependency ∈ entry.1.dependencies, dependency ∈ before.map (·.1)

/-- A registry of supplied addresses, to which deeds add in order, is closed under dependencies at
any moment. -/
theorem closed_of_orderly {registry : Registry} {deeds : List Deed}
    (hsupplied : registry.predeployed = registry.contracts)
    (horderly : Orderly registry.contracts deeds) :
    Registry.Closed { registry with addresses := registry.addresses ++ entriesOf deeds } := by
  intro before entry after hsplit hentry
  rcases List.append_eq_append_iff.1 hsplit with ⟨added, rfl, hadded⟩ | ⟨kept, hkept, hadded⟩
  · -- the entry is that of a deed, which was done at its time
    have h := horderly.entry hadded
    rwa [Registry.contracts, ← List.map_append] at h
  · cases kept with
    | nil =>
      have hfirst : entriesOf deeds = [] ++ entry :: after := hadded.symm
      have h := horderly.entry hfirst
      rw [List.append_nil] at hkept
      rwa [List.map_nil, List.append_nil, Registry.contracts, hkept] at h
    | cons first rest =>
      -- the entry was supplied
      obtain ⟨rfl, -⟩ := List.cons.inj hadded
      refine absurd ?_ hentry
      show entry.1 ∈ registry.predeployed
      rw [hsupplied, Registry.contracts, hkept]
      simp

/-- Where addresses are closed under dependencies, a contract that was not supplied has all its
dependencies next to it. -/
theorem Registry.Closed.mem_contracts {registry : Registry} {dependency : Contract}
    (h : registry.Closed) (hmem : contract ∈ registry.contracts)
    (hsupplied : contract ∉ registry.predeployed) (hdependency : dependency ∈ contract.dependencies) :
    dependency ∈ registry.contracts := by
  obtain ⟨entry, hentry, rfl⟩ := List.mem_map.1 hmem
  obtain ⟨before, after, hsplit⟩ := List.append_of_mem hentry
  have hbefore := h before entry after hsplit hsupplied dependency hdependency
  rw [Registry.contracts, hsplit, List.map_append]
  exact List.mem_append_left _ hbefore

/-! ## Resolving in order -/

/-- From one session to another, deeds are done in order, and the registry grows by what they
record. -/
def Advances (s s' : Session) : Prop :=
  ∃ added, s'.deeds = s.deeds ++ added ∧
    s'.registry = { s.registry with addresses := s.registry.addresses ++ entriesOf added } ∧
    Orderly s.registry.contracts added

instance : Follows Advances where
  refl s := ⟨[], by simp, by simp [entriesOf], orderly_nil _⟩
  trans := by
    rintro s mid s' ⟨a, ha, hra, hoa⟩ ⟨b, hb, hrb, hob⟩
    refine ⟨a ++ b, by rw [hb, ha, List.append_assoc], ?_, hoa.append ?_⟩
    · rw [hrb, hra, entriesOf_append, List.append_assoc]
    · have hcontracts : mid.registry.contracts = s.registry.contracts ++ recordedBy a := by
        rw [Registry.contracts, hra, List.map_append]
        rfl
      rwa [← hcontracts]

theorem advances_of_eq (hdeeds : s'.deeds = s.deeds) (hregistry : s'.registry = s.registry) :
    Advances s s' :=
  ⟨[], by simp [hdeeds], by simp [hregistry, entriesOf], orderly_nil _⟩

theorem advances_of_deed {deed : Deed} (hdeeds : s'.deeds = s.deeds ++ [deed])
    (hregistry : s'.registry = s.registry) (hentry : deed.entry? = none)
    (htimely : deed.Timely s.registry.contracts) : Advances s s' := by
  refine ⟨[deed], hdeeds, ?_, orderly_singleton htimely⟩
  rw [hregistry]
  simp [entriesOf, hentry]

namespace Resolution

variable {dependencies : List (Contract × Address)} {address : Address}

/-- Nothing that the procedure of a contract does records a contract. -/
theorem deploy_advances (h : s.registry.get? contract = none) :
    Advances s ((deploy contract dependencies).after s) := by
  obtain ⟨added, hadded, hfor⟩ := (onlyDoneFor_kept contract).deploy dependencies s
  have hnone : entriesOf added = [] := by
    refine List.filterMap_eq_nil_iff.2 fun deed hdeed => ?_
    cases hfor deed hdeed <;> rfl
  refine ⟨added, hadded, ?_, orderly_of_timely hnone fun deed hdeed => ?_⟩
  · rw [deploy_registry, hnone, List.append_nil]
  · cases hfor deed hdeed with
    | began interface bytecode arguments => exact Registry.get?_eq_none_iff.1 h
    | access event => exact Registry.get?_eq_none_iff.1 h
    | request url timeout => exact True.intro

/-- The address of a contract that is ready is recorded after those of its dependencies. -/
theorem settled_advances (h : Ready contract dependencies s) (address : Address) :
    Advances s (settled contract address s) := by
  have habsent := Registry.get?_eq_none_iff.1 h.absent
  refine ⟨[.answered contract (.text address.text), .recorded contract address], rfl, rfl, ?_⟩
  have hanswered : Orderly s.registry.contracts [.answered contract (.text address.text)] :=
    orderly_singleton habsent
  refine hanswered.append (orderly_singleton ?_)
  rw [recordedBy_of_none rfl, List.append_nil]
  refine ⟨habsent, fun dependency hdependency => ?_⟩
  rw [← h.names] at hdependency
  obtain ⟨entry, hentry, rfl⟩ := List.mem_map.1 hdependency
  exact Registry.mem_contracts_of_get? (h.found entry hentry)

theorem advances_kept : KeptBySettling Advances where
  finding hget := advances_of_deed rfl rfl rfl (Registry.mem_contracts_of_get? hget)
  opening hget := advances_of_deed rfl rfl rfl (Registry.get?_eq_none_iff.1 hget)
  deploying h := deploy_advances h.absent
  settling address h := settled_advances h address

/-! ## What can be reached -/

/-- A contract can be reached from some contracts by going from a contract to its dependencies, and
not on from a contract that was supplied. -/
inductive Reached (supplied targets : List Contract) : Contract → Prop where
  /-- The contracts from which one starts are reached. -/
  | target {contract : Contract} : contract ∈ targets → Reached supplied targets contract
  /-- From a contract that was not supplied its dependencies are reached. -/
  | dependency {contract dependency : Contract} : Reached supplied targets contract →
    contract ∉ supplied → dependency ∈ contract.dependencies →
    Reached supplied targets dependency

variable {supplied targets : List Contract} {other : Contract}

theorem Reached.mono {more : List Contract} (h : Reached supplied targets contract)
    (hsub : ∀ target ∈ targets, target ∈ more) : Reached supplied more contract := by
  induction h with
  | target htarget => exact .target (hsub _ htarget)
  | dependency _ hpasses hdependency ih => exact ih.dependency hpasses hdependency

/-- Fewer supplied contracts cut fewer ways off. -/
theorem Reached.anti {fewer : List Contract} (h : Reached supplied targets contract)
    (hsub : ∀ other ∈ fewer, other ∈ supplied) : Reached fewer targets contract := by
  induction h with
  | target htarget => exact .target htarget
  | dependency _ hpasses hdependency ih =>
    exact ih.dependency (fun hmem => hpasses (hsub _ hmem)) hdependency

theorem gather_append {α : Type} (need : α → List Contract → List Contract) (a b : List α)
    (known : List Contract) : gather need (a ++ b) known =
      gather need a known ++ gather need b (known ++ gather need a known) := by
  induction a generalizing known with
  | nil => simp [gather]
  | cons item rest ih =>
    rw [List.cons_append, gather, gather, ih]
    simp only [List.append_assoc]

theorem mem_gather {α : Type} {need : α → List Contract → List Contract} {items : List α}
    (h : other ∈ gather need items known) :
    ∃ item ∈ items, ∃ more, other ∈ need item (known ++ more) := by
  induction items generalizing known with
  | nil => cases h
  | cons item rest ih =>
    rw [gather] at h
    rcases List.mem_append.1 h with h | h
    · exact ⟨item, List.mem_cons_self, [], by rwa [List.append_nil]⟩
    · obtain ⟨later, hlater, more, hmore⟩ := ih h
      rw [List.append_assoc] at hmore
      exact ⟨later, List.mem_cons_of_mem _ hlater, _, hmore⟩

theorem mem_append_missing (contract : Contract) (known : List Contract) :
    contract ∈ known ++ missing contract known := by
  by_cases h : contract ∈ known
  · exact List.mem_append_left _ h
  · rw [missing_of_not_mem h]
    simp

/-- The contracts that are put in place are in place afterwards. -/
theorem mem_append_gather (h : contract ∈ targets) (known : List Contract) :
    contract ∈ known ++ gather missing targets known := by
  induction targets generalizing known with
  | nil => cases h
  | cons first rest ih =>
    rw [gather, ← List.append_assoc]
    rcases List.mem_cons.1 h with rfl | h
    · exact List.mem_append_left _ (mem_append_missing contract known)
    · exact ih h _

/-- What is missing for a contract that is reached is reached. -/
theorem reached_of_mem_missing {contract : Contract} {known : List Contract}
    (hsupplied : ∀ other ∈ supplied, other ∈ known)
    (hreached : Reached supplied targets contract) (h : other ∈ missing contract known) :
    Reached supplied targets other := by
  by_cases hknown : contract ∈ known
  · rw [missing_of_mem hknown] at h
    cases h
  · have hpasses : contract ∉ supplied := fun hmem => hknown (hsupplied contract hmem)
    rw [missing_of_not_mem hknown, missingBelow_eq] at h
    rcases List.mem_append.1 h with h | h
    · obtain ⟨dependency, hdependency, more, hmore⟩ := mem_gather h
      have hgrown : ∀ other ∈ supplied, other ∈ known ++ more := fun other hmem =>
        List.mem_append_left _ (hsupplied other hmem)
      exact reached_of_mem_missing hgrown (hreached.dependency hpasses hdependency) hmore
    · rwa [List.mem_singleton.1 h]
termination_by contract.height
decreasing_by exact Contract.height_lt_of_mem_dependencies hdependency

/-- **What is put in place.** A registry of supplied addresses to which some contracts were added
with all that was missing for them, and which is closed under dependencies, has the supplied
contracts and those that can be reached from the added ones. -/
theorem mem_contracts_iff_reached {registry : Registry}
    (hcontracts : registry.contracts = supplied ++ gather missing targets supplied)
    (hsupplied : registry.predeployed = supplied) (hclosed : registry.Closed) :
    contract ∈ registry.contracts ↔ contract ∈ supplied ∨ Reached supplied targets contract := by
  constructor
  · intro h
    rw [hcontracts] at h
    refine (List.mem_append.1 h).imp_right fun h => ?_
    obtain ⟨target, htarget, more, hmore⟩ := mem_gather h
    exact reached_of_mem_missing (fun _ => List.mem_append_left more) (.target htarget) hmore
  · rintro (h | h)
    · rw [hcontracts]
      exact List.mem_append_left _ h
    · induction h with
      | target htarget =>
        rw [hcontracts]
        exact mem_append_gather htarget supplied
      | dependency _ hpasses hdependency ih =>
        exact hclosed.mem_contracts ih (hsupplied ▸ hpasses) hdependency

end Resolution

end Rollout
