import Rollout.Proofs.Deployment.Calls

/-!
# What a deployment makes of supplied addresses

A deployment that succeeds keeps the addresses that it is supplied with, and sends a transaction for just
those contracts that it records beside them: the consensus contract and what is reached from the proxy
without passing through a supplied contract (`completed_of_run`).
-/

namespace Rollout.Deployment

open Rollout.Action Resolution

variable {s s' : Session} {contract : Contract} {deployment : Deployment}

/-- From the consensus contract nothing else is reached. -/
theorem reached_iff {supplied : List Contract} :
    Reached supplied [.hotShot, .lightClientProxy] contract ↔
      contract = .hotShot ∨ Reached supplied [.lightClientProxy] contract := by
  constructor
  · intro h
    induction h with
    | target htarget =>
      rcases List.mem_cons.1 htarget with rfl | htarget
      · exact Or.inl rfl
      · exact Or.inr (.target htarget)
    | dependency _ hpasses hdependency ih =>
      rcases ih with rfl | ih
      · cases hdependency
      · exact Or.inr (ih.dependency hpasses hdependency)
  · rintro (rfl | h)
    · exact .target List.mem_cons_self
    · exact h.mono fun target htarget => List.mem_cons_of_mem _ htarget

/-- A transaction that creates a contract is sent. -/
def Sent (contract : Contract) (deeds : List Deed) : Prop :=
  ∃ number, (some contract, number) ∈ deeds.filterMap Deed.send?

/-- What a deployment has done that succeeds with supplied addresses. -/
structure Completed (s s' : Session) (added : List Deed) : Prop where
  deeds : s'.deeds = s.deeds ++ added
  kept : ∀ contract address, s.registry.get? contract = some address →
    s'.registry.get? contract = some address
  sent : ∀ contract, Sent contract added ↔
    contract ∉ s.registry.contracts ∧ contract ∈ s'.registry.contracts
  reached : ∀ contract, contract ∈ s'.registry.contracts ↔
    contract ∈ s.registry.contracts ∨ contract = .hotShot ∨
      Reached s.registry.contracts [.lightClientProxy] contract

/-- The transactions that are sent are those of the contracts that are made. -/
theorem sent_iff_of_sends {made : List Creation} {added : List Deed} {first : Int}
    (hsends : added.filterMap Deed.send? = made.map fun creation =>
      (some creation.contract, first + creation.number)) :
    Sent contract added ↔ contract ∈ made.map (·.contract) := by
  unfold Sent
  rw [hsends]
  constructor
  · rintro ⟨number, hnumber⟩
    obtain ⟨creation, hcreation, hsame⟩ := List.mem_map.1 hnumber
    cases hsame
    exact List.mem_map_of_mem hcreation
  · intro hmem
    obtain ⟨creation, hcreation, rfl⟩ := List.mem_map.1 hmem
    exact ⟨_, List.mem_map_of_mem hcreation⟩

/-- A deployment leaves the contracts that it was supplied with, the consensus contract and what is
reached from the proxy. -/
theorem mem_contracts_of_run (hsupplied : s.registry.predeployed = s.registry.contracts)
    (h : deployment.run s = .ok () s') : contract ∈ s'.registry.contracts ↔
      contract ∈ s.registry.contracts ∨ contract = .hotShot ∨
        Reached s.registry.contracts [.lightClientProxy] contract := by
  have hact : (Call.run deployment).act s = .ok () s' := h
  have hgathered := act_eq_ok hact
  -- in the end the registry is closed under dependencies, as it is at any moment
  obtain ⟨added, -, hgrown, horderly⟩ :=
    after_of_ok hact ▸ advances_keptByCalls.act (.run deployment) s
  have hclosed := closed_of_orderly hsupplied horderly
  rw [← hgrown] at hclosed
  have hpredeployed : s'.registry.predeployed = s.registry.contracts := by
    rw [hgrown]
    exact hsupplied
  rw [← reached_iff]
  exact mem_contracts_iff_reached hgathered hpredeployed hclosed

theorem completed_of_run (hsupplied : s.registry.predeployed = s.registry.contracts)
    (h : deployment.run s = .ok () s') : ∃ added, Completed s s' added := by
  have hreached : ∀ contract, contract ∈ s'.registry.contracts ↔
      contract ∈ s.registry.contracts ∨ contract = .hotShot ∨
        Reached s.registry.contracts [.lightClientProxy] contract := fun contract =>
    mem_contracts_of_run hsupplied h
  obtain ⟨made, resolved, published, hmade, hneeded, hpublish, rfl⟩ := run_eq_ok h
  have hkeeps : Registry.OnlyPublishes resolved published :=
    after_of_ok hpublish ▸ Registry.publish_keeps _ _ resolved
  have hregistry : published.registry = resolved.registry := hkeeps.registry_eq
  obtain ⟨added, hadded, -, hsends, -⟩ := hmade.deeds
  have hfresh := fresh_needed s.registry.contracts
  rw [← hneeded] at hfresh
  refine ⟨added, hkeeps.deeds_eq.trans hadded, ?_, ?_, hreached⟩
  · -- kept
    intro contract address hget
    show published.registry.get? contract = some address
    rw [hregistry]
    exact Registry.get?_of_prefix (hmade.addresses ▸ List.prefix_append _ _) hget
  · -- sent
    intro contract
    show _ ↔ _ ∧ contract ∈ published.registry.contracts
    rw [sent_iff_of_sends hsends, hregistry, hmade.contracts, List.mem_append]
    constructor
    · intro hmem
      exact ⟨hfresh.not_mem contract hmem, Or.inr hmem⟩
    · rintro ⟨hnew, hmem | hmem⟩
      · exact absurd hmem hnew
      · exact hmem

end Rollout.Deployment
