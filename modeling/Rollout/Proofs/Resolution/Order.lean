import Rollout.Proofs.Resolution.Creation

/-!
# The script of a resolution

Resolving a contract follows the script of what is missing for the contract: for each contract in its
turn, what its procedure does and then the record of its address (`resolve_scripted`). The node is
asked for its chain at most once on the way, and so is the web for the genesis state.
-/

namespace Rollout.Resolution

open Rollout.Action

variable {s s' : Session} {contract : Contract} {contracts : List Contract}
  {chainKnown genesisKnown : Bool}

/-- What putting contracts in place does, in outline. -/
def script : List Contract → Bool → Bool → List Outline
  | [], _, _ => []
  | contract :: rest, chainKnown, genesisKnown =>
    procedureScript contract chainKnown genesisKnown ++ .recorded contract ::
      script rest true (genesisKnown || decide (contract = .lightClientProxy))

/-- What putting contracts in place does in a session, in outline. -/
def scriptIn (s : Session) (contracts : List Contract) : List Outline :=
  script contracts s.client.chainId.isSome s.genesis.fetched.isSome

theorem script_append (a b : List Contract) (chainKnown genesisKnown : Bool) :
    script (a ++ b) chainKnown genesisKnown = script a chainKnown genesisKnown ++
      script b (chainKnown || !a.isEmpty) (genesisKnown || decide (.lightClientProxy ∈ a)) := by
  induction a generalizing chainKnown genesisKnown with
  | nil => simp [script]
  | cons contract rest ih =>
    have hgenesis : (genesisKnown || decide (contract = .lightClientProxy)
        || decide (.lightClientProxy ∈ rest)) =
          (genesisKnown || decide (.lightClientProxy ∈ contract :: rest)) := by
      simp [Bool.or_assoc, eq_comm]
    simp only [List.cons_append, script, ih, List.append_assoc, hgenesis]
    simp

/-- What a session knows after contracts were put in place. -/
theorem Makes.known {made : List Creation} {a : List Contract} (h : Makes s s' made)
    (ha : made.map (·.contract) = a) :
    s'.client.chainId.isSome = (s.client.chainId.isSome || !a.isEmpty) ∧
      s'.genesis.fetched.isSome =
        (s.genesis.fetched.isSome || decide (.lightClientProxy ∈ a)) := by
  subst ha
  exact ⟨by rw [h.chainKnown, List.isEmpty_map], h.genesisKnown⟩

theorem settle_scripted (contract : Contract) (value : Value) (s : Session) :
    Scripted (Registry.settle contract value) s [.recorded contract] := by
  cases hrecord : s.registry.record contract value with
  | error fault =>
    have hsettle := Registry.settle_of_error hrecord
    refine ⟨[.answered contract value], ?_, List.nil_prefix, ?_, ?_⟩
    · rw [after_of_error hsettle]
    · intro a s' hok
      rw [hsettle] at hok
      cases hok
    · rw [after_of_error hsettle]
      exact .nil s.registry
  | ok r =>
    obtain ⟨address, next⟩ := r
    have hsettle := Registry.settle_of_ok hrecord
    refine ⟨[.answered contract value, .recorded contract address], ?_, List.prefix_rfl,
      fun _ _ _ => rfl, ?_⟩
    · rw [after_of_ok hsettle]
    · rw [after_of_ok hsettle]
      exact .insert? (Registry.record_eq_ok.1 hrecord).2

/-- Deeds that only tell how a resolution goes do not count. -/
theorem scripted_of_silent {α : Type} {x y : Action α} {script : List Outline} {deed : Deed}
    (h : Scripted x s' script) (hrun : y s = x s') (hdeeds : s'.deeds = s.deeds ++ [deed])
    (hregistry : s'.registry = s.registry) (houtline : deed.outline? = none)
    (hentry : deed.entry? = none) : Scripted y s script := by
  obtain ⟨added, hadds⟩ := h
  have hafter : y.after s = x.after s' := by rw [after, after, hrun]
  have houtlines : outlines (deed :: added) = outlines added := by simp [outlines, houtline]
  have hentries : entriesOf (deed :: added) = entriesOf added := by simp [entriesOf, hentry]
  refine ⟨deed :: added, ?_, houtlines ▸ hadds.begins, fun a end' hok => ?_, ?_⟩
  · rw [hafter, hadds.deeds, hdeeds, List.append_assoc]
    rfl
  · rw [houtlines]
    exact hadds.completes a end' (hrun ▸ hok)
  · rw [hafter, hentries, ← hregistry]
    exact hadds.registry

theorem resolveAll_scripted {α : Type} {g : α → Contract} {items : List α}
    (hitems : ∀ item ∈ items, ∀ s, Scripted (resolve (g item)) s
      (scriptIn s (missing (g item) s.registry.contracts))) (s : Session) :
    Scripted (items.mapM (fun item => do return (g item, ← resolve (g item)) : α → Action _)) s
      (scriptIn s (gather (fun item => missing (g item)) items s.registry.contracts)) := by
  induction items generalizing s with
  | nil => exact scripted_pure _ s
  | cons item rest ih =>
    have hfirst : Scripted (do return (g item, ← resolve (g item)) : Action _) s
        (scriptIn s (missing (g item) s.registry.contracts)) :=
      (hitems item List.mem_cons_self s).bind_nil fun _ mid => scripted_pure _ mid
    rw [List.mapM_cons, gather, scriptIn, script_append]
    refine hfirst.bind fun entry mid hentry => ?_
    -- the rest is resolved with what was put in place so far, and by its script in that session
    obtain ⟨address, _, hresolve, hpure⟩ := bind_eq_ok.1 hentry
    cases hpure
    obtain ⟨made, hmade, hcontracts, -⟩ := completes (g item) hresolve
    obtain ⟨hchain, hgenesis⟩ := hmade.known hcontracts
    rw [← hchain, ← hgenesis, ← hcontracts, ← hmade.contracts]
    have hrest := ih (fun other hother => hitems other (List.mem_cons_of_mem _ hother)) mid
    exact hrest.bind_nil fun _ last => scripted_pure _ last

theorem resolveBelow_scripted (contract : Contract) (h : ∀ dependency ∈ contract.dependencies, ∀ s,
    Scripted (resolve dependency) s (scriptIn s (missing dependency s.registry.contracts)))
    (s : Session) : Scripted (resolveBelow contract) s
      (scriptIn s (missingBelow contract s.registry.contracts)) :=
  resolveAll_scripted (fun dependency _ => h dependency.1 dependency.2) s

/-- **The script of a resolution.** However the resolution of a contract ends, it follows the script
of what is missing for the contract. -/
theorem resolve_scripted (contract : Contract) (s : Session) :
    Scripted (resolve contract) s (scriptIn s (missing contract s.registry.contracts)) := by
  rw [resolve_eq]
  cases hget : s.registry.get? contract with
  | some address =>
    rw [missing_of_mem (Registry.mem_contracts_of_get? hget)]
    exact scripted_of_silent (scripted_pure address (Registry.finding contract address s))
      (Registry.resolve_of_some hget) rfl rfl rfl rfl
  | none =>
    have hbelow := resolveBelow_scripted contract (fun dependency _ => resolve_scripted dependency)
      (Registry.opening contract s)
    refine scripted_of_silent ?_ (Registry.resolve_of_none hget) rfl rfl rfl rfl
    rw [missing_of_not_mem (Registry.get?_eq_none_iff.1 hget), scriptIn, script_append, script,
      script, ← List.append_assoc]
    refine Scripted.bind ?_ fun value mid _ => settle_scripted contract value mid
    refine hbelow.bind fun dependencies ready hresolved => ?_
    obtain ⟨made, hmade, hcontracts, hnames, -⟩ :=
      completes_below (fun dependency _ => completes dependency) hresolved
    obtain ⟨hchain, hgenesis⟩ := hmade.known hcontracts
    have hdeploy := deploy_scripted hnames ready
    rw [hchain, hgenesis] at hdeploy
    exact hdeploy.bind_nil fun address last => scripted_pure _ last
termination_by contract.height
decreasing_by exact Contract.height_lt_of_mem_dependencies ‹_›

/-! ## Accesses in a script -/

theorem mem_of_access_mem_creationScript {other : Contract} {step : Chain.Step}
    (h : .access (some contract) step ∈ Client.creationScript other chainKnown) :
    contract = other := by
  rw [Client.creationScript] at h
  cases chainKnown <;> simp at h <;> grind

/-- An item of a script is that a contract is recorded, or belongs to the procedure of one: it is one
of those for the genesis state, or one of the creation. -/
theorem exists_of_mem_script {item : Outline}
    (h : item ∈ script contracts chainKnown genesisKnown) : ∃ contract ∈ contracts,
      item = .recorded contract ∨
        (contract = .lightClientProxy ∧ ∃ genesisKnown, item ∈ genesisScript genesisKnown) ∨
          ∃ chainKnown, item ∈ Client.creationScript contract chainKnown := by
  induction contracts generalizing chainKnown genesisKnown with
  | nil => cases h
  | cons contract rest ih =>
    rw [script] at h
    rcases List.mem_append.1 h with h | h
    · refine ⟨contract, List.mem_cons_self, Or.inr ?_⟩
      rw [procedureScript] at h
      rcases List.mem_append.1 h with h | h
      · split at h
        · next hproxy => exact Or.inl ⟨hproxy, _, h⟩
        · cases h
      · exact Or.inr ⟨_, h⟩
    · rcases List.mem_cons.1 h with rfl | h
      · exact ⟨contract, List.mem_cons_self, Or.inl rfl⟩
      · obtain ⟨other, hother, hitem⟩ := ih h
        exact ⟨other, List.mem_cons_of_mem _ hother, hitem⟩

theorem mem_of_access_mem_script {step : Chain.Step}
    (h : .access (some contract) step ∈ script contracts chainKnown genesisKnown) :
    contract ∈ contracts := by
  obtain ⟨other, hother, h | ⟨-, known, h⟩ | ⟨known, h⟩⟩ := exists_of_mem_script h
  · cases h
  · cases known <;> simp [genesisScript] at h
  · rw [mem_of_access_mem_creationScript h]
    exact hother

end Rollout.Resolution
