import Rollout.Proofs.Deployment.Run

/-!
# The order of a deployment

The contracts that a deployment puts in place are a first part of those that are needed, in their
order; transactions are sent for these and at most for the next one, one for each. The genesis state
is asked for at most once, when the light client is in place and nothing was done for the proxy yet.
All this holds wherever the deployment is cut short: it is read off the script.
-/

namespace Rollout

variable {contract : Contract} {contracts : List Contract} {chainKnown genesisKnown : Bool}

/-! ## Sending and recording -/

namespace Outline

/-- Tells whether a transaction is broadcast or an address is recorded. -/
def isStep : Outline → Bool
  | access _ .send => true
  | recorded _ => true
  | _ => false

/-- The contract for which a transaction is broadcast. -/
def sent? : Outline → Option (Option Contract)
  | access contract .send => some contract
  | _ => none

/-- The contract that is recorded. -/
def recorded? : Outline → Option Contract
  | recorded contract => some contract
  | _ => none

/-- What is told by steps alone can be read off the steps of a script. -/
theorem filterMap_isStep {β : Type} {f : Outline → Option β}
    (h : ∀ outline, isStep outline = false → f outline = none) (script : List Outline) :
    (script.filter isStep).filterMap f = script.filterMap f := by
  induction script with
  | nil => rfl
  | cons outline rest ih =>
    cases hstep : isStep outline with
    | true => rw [List.filter_cons_of_pos hstep, List.filterMap_cons, List.filterMap_cons, ih]
    | false =>
      rw [List.filter_cons_of_neg (by rw [hstep]; decide), List.filterMap_cons, h outline hstep, ih]

theorem sent?_of_not_isStep {outline : Outline} (h : isStep outline = false) :
    sent? outline = none := by
  cases outline with
  | access contract step => cases step <;> first | rfl | cases h
  | _ => rfl

theorem recorded?_of_not_isStep {outline : Outline} (h : isStep outline = false) :
    recorded? outline = none := by
  cases outline with
  | recorded contract => cases h
  | _ => rfl

end Outline

theorem map_send_contract (deeds : List Deed) :
    (deeds.filterMap Deed.send?).map (·.1) = (outlines deeds).filterMap Outline.sent? := by
  rw [outlines, List.filterMap_filterMap, List.map_filterMap]
  congr 1
  funext deed
  cases deed with
  | access contract event => cases event <;> rfl
  | _ => rfl

theorem map_entry_contract (deeds : List Deed) :
    (entriesOf deeds).map (·.1) = (outlines deeds).filterMap Outline.recorded? := by
  rw [outlines, entriesOf, List.filterMap_filterMap, List.map_filterMap]
  congr 1
  funext deed
  cases deed with
  | access contract event => cases event <;> rfl
  | _ => rfl

namespace Resolution

/-- The two steps by which a contract is put in place: its transaction is broadcast, and its address
is recorded. -/
def pair (contract : Contract) : List Outline :=
  [.access (some contract) .send, .recorded contract]

theorem filter_procedureScript (contract : Contract) (chainKnown genesisKnown : Bool) :
    (procedureScript contract chainKnown genesisKnown).filter Outline.isStep =
      [.access (some contract) .send] := by
  have hgenesis : (if contract = .lightClientProxy then genesisScript genesisKnown else []).filter
      Outline.isStep = [] := by
    split
    · cases genesisKnown <;> rfl
    · rfl
  rw [procedureScript, List.filter_append, hgenesis]
  cases chainKnown <;> rfl

/-- Putting contracts in place sends and records them in turn. -/
theorem filter_script (contracts : List Contract) (chainKnown genesisKnown : Bool) :
    (script contracts chainKnown genesisKnown).filter Outline.isStep = contracts.flatMap pair := by
  induction contracts generalizing chainKnown genesisKnown with
  | nil => rfl
  | cons contract rest ih =>
    rw [script, List.filter_append, filter_procedureScript, List.filter_cons_of_pos rfl, ih]
    rfl

theorem filterMap_recorded_pairs (contracts : List Contract) :
    (contracts.flatMap pair).filterMap Outline.recorded? = contracts := by
  induction contracts with
  | nil => rfl
  | cons contract rest ih =>
    show contract :: (rest.flatMap pair).filterMap Outline.recorded? = contract :: rest
    rw [ih]

/-- A first part of the steps of contracts consists of the steps of some first contracts, and perhaps
the first step of the next one. -/
theorem prefix_pairs {part : List Outline} (h : part <+: contracts.flatMap pair) :
    ∃ count, part.filterMap Outline.recorded? = contracts.take count ∧
      (part.filterMap Outline.sent? = (contracts.take count).map some ∨
        part.filterMap Outline.sent? = (contracts.take (count + 1)).map some) := by
  induction contracts generalizing part with
  | nil =>
    rw [List.flatMap_nil, List.prefix_nil] at h
    exact ⟨0, by rw [h]; rfl, Or.inl (by rw [h]; rfl)⟩
  | cons contract rest ih =>
    rw [List.flatMap_cons, pair] at h
    rcases List.prefix_cons_iff.1 h with rfl | ⟨part, rfl, hpart⟩
    · exact ⟨0, rfl, Or.inl rfl⟩
    · rcases List.prefix_cons_iff.1 hpart with rfl | ⟨part, rfl, hrest⟩
      · exact ⟨0, rfl, Or.inr rfl⟩
      · obtain ⟨count, hrecorded, hsent⟩ := ih hrest
        refine ⟨count + 1, ?_, ?_⟩
        · show contract :: part.filterMap Outline.recorded? = contract :: rest.take count
          rw [hrecorded]
        · show some contract :: part.filterMap Outline.sent? = some contract :: _ ∨
            some contract :: part.filterMap Outline.sent? = some contract :: _
          rcases hsent with hsent | hsent
          · exact Or.inl (by rw [hsent])
          · exact Or.inr (by rw [hsent])

/-! ## Asking for the genesis state -/

theorem mem_script_of_mem (h : contract ∈ contracts) :
    .recorded contract ∈ script contracts chainKnown genesisKnown := by
  induction contracts generalizing chainKnown genesisKnown with
  | nil => cases h
  | cons other rest ih =>
    rw [script]
    rcases List.mem_cons.1 h with rfl | h
    · exact List.mem_append_right _ List.mem_cons_self
    · exact List.mem_append_right _ (List.mem_cons_of_mem _ (ih h))

theorem request_not_mem_creationScript (contract : Contract) (chainKnown : Bool) :
    .request ∉ Client.creationScript contract chainKnown := by
  rw [Client.creationScript]
  cases chainKnown <;> simp

theorem mem_of_request_mem_script
    (h : .request ∈ script contracts chainKnown genesisKnown) : .lightClientProxy ∈ contracts := by
  obtain ⟨other, hother, h | ⟨rfl, -⟩ | ⟨known, h⟩⟩ := exists_of_mem_script h
  · cases h
  · exact hother
  · exact absurd h (request_not_mem_creationScript other known)

end Resolution

/-- Where an item occurs once in a list, a first part of the list that reaches the item is cut at
it. -/
theorem prefix_at_item {α : Type} {a : α} {p q before after : List α}
    (h : p ++ a :: q <+: before ++ a :: after) (hbefore : a ∉ before) (hafter : a ∉ after) :
    p = before ∧ a ∉ q := by
  obtain ⟨rest, e⟩ := h
  rw [List.append_assoc, List.cons_append] at e
  rcases List.append_eq_append_iff.1 e with ⟨c, rfl, hc⟩ | ⟨c, rfl, hc⟩
  · rcases List.cons_eq_append_iff.1 hc with ⟨rfl, hsame⟩ | ⟨c', rfl, -⟩
    · obtain rfl := (List.cons.inj hsame).2
      exact ⟨(List.append_nil p).symm, fun hmem => hafter (List.mem_append_left _ hmem)⟩
    · exact absurd (List.mem_append_right p List.mem_cons_self) hbefore
  · rcases List.cons_eq_append_iff.1 hc with ⟨rfl, hsame⟩ | ⟨c', rfl, rfl⟩
    · obtain rfl := (List.cons.inj hsame).2
      exact ⟨List.append_nil before, fun hmem => hafter (List.mem_append_left _ hmem)⟩
    · exact absurd (List.mem_append_right c' List.mem_cons_self) hafter

namespace Deployment

open Resolution

variable {deployment : Deployment} {s : Session} {recorded : List Contract}

/-- The proxy comes last, after the light client. -/
theorem needed_split (h : .lightClientProxy ∈ needed recorded) : ∃ first,
    needed recorded = first ++ [.lightClientProxy] ∧ .lightClientProxy ∉ first ∧
      (.lightClient ∈ recorded ∨ .lightClient ∈ first) := by
  rw [needed] at h ⊢
  by_cases hproxy : .lightClientProxy ∈ recorded
  · rw [if_pos hproxy] at h
    split at h <;> simp at h
  · rw [if_neg hproxy, ← List.append_assoc]
    refine ⟨_, rfl, ?_, ?_⟩
    · simp only [List.mem_append, not_or]
      refine ⟨by split <;> simp, ?_⟩
      split
      · simp
      · simp only [List.mem_append, not_or]
        exact ⟨⟨by split <;> simp, by split <;> simp⟩, by simp⟩
    · by_cases hclient : .lightClient ∈ recorded
      · exact Or.inl hclient
      · rw [if_neg hclient]
        exact Or.inr (by simp)

theorem eq_of_mem_supplyScript {outline : Outline} (h : outline ∈ deployment.supplyScript s) :
    outline = .access none .code := by
  rw [supplyScript] at h
  split at h
  · obtain ⟨contract, -, hmem⟩ := List.mem_flatMap.1 h
    exact List.mem_singleton.1 hmem
  · cases h

/-- A deployment asks for the genesis state at most once, only if the proxy is needed, when the light
client is in place, and before the node is accessed for the proxy. -/
theorem request_of_script {p q : List Outline} (h : p ++ .request :: q <+: deployment.script s) :
    .lightClientProxy ∈ needed s.registry.contracts ∧ .request ∉ p ∧ .request ∉ q ∧
      (.lightClient ∈ s.registry.contracts ∨ .recorded .lightClient ∈ p) ∧
      ∀ step, .access (some .lightClientProxy) step ∉ p := by
  have hrequest : .request ∈ deployment.script s :=
    h.subset (List.mem_append_right p List.mem_cons_self)
  have hsupply : .request ∉ deployment.supplyScript s := fun hmem => by
    cases eq_of_mem_supplyScript hmem
  have hneeded : .lightClientProxy ∈ needed s.registry.contracts := by
    rcases List.mem_append.1 hrequest with hmem | hmem
    · exact absurd hmem hsupply
    · exact mem_of_request_mem_script hmem
  obtain ⟨first, hsplit, hnot, hclient⟩ := needed_split hneeded
  have hfirst : .request ∉ scriptIn s first := fun hmem => hnot (mem_of_request_mem_script hmem)
  have hlast : .request ∉ Client.creationScript .lightClientProxy
      (s.client.chainId.isSome || !first.isEmpty) ++ [.recorded .lightClientProxy] := by
    intro hmem
    rcases List.mem_append.1 hmem with hmem | hmem
    · exact request_not_mem_creationScript _ _ hmem
    · simp at hmem
  rw [script, hsplit, scriptIn, script_append, Resolution.script, procedureScript, if_pos rfl,
    Resolution.script, List.append_assoc, ← List.append_assoc (deployment.supplyScript s)] at h
  cases hknown : s.genesis.fetched.isSome || decide (.lightClientProxy ∈ first) with
  | true =>
    -- the genesis state is known already, so the script has no request
    rw [hknown] at h
    have hmem := h.subset (List.mem_append_right p List.mem_cons_self)
    rcases List.mem_append.1 hmem with hmem | hmem
    · rcases List.mem_append.1 hmem with hmem | hmem
      · exact absurd hmem hsupply
      · exact absurd hmem hfirst
    · exact absurd hmem hlast
  | false =>
    -- the one request stands right behind what is done for the contracts before the proxy
    rw [hknown] at h
    have hbefore : .request ∉ deployment.supplyScript s ++ scriptIn s first := fun hmem =>
      (List.mem_append.1 hmem).elim hsupply hfirst
    obtain ⟨rfl, hq⟩ := prefix_at_item h hbefore hlast
    refine ⟨hneeded, hbefore, hq, ?_, fun step hmem => ?_⟩
    · exact hclient.imp_right fun hmem => List.mem_append_right _ (mem_script_of_mem hmem)
    · rcases List.mem_append.1 hmem with hmem | hmem
      · cases eq_of_mem_supplyScript hmem
      · exact hnot (mem_of_access_mem_script hmem)

/-! ## The order -/

/-- What is needed can be put in place: each contract once, and none that is recorded. -/
theorem fresh_needed (recorded : List Contract) : Fresh recorded 3 (needed recorded) := by
  have hgather : needed recorded = gather missing [.hotShot, .lightClientProxy] recorded := by
    rw [needed_eq, gather, gather, gather, List.append_nil]
  rw [hgather]
  refine fresh_gather (fun contract _ known => (fresh_missing contract known).mono ?_) recorded
  cases contract <;> decide

end Deployment

namespace Registry

/-- Entries of contracts that are new, each once, are all first ones. -/
theorem firstOf_eq_self {known : List Contract} {log : List (Contract × Address)}
    (hnodup : (log.map (·.1)).Nodup) (hnew : ∀ entry ∈ log, entry.1 ∉ known) :
    firstOf known log = log := by
  induction log generalizing known with
  | nil => rfl
  | cons entry rest ih =>
    rw [List.map_cons, List.nodup_cons] at hnodup
    rw [firstOf, if_neg (hnew entry List.mem_cons_self)]
    rw [ih hnodup.2 fun other hother hmem => ?_]
    rcases List.mem_append.1 hmem with hmem | hmem
    · exact hnew other (List.mem_cons_of_mem _ hother) hmem
    · rw [← List.mem_singleton.1 hmem] at hnodup
      exact hnodup.1 (List.mem_map_of_mem hother)

end Registry

namespace Deployment

open Resolution

variable {deployment : Deployment} {s : Session}

/-- What a deployment has done when it ends, however it ends: it has added deeds, and has put a number
of the contracts in place that were needed. -/
structure InOrder (deployment : Deployment) (s : Session) (added : List Deed) (count : Nat) :
    Prop where
  deeds : (deployment.run.after s).deeds = s.deeds ++ added
  /-- The contracts that are added to the registry are the first ones of those that are needed. -/
  recorded : (deployment.run.after s).registry.contracts =
    s.registry.contracts ++ (needed s.registry.contracts).take count
  /-- All that is needed is in place if the deployment succeeds. -/
  completed : ∀ s', deployment.run s = .ok () s' →
    (needed s.registry.contracts).take count = needed s.registry.contracts
  /-- No contract is needed twice. -/
  nodup : (needed s.registry.contracts).Nodup
  /-- Transactions are sent, one for each, for the contracts that are put in place, and perhaps for
  the next one. -/
  sent : (added.filterMap Deed.send?).map (·.1) =
      ((needed s.registry.contracts).take count).map some ∨
    (added.filterMap Deed.send?).map (·.1) =
      ((needed s.registry.contracts).take (count + 1)).map some
  /-- The genesis state is asked for only if the proxy is needed, once, after the light client was
  put in place and before the node is accessed for the proxy. -/
  request : ∀ before tag url timeout after,
    added = before ++ .access tag (.request url timeout) :: after →
    .lightClientProxy ∈ needed s.registry.contracts ∧
    (∀ tag url timeout, .access tag (.request url timeout) ∉ before ++ after) ∧
    (.lightClient ∈ s.registry.contracts ∨ ∃ address, .recorded .lightClient address ∈ before) ∧
    ∀ event, .access (some .lightClientProxy) event ∉ before

theorem request_of_added {added before after : List Deed} {tag : Option Contract} {url : String}
    {timeout : Int} (h : outlines added <+: deployment.script s)
    (hadded : added = before ++ .access tag (.request url timeout) :: after) :
    .lightClientProxy ∈ needed s.registry.contracts ∧
    (∀ tag url timeout, .access tag (.request url timeout) ∉ before ++ after) ∧
    (.lightClient ∈ s.registry.contracts ∨ ∃ address, .recorded .lightClient address ∈ before) ∧
    ∀ event, .access (some .lightClientProxy) event ∉ before := by
  have houtlines : outlines added = outlines before ++ .request :: outlines after := by
    rw [hadded, outlines_append]
    rfl
  rw [houtlines] at h
  obtain ⟨hneeded, hbefore, hafter, hclient, hproxy⟩ := request_of_script h
  have hmem : ∀ {deed : Deed} {outline : Outline} {deeds : List Deed}, deed ∈ deeds →
      deed.outline? = some outline → outline ∈ outlines deeds := fun hdeed hsome =>
    List.mem_filterMap.2 ⟨_, hdeed, hsome⟩
  refine ⟨hneeded, fun tag url timeout hdeed => ?_, ?_, fun event hdeed => ?_⟩
  · rcases List.mem_append.1 hdeed with hdeed | hdeed
    · exact hbefore (hmem hdeed rfl)
    · exact hafter (hmem hdeed rfl)
  · refine hclient.imp_right fun hrecorded => ?_
    obtain ⟨deed, hdeed, hsome⟩ := List.mem_filterMap.1 hrecorded
    cases deed with
    | recorded contract address =>
      cases hsome
      exact ⟨address, hdeed⟩
    | access contract event => cases event <;> cases hsome
    | _ => cases hsome
  · cases event with
    | request url timeout => exact hbefore (hmem hdeed rfl)
    | _ => exact hproxy _ (hmem hdeed rfl)

/-- **The order of a deployment.** However a deployment ends, it has put the first of the needed
contracts in place, in their order, and has done nothing for any later one but the next. -/
theorem run_inOrder (deployment : Deployment) (s : Session) :
    ∃ added count, InOrder deployment s added count := by
  obtain ⟨added, hadds⟩ := run_scripted deployment s
  have hfresh := fresh_needed s.registry.contracts
  have hfilter : (deployment.script s).filter Outline.isStep =
      (needed s.registry.contracts).flatMap pair := by
    have hsupply : (deployment.supplyScript s).filter Outline.isStep = [] := by
      rw [List.filter_eq_nil_iff]
      intro outline hmem
      rw [eq_of_mem_supplyScript hmem]
      decide
    rw [script, List.filter_append, hsupply, scriptIn, filter_script, List.nil_append]
  have hpart := hadds.begins.filter Outline.isStep
  rw [hfilter] at hpart
  obtain ⟨count, hrecorded, hsent⟩ := prefix_pairs hpart
  rw [Outline.filterMap_isStep fun _ => Outline.recorded?_of_not_isStep, ← map_entry_contract]
    at hrecorded
  rw [Outline.filterMap_isStep fun _ => Outline.sent?_of_not_isStep, ← map_send_contract] at hsent
  refine ⟨added, count, hadds.deeds, ?_, fun s' hok => ?_, hfresh.nodup, hsent, ?_⟩
  · -- needed contracts are new, so each recorded address is the first one of its contract
    have hnew : Registry.firstOf s.registry.contracts (entriesOf added) = entriesOf added := by
      refine Registry.firstOf_eq_self ?_ fun entry hentry => ?_
      · rw [hrecorded]
        exact hfresh.nodup.sublist (List.take_sublist _ _)
      · have hmem : entry.1 ∈ (needed s.registry.contracts).take count :=
          hrecorded ▸ List.mem_map_of_mem hentry
        exact hfresh.not_mem _ (List.mem_of_mem_take hmem)
    rw [Registry.contracts, hadds.registry.addresses, hnew, List.map_append, hrecorded]
    rfl
  · rw [← hrecorded, map_entry_contract,
      ← Outline.filterMap_isStep fun _ => Outline.recorded?_of_not_isStep,
      hadds.completes () s' hok, hfilter, filterMap_recorded_pairs]
  · intro before tag url timeout after hadded
    exact request_of_added hadds.begins hadded

end Deployment

end Rollout
