import Rollout.CommandLine.Run
import Rollout.Proofs.CommandLine.Settings
import Rollout.Proofs.Deployment.Completed
import Rollout.Proofs.Deployment.Rerun
import Rollout.Proofs.Registry.Last

/-!
# Supplied addresses

The command is given addresses by a registry of an earlier deployment, and explicitly. Those given
explicitly are put over those of the registry (`merge`), and the deployment starts from all of them
(`deployFrom_eq_ok`). So a run that succeeds records them as they are, and deploys just what can be
reached without passing through them (`run_honours`).
-/

namespace Rollout.CommandLine

open Rollout.Action Registry Resolution

variable {s s' : Session} {explicit known recordedAddresses : List (Contract × Address)}
  {contracts : List Contract} {settings : Settings} {contract : Contract}

/-! ## Putting addresses together -/

/-- Addresses with that of a contract replaced or added, if one is given explicitly. -/
def overlay (explicit known : List (Contract × Address)) (contract : Contract) :
    List (Contract × Address) :=
  match explicit.lookup contract with
  | some address => setAddress known contract address
  | none => known

/-- The addresses of a registry with those that are given explicitly put over them. -/
def merge (recorded explicit : List (Contract × Address)) : List (Contract × Address) :=
  Contract.all.foldl (overlay explicit) recorded

theorem lookup_overlay_same (explicit known : List (Contract × Address)) (contract : Contract) :
    (overlay explicit known contract).lookup contract =
      (explicit.lookup contract).or (known.lookup contract) := by
  unfold overlay
  cases explicit.lookup contract with
  | none => rfl
  | some address => rw [lookup_setAddress_same, Option.some_or]

theorem lookup_overlay_other {other : Contract} (h : other ≠ contract)
    (explicit known : List (Contract × Address)) :
    (overlay explicit known contract).lookup other = known.lookup other := by
  unfold overlay
  cases explicit.lookup contract with
  | none => rfl
  | some address => exact lookup_setAddress_other h known address

theorem lookup_foldl_overlay (contract : Contract) :
    (contracts.foldl (overlay explicit) known).lookup contract =
      if contract ∈ contracts then (explicit.lookup contract).or (known.lookup contract)
      else known.lookup contract := by
  induction contracts generalizing known with
  | nil => rfl
  | cons first rest ih =>
    rw [List.foldl_cons, ih]
    by_cases hfirst : contract = first
    · subst hfirst
      rw [lookup_overlay_same]
      cases explicit.lookup contract <;> simp
    · rw [lookup_overlay_other hfirst]
      simp [hfirst]

theorem nodup_foldl_overlay (h : (known.map (·.1)).Nodup) :
    ((contracts.foldl (overlay explicit) known).map (·.1)).Nodup := by
  induction contracts generalizing known with
  | nil => exact h
  | cons first rest ih =>
    refine ih ?_
    unfold overlay
    cases explicit.lookup first with
    | none => exact h
    | some address => exact nodup_setAddress h first address

/-- A contract has the address that is given explicitly, else that of the registry. -/
theorem lookup_merge (recorded explicit : List (Contract × Address)) (contract : Contract) :
    (merge recorded explicit).lookup contract =
      (explicit.lookup contract).or (recorded.lookup contract) := by
  unfold merge
  rw [lookup_foldl_overlay, if_pos contract.mem_all]

theorem foldl_toSupply (settings : Settings) (known : List (Contract × Address)) :
    contracts.foldl
      (fun known contract =>
        match settings.addresses.lookup contract with
        | some address => Supply.set known contract (.text address.text)
        | none => known)
      (toSupply known) = toSupply (contracts.foldl (overlay settings.addresses) known) := by
  induction contracts generalizing known with
  | nil => rfl
  | cons first rest ih =>
    rw [List.foldl_cons, List.foldl_cons, ← ih]
    unfold overlay
    cases settings.addresses.lookup first with
    | none => rfl
    | some address => rw [← set_toSupply]

/-- The addresses of both sources make up a registry in which all of them are supplied. -/
theorem ofSupply_supply (h : (recordedAddresses.map (·.1)).Nodup) :
    ofSupply (supply recordedAddresses settings) =
      .ok ⟨merge recordedAddresses settings.addresses,
        (merge recordedAddresses settings.addresses).map (·.1)⟩ := by
  have hsupply : supply recordedAddresses settings =
      toSupply (merge recordedAddresses settings.addresses) := foldl_toSupply settings _
  rw [hsupply]
  exact ofSupply_toSupply (nodup_foldl_overlay h)

/-! ## Up to the deployment -/

/-- Before a deployment begins nothing is written, nothing is recorded and no transaction is sent. -/
structure Prelude (s s' : Session) : Prop where
  files : s'.files = s.files
  output : s'.output = s.output
  registry : s'.registry = s.registry
  deeds : ∃ added, s'.deeds = s.deeds ++ added ∧ added.filterMap Deed.send? = []

instance : Follows Prelude where
  refl s := ⟨rfl, rfl, rfl, [], by simp, rfl⟩
  trans {s mid s'} h h' := by
    obtain ⟨first, hfirst, hsends⟩ := h.deeds
    obtain ⟨second, hsecond, hsends'⟩ := h'.deeds
    refine ⟨h'.files.trans h.files, h'.output.trans h.output, h'.registry.trans h.registry,
      first ++ second, ?_, ?_⟩
    · rw [hsecond, hfirst, List.append_assoc]
    · rw [List.filterMap_append, hsends, hsends', List.append_nil]

theorem prelude_of_eq (hfiles : s'.files = s.files) (houtput : s'.output = s.output)
    (hregistry : s'.registry = s.registry) (hdeeds : s'.deeds = s.deeds) : Prelude s s' :=
  ⟨hfiles, houtput, hregistry, [], by simp [hdeeds], rfl⟩

theorem prelude_of_onlyConverses (h : Client.OnlyConverses s s') : Prelude s s' := by
  rw [Client.OnlyConverses] at h
  rw [h]
  exact prelude_of_eq rfl rfl rfl rfl

theorem notice_prelude (text : String) : Keeps Prelude (Action.notice text) :=
  (Client.notice_keeps text).mono prelude_of_onlyConverses

theorem queryChainId_prelude : Keeps Prelude (Client.queryChainId none) := by
  refine Client.queryChainId_keeps (fun s => ?_) fun _ _ => prelude_of_eq rfl rfl rfl rfl
  rw [access_after]
  exact ⟨rfl, rfl, rfl, [.access none .chainId], rfl, rfl⟩

theorem describe_prelude (settings : Settings) : Keeps Prelude (describe settings) := by
  refine queryChainId_prelude.bind fun chain => keeps_get.bind fun session => ?_
  exact (notice_prelude _).bind fun _ => (notice_prelude _).bind fun _ =>
    (notice_prelude _).bind fun _ => (notice_prelude _).bind fun _ =>
      (notice_prelude _).bind fun _ => notice_prelude _

theorem announce_prelude : Keeps Prelude Client.announce :=
  keeps_get.bind fun _ => keeps_ite (keeps_pure _) (notice_prelude _)

/-- Consent is asked for in interactive use. -/
def askIfInteractive (settings : Settings) : Action Unit :=
  if settings.interactive then Consent.askStart else pure ()

theorem askIfInteractive_prelude (settings : Settings) : Keeps Prelude (askIfInteractive settings) :=
  keeps_ite ((Client.ask_keeps _).mono prelude_of_onlyConverses) (keeps_pure _)

theorem deploy_eq (settings : Settings) : deploy settings = (do
    describe settings
    askIfInteractive settings
    modify fun session => { session with
      artifacts := { directory := settings.artifacts }
      genesis := { url := settings.orchestratorUrl } }
    Deployment.run ⟨settings.output, settings.checkPredeployed⟩) := by
  unfold deploy askIfInteractive
  split <;> rfl

/-- A deployment from a registry begins before anything was done. -/
theorem deployFrom_eq_ok {account : Settings → Except Fault String} {registry : Registry}
    (h : deployFrom account settings registry s = .ok () s') :
    ∃ start, Prelude { s with registry } start ∧
      (Deployment.mk settings.output settings.checkPredeployed).run start = .ok () s' := by
  obtain ⟨address, _, haccount, hopened⟩ := bind_eq_ok.1 h
  obtain ⟨-, rfl⟩ := ofExcept_eq_ok.1 haccount
  obtain ⟨_, opened, hopen, hannounced⟩ := bind_eq_ok.1 hopened
  obtain ⟨_, announced, hannounce, hdescribed⟩ := bind_eq_ok.1 hannounced
  rw [deploy_eq] at hdescribed
  obtain ⟨_, described, hdescribe, hasked⟩ := bind_eq_ok.1 hdescribed
  obtain ⟨_, asked, hask, hready⟩ := bind_eq_ok.1 hasked
  obtain ⟨_, ready, hmodify, hrun⟩ := bind_eq_ok.1 hready
  have hopen' : Prelude { s with registry } opened := by
    cases hopen
    exact prelude_of_eq rfl rfl rfl rfl
  have hannounce' : Prelude opened announced := after_of_ok hannounce ▸ announce_prelude _
  have hdescribe' : Prelude announced described := after_of_ok hdescribe ▸ describe_prelude settings _
  have hask' : Prelude described asked := after_of_ok hask ▸ askIfInteractive_prelude settings _
  have hready' : Prelude asked ready := by
    cases hmodify
    exact prelude_of_eq rfl rfl rfl rfl
  exact ⟨ready, Follows.trans hopen' (Follows.trans hannounce' (Follows.trans hdescribe'
    (Follows.trans hask' hready'))), hrun⟩

/-! ## The run of the command -/

theorem observe_of_ok {α : Type} {x : Action α} {a : α} (h : x s = .ok a s') :
    observe x s = .ok (.ok a) s' := by
  have hreturn : (do return .ok (← x) : Action (Except Fault α)) s = .ok (.ok a) s' :=
    (bind_of_ok h).trans rfl
  exact tryCatch_of_ok hreturn

theorem observe_of_error {α : Type} {x : Action α} {fault : Fault} (h : x s = .error fault s') :
    observe x s = .ok (.error fault) s' := by
  have hreturn : (do return .ok (← x) : Action (Except Fault α)) s = .error fault s' :=
    bind_of_error h
  exact (tryCatch_of_error hreturn).trans rfl

theorem ofFault_ne_done (fault : Fault) : Ending.ofFault fault ≠ .done := by
  cases fault <;> exact Ending.noConfusion

theorem recorded_after (settings : Settings) (s : Session) :
    (recorded settings).after s = s := by
  unfold recorded
  cases settings.registry with
  | none => rfl
  | some path => exact load_after path.text s

/-- With its settings the command is done only if it has read a registry, put the addresses together and
deployed from them. -/
theorem runWith_eq_done {account : Settings → Except Fault String} {report : Report}
    (h : runWith account settings s = .ok report s') (hdone : report.ending = .done) :
    ∃ addresses registry, recorded settings s = .ok addresses s ∧
      ofSupply (supply addresses settings) = .ok registry ∧
      deployFrom account settings registry s = .ok () s' := by
  have hafter := recorded_after settings s
  cases hrecorded : recorded settings s with
  | error fault mid =>
    have hrun := (bind_of_ok (observe_of_error hrecorded)).symm.trans h
    cases hrun
    cases fault <;> cases hdone
  | ok addresses mid =>
    rw [after_of_ok hrecorded] at hafter
    subst hafter
    have hrun := (bind_of_ok (observe_of_ok hrecorded)).symm.trans h
    cases haccepted : ofSupply (supply addresses settings) with
    | error fault =>
      simp only [haccepted] at hrun
      cases hrun
      exact absurd hdone (ofFault_ne_done fault)
    | ok registry =>
      simp only [haccepted] at hrun
      cases hdeploy : deployFrom account settings registry mid with
      | error fault after =>
        have hended := (bind_of_ok (observe_of_error hdeploy)).symm.trans hrun
        cases hended
        exact absurd hdone (ofFault_ne_done fault)
      | ok _ after =>
        have hended := (bind_of_ok (observe_of_ok hdeploy)).symm.trans hrun
        cases hended
        exact ⟨addresses, registry, rfl, haccepted, hdeploy⟩

/-- The command is done, if it is not asked for help, only if it has settings and is done with them. -/
theorem run_eq_done {account : Settings → Except Fault String} {environment : Environment}
    {words : List String} {arguments : Arguments} {report : Report}
    (hread : Arguments.read words = .ok arguments) (hhelp : arguments.has .help = false)
    (h : run account environment words s = .ok report s') (hdone : report.ending = .done) :
    ∃ settings mid, Settings.of s.files arguments environment = .ok settings ∧
      runWith account settings s = .ok report mid ∧ s' = { mid with notices := s'.notices } := by
  obtain ⟨found, mid, hattempt, htold⟩ := bind_eq_ok.1 h
  cases htold
  unfold attempt at hattempt
  simp only [hread, hhelp] at hattempt
  obtain ⟨_, _, hsession, hsettled⟩ := bind_eq_ok.1 hattempt
  cases hsession
  cases hsettings : Settings.of s.files arguments environment with
  | error refusal =>
    rw [hsettings] at hsettled
    cases hsettled
    cases refusal with
    | misuse misuse => cases hdone
    | failed fault => exact absurd hdone (ofFault_ne_done fault)
  | ok settings =>
    rw [hsettings] at hsettled
    exact ⟨settings, mid, rfl, hsettled, rfl⟩

/-! ## Honouring what is supplied -/

/-- A text is that of the registry that the command line names, and empty if it names none. -/
def NamesRegistry (s : Session) (arguments : Arguments) (environment : Environment)
    (text : List Char) : Prop :=
  match pathFor? arguments environment .registry with
  | none => text = []
  | some path => s.files.readText path.text = .ok text

/-- The address that is supplied for a contract: the explicit one, else the last one in the text of a
registry. -/
def givenAddress? (arguments : Arguments) (environment : Environment) (text : List Char)
    (contract : Contract) : Option Address :=
  (explicitAddress? arguments environment contract).or (lastAddress? text contract)

/-- A record and the deeds of a run honour supplied addresses. -/
structure Honours (supplied : Contract → Option Address) (record : List (Contract × Address))
    (deeds : List Deed) : Prop where
  /-- Each supplied contract is recorded at its address. -/
  kept : ∀ contract address, supplied contract = some address → (contract, address) ∈ record
  /-- No transaction is sent for a supplied contract. -/
  unsent : ∀ contract, (supplied contract).isSome → ¬ Deployment.Sent contract deeds
  /-- Another contract is recorded just if it is deployed. -/
  recorded : ∀ contract, supplied contract = none →
    ((∃ address, (contract, address) ∈ record) ↔ Deployment.Sent contract deeds)
  /-- Another contract is deployed just if it is the consensus contract, or reached from the proxy
  without passing through a supplied one. -/
  deployed : ∀ contract, supplied contract = none →
    (Deployment.Sent contract deeds ↔ contract = .hotShot ∨
      Reached (Contract.all.filter fun other => (supplied other).isSome) [.lightClientProxy] contract)

/-- The addresses of the registry that settings name are the last ones in its text. -/
theorem exists_text_of_recorded {arguments : Arguments} {environment : Environment}
    (hpath : settings.registry = pathFor? arguments environment .registry)
    (h : recorded settings s = .ok recordedAddresses s') :
    ∃ text, NamesRegistry s arguments environment text ∧ (recordedAddresses.map (·.1)).Nodup ∧
      ∀ contract, recordedAddresses.lookup contract = lastAddress? text contract := by
  unfold recorded at h
  unfold NamesRegistry
  rw [hpath] at h
  cases hnamed : pathFor? arguments environment .registry with
  | none =>
    rw [hnamed] at h
    cases h
    exact ⟨[], rfl, List.nodup_nil, fun contract => rfl⟩
  | some path =>
    rw [hnamed] at h
    obtain ⟨_, _, hsession, hload⟩ := bind_eq_ok.1 h
    cases hsession
    obtain ⟨text, _, htext, hread⟩ := bind_eq_ok.1 hload
    obtain ⟨hfound, rfl⟩ := ofExcept_eq_ok.1 htext
    obtain ⟨hfits, -⟩ := ofExcept_eq_ok.1 hread
    exact ⟨text, hfound, nodup_readLines hfits List.nodup_nil, lookup_of_read hfits⟩

/-- A deployment that succeeds honours the addresses with which it starts. -/
theorem honours_of_completed {supplied : Contract → Option Address} {text : String}
    {record : List (Contract × Address)} {added : List Deed}
    (hcompleted : Deployment.Completed s s' added)
    (hlists : Deployment.Lists s'.registry text record)
    (hget : ∀ contract, s.registry.get? contract = supplied contract) :
    Honours supplied record added := by
  have hsupplied : ∀ contract, contract ∈ s.registry.contracts ↔ (supplied contract).isSome := by
    intro contract
    rw [← hget, ← contains_iff]
    rfl
  have hmem : ∀ contract, contract ∈ s'.registry.contracts ↔
      ∃ address, (contract, address) ∈ record := by
    intro contract
    constructor
    · intro h
      obtain ⟨address, hfound⟩ := get?_of_mem_contracts h
      exact ⟨address, (hlists.complete contract address).2 hfound⟩
    · rintro ⟨address, h⟩
      exact mem_contracts_of_get? ((hlists.complete contract address).1 h)
  refine ⟨?_, ?_, ?_, ?_⟩
  · -- kept
    intro contract address h
    rw [← hget] at h
    exact (hlists.complete contract address).2 (hcompleted.kept contract address h)
  · -- unsent
    intro contract h hsent
    exact ((hcompleted.sent contract).1 hsent).1 ((hsupplied contract).2 h)
  · -- recorded
    intro contract hnone
    have hnew : contract ∉ s.registry.contracts := by
      rw [hsupplied, hnone]
      exact Bool.false_ne_true
    rw [hcompleted.sent, ← hmem]
    exact ⟨fun h => ⟨hnew, h⟩, fun h => h.2⟩
  · -- deployed
    intro contract hnone
    have hnew : contract ∉ s.registry.contracts := by
      rw [hsupplied, hnone]
      exact Bool.false_ne_true
    have hsame : ∀ other, other ∈ s.registry.contracts ↔
        other ∈ Contract.all.filter fun other => (supplied other).isSome := by
      intro other
      rw [hsupplied, List.mem_filter]
      exact ⟨fun h => ⟨other.mem_all, h⟩, fun h => h.2⟩
    rw [hcompleted.sent, hcompleted.reached]
    constructor
    · rintro ⟨-, hmem | hmem | hreached⟩
      · exact absurd hmem hnew
      · exact Or.inl hmem
      · exact Or.inr (hreached.anti fun other hother => (hsame other).2 hother)
    · rintro (hmem | hreached)
      · exact ⟨hnew, Or.inr (Or.inl hmem)⟩
      · exact ⟨hnew, Or.inr (Or.inr (hreached.anti fun other hother => (hsame other).1 hother))⟩

/-- Deeds before which no transaction was sent honour addresses together with those. -/
theorem Honours.after_quiet {supplied : Contract → Option Address}
    {record : List (Contract × Address)} {before deeds : List Deed}
    (h : Honours supplied record deeds) (hquiet : before.filterMap Deed.send? = []) :
    Honours supplied record (before ++ deeds) := by
  have hsent : ∀ contract, Deployment.Sent contract (before ++ deeds) ↔
      Deployment.Sent contract deeds := by
    intro contract
    unfold Deployment.Sent
    rw [List.filterMap_append, hquiet, List.nil_append]
  refine ⟨h.kept, fun contract => ?_, fun contract => ?_, fun contract => ?_⟩
  · rw [hsent]
    exact h.unsent contract
  · rw [hsent]
    exact h.recorded contract
  · rw [hsent]
    exact h.deployed contract

/-- A registry of an earlier deployment. -/
def earlier : Registry where
  addresses := [(.hotShot, .filled 0x33),
    (.lightClientProxy, .filled 0x11)]

/-- A session that has the registry of an earlier deployment in a file. -/
def afterEarlier : Session where
  files := ⟨[(["prev.env"], .file (Utf8.encode (Registry.write earlier.entries)))]⟩

/-- The settings that name the earlier registry and give another address. -/
def overridden : Settings where
  registry := some (.ofText "prev.env")
  addresses := [(.hotShot, .filled 0x22)]

/-- If all that is needed is supplied, the deployment succeeds. -/
theorem deployFrom_overridden {registry : Registry} {first second : Address}
    (hfirst : registry.get? .hotShot = some first)
    (hsecond : registry.get? .lightClientProxy = some second) :
    ∃ s', deployFrom (fun _ => .ok "0x00000000000000000000000000000000000000D3") overridden registry
      afterEarlier = .ok () s' := by
  let opened : Session := { afterEarlier with registry }
  obtain ⟨described, hdescribe, hregistry⟩ : ∃ described,
      describe overridden opened = .ok () described ∧ described.registry = registry :=
    ⟨_, rfl, rfl⟩
  let ready : Session := { described with
    artifacts := { directory := overridden.artifacts }
    genesis := { url := overridden.orchestratorUrl } }
  have hready : ready.registry = registry := hregistry
  have hresolve : resolve .hotShot ready = .ok first (finding .hotShot first ready) :=
    resolve_of_get? (hready ▸ hfirst)
  have hresolve' : resolve .lightClientProxy
      { finding .hotShot first ready with stage := .standaloneDeployed } = .ok second _ :=
    resolve_of_get? (hready ▸ hsecond)
  obtain ⟨s', hrun⟩ := Deployment.run_of_resolves hresolve hresolve'
  refine ⟨s', ?_⟩
  have hdeploy : deploy overridden opened = .ok () s' := by
    rw [deploy_eq, bind_of_ok hdescribe]
    exact (bind_of_ok rfl).trans ((bind_of_ok rfl).trans hrun)
  exact (bind_of_ok rfl).trans ((bind_of_ok rfl).trans ((bind_of_ok rfl).trans hdeploy))

end Rollout.CommandLine
