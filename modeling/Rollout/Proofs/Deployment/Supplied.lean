import Rollout.Proofs.Deployment.Calls
import Rollout.Proofs.Deployment.Output
import Rollout.Proofs.Outage
import Rollout.Proofs.Parallel

/-!
# Checking the supplied addresses

A deployment may check that each supplied address hosts code before it does anything else. It asks
for the codes in the order of the variables' names, up to the first one that is missing or cannot be
had, and there it ends with nothing else done. If all are there, it goes on as if they had not been
asked for (`run_gated`).
-/

namespace Rollout

open Rollout.Action Resolution

/-! ## Supplied addresses -/

namespace Registry

variable {registry : Registry}

/-- The contracts whose addresses were supplied in advance differ from each other, and each has its
address. -/
structure Supplied (registry : Registry) : Prop where
  nodup : registry.predeployed.Nodup
  recorded : ∀ contract ∈ registry.predeployed, contract ∈ registry.contracts

theorem supplied_of_ofSupply {supply : Supply} (accepted : ofSupply supply = .ok registry) :
    registry.Supplied := by
  obtain ⟨hnodup, hpredeployed⟩ := ofSupply_eq_ok accepted
  exact ⟨hpredeployed ▸ hnodup, fun contract h => hpredeployed ▸ h⟩

/-- Whatever calls are made, a supplied address stays in place. -/
theorem Supplied.calls {s s' : Session} {calls : List (Deployment.Call × Option Fault)}
    (h : s.registry.Supplied) (hcalls : Deployment.Calls s calls s') : s'.registry.Supplied := by
  obtain ⟨added, -, hregistry, -⟩ := Deployment.advances_keptByCalls.calls hcalls
  rw [hregistry]
  refine ⟨h.nodup, fun contract hcontract => ?_⟩
  rw [contracts, List.map_append]
  exact List.mem_append_left _ (h.recorded contract hcontract)

theorem exists_entries {contracts : List Contract}
    (h : ∀ contract ∈ contracts, contract ∈ registry.contracts) :
    ∃ entries : List (Contract × Address), entries.map (·.1) = contracts ∧
      ∀ entry ∈ entries, registry.get? entry.1 = some entry.2 := by
  induction contracts with
  | nil => exact ⟨[], rfl, nofun⟩
  | cons contract rest ih =>
    obtain ⟨address, hget⟩ := get?_of_mem_contracts (h contract List.mem_cons_self)
    obtain ⟨entries, hmap, hgets⟩ := ih fun other hother => h other (List.mem_cons_of_mem _ hother)
    refine ⟨(contract, address) :: entries, by rw [List.map_cons, hmap], ?_⟩
    exact List.forall_mem_cons.2 ⟨hget, hgets⟩

end Registry

namespace Deployment

variable {R : Session → Session → Prop} {s t checked : Session} {deployment : Deployment}
  {entry : Contract × Address} {before entries : List (Contract × Address)} {fault : Fault}

theorem sortContracts_perm (contracts : List Contract) : (sortContracts contracts).Perm contracts :=
  List.mergeSort_perm contracts _

/-- In sorted contracts that differ from each other the names of the variables strictly increase. -/
theorem pairwise_sortContracts {contracts : List Contract} (hnodup : contracts.Nodup) :
    (sortContracts contracts).Pairwise fun a b => a.variableName < b.variableName :=
  Contract.pairwise_variableName id (by rwa [List.map_id])

/-! ## Asking for the codes -/

/-- The access by which the code at the address of a contract is asked for. -/
def inquiry (entry : Contract × Address) : Deed := .access none (.code entry.2.text)

/-- The notice that the code at the address of a contract is asked for. -/
def inquiryNotice (entry : Contract × Address) : String :=
  "(i) Checking code of predeployed " ++ entry.1.name ++ " at " ++ entry.2.text ++ "\n"

/-- The session in which the codes at the addresses of contracts were asked for. -/
def inquired (entries : List (Contract × Address)) (s : Session) : Session :=
  { s with
    deeds := s.deeds ++ entries.map inquiry
    notices := s.notices ++ String.join (entries.map inquiryNotice)
    node := { s.node with accesses := s.node.accesses ++ entries.map fun _ => .code } }

theorem inquired_nil (s : Session) : inquired [] s = s := by
  simp [inquired, String.join_nil]

theorem inquired_append (entries more : List (Contract × Address)) (s : Session) :
    inquired (entries ++ more) s = inquired more (inquired entries s) := by
  simp [inquired, List.append_assoc, String.append_assoc, String.join_append]

/-- What ends the check of a contract's address in a session: the code cannot be had at this access, or
there is none. -/
def flaw? (s : Session) (entry : Contract × Address) : Option Fault :=
  match s.node.outage? .code with
  | some fault => some (Client.told (.codeUnknown entry.2.text) none fault)
  | none =>
    if (s.node.codeAt entry.2.text).isEmpty then
      some (.deployment (.noCode entry.2.text) (some entry.1))
    else none

theorem queryCode_of_some (address : String) (h : s.node.outage? .code = some fault) :
    Client.queryCode address s = .error (Client.told (.codeUnknown address) none fault)
      (accessing none .code (.code address) s) := by
  have hnaming : Client.naming (.codeUnknown address) none
      (Action.access none .code (.code address)) s = _ := tryCatch_of_error (access_of_some h)
  exact bind_of_error hnaming

theorem queryCode_of_none (address : String) (h : s.node.outage? .code = none) :
    Client.queryCode address s = .ok (s.node.codeAt address)
      (accessing none .code (.code address) s) := by
  have hnaming : Client.naming (.codeUnknown address) none
      (Action.access none .code (.code address)) s = _ := tryCatch_of_ok (access_of_none h)
  exact (bind_of_ok hnaming).trans rfl

/-- The check of a contract's address asks for the code, and ends with what is wrong. -/
theorem checkCode_eq (hget : s.registry.get? entry.1 = some entry.2) :
    checkCode entry.1 s = match flaw? s entry with
      | some fault => .error fault (inquired [entry] s)
      | none => .ok () (inquired [entry] s) := by
  let asking : Session := { s with notices := s.notices ++ inquiryNotice entry }
  have hcheck : checkCode entry.1 s = (do
      let code ← Client.queryCode entry.2.text
      if code.isEmpty then throw (Fault.deployment (.noCode entry.2.text) (some entry.1))) asking := by
    refine (bind_of_ok rfl).trans ?_
    rw [hget]
    exact bind_of_ok rfl
  have hasked : inquired [entry] s = accessing none .code (.code entry.2.text) asking := by
    simp [inquired, inquiry, asking, accessing, Chain.Node.accessed, String.join_cons,
      String.join_nil]
  rw [hcheck, hasked, flaw?]
  cases houtage : s.node.outage? .code with
  | some fault =>
    have hquery := queryCode_of_some (s := asking) entry.2.text houtage
    exact bind_of_error hquery
  | none =>
    have hquery := queryCode_of_none (s := asking) entry.2.text houtage
    rw [bind_of_ok hquery]
    show (if (s.node.codeAt entry.2.text).isEmpty then _ else _ : Action Unit) _ = _
    split
    · rfl
    · rfl

/-- The check of contracts, one after another. -/
def checkAll (contracts : List Contract) : Action PUnit :=
  forIn contracts PUnit.unit fun contract _ => do
    checkCode contract
    pure (.yield PUnit.unit)

theorem checkAll_cons (contract : Contract) (rest : List Contract) :
    checkAll (contract :: rest) = (do
      checkCode contract
      checkAll rest) := by
  rw [checkAll, List.forIn_cons, bind_assoc]
  rfl

theorem checkSupplied_eq (s : Session) :
    checkSupplied s = checkAll (sortContracts s.registry.predeployed) s := by
  refine (bind_of_ok rfl).trans ?_
  show (checkAll (sortContracts s.registry.predeployed) >>= fun _ => pure ()) s = _
  rw [bind_pure_unit]

/-- The codes at the addresses of contracts, asked for one after another, are there: at each the node
has been asked for the codes before it. -/
def Hosted (entries : List (Contract × Address)) (s : Session) : Prop :=
  ∀ before entry after, entries = before ++ entry :: after → flaw? (inquired before s) entry = none

theorem hosted_cons (entry : Contract × Address) (more : List (Contract × Address)) (s : Session) :
    Hosted (entry :: more) s ↔ flaw? s entry = none ∧ Hosted more (inquired [entry] s) := by
  constructor
  · intro h
    refine ⟨inquired_nil s ▸ h [] entry more rfl, fun before other after hsplit => ?_⟩
    rw [← inquired_append]
    exact h (entry :: before) other after (by rw [hsplit, List.cons_append])
  · rintro ⟨hfirst, hmore⟩ before other after hsplit
    rcases List.cons_eq_append_iff.1 hsplit with ⟨rfl, hcons⟩ | ⟨before', rfl, hrest⟩
    · cases hcons
      rwa [inquired_nil]
    · rw [← List.singleton_append, inquired_append]
      exact hmore before' other after hrest

/-- The contracts that host code are passed by. -/
theorem checkAll_append (hget : ∀ entry ∈ before, s.registry.get? entry.1 = some entry.2)
    (hhost : Hosted before s) (rest : List Contract) :
    checkAll (before.map (·.1) ++ rest) s = checkAll rest (inquired before s) := by
  induction before generalizing s with
  | nil => rw [inquired_nil, List.map_nil, List.nil_append]
  | cons entry more ih =>
    obtain ⟨hfirst, hmore⟩ := (hosted_cons entry more s).1 hhost
    have hcheck := checkCode_eq (hget entry List.mem_cons_self)
    simp only [hfirst] at hcheck
    have hsplit : inquired (entry :: more) s = inquired more (inquired [entry] s) :=
      inquired_append [entry] more s
    rw [List.map_cons, List.cons_append, checkAll_cons, bind_of_ok hcheck, hsplit]
    exact ih (fun other hother => hget other (List.mem_cons_of_mem _ hother)) hmore

/-- The check ends at the first contract with a flaw. -/
theorem checkAll_of_flaw (after : List Contract)
    (hget : ∀ other ∈ before ++ [entry], s.registry.get? other.1 = some other.2)
    (hhost : Hosted before s) (hflaw : flaw? (inquired before s) entry = some fault) :
    checkAll (before.map (·.1) ++ entry.1 :: after) s =
      .error fault (inquired (before ++ [entry]) s) := by
  have hbefore : ∀ other ∈ before, s.registry.get? other.1 = some other.2 :=
    fun other hother => hget other (List.mem_append_left _ hother)
  have hentry : (inquired before s).registry.get? entry.1 = some entry.2 :=
    hget entry (List.mem_append_right _ List.mem_cons_self)
  have hcheck := checkCode_eq hentry
  simp only [hflaw] at hcheck
  rw [checkAll_append hbefore hhost, checkAll_cons, bind_of_error hcheck, inquired_append]

/-! ## Two runs -/

/-- Related sessions agree on what a deployment that checks no code looks at, and stay related while
the same is done in both. -/
structure MirrorsRunning (R : Session → Session → Prop) : Prop extends MirrorsResolving R where
  files : ∀ {s t}, R s t → t.files = s.files
  stage : ∀ {s t}, R s t → t.stage = s.stage
  /-- Writing files. -/
  stores : ∀ {s t} (files : File.Tree), R s t → R { s with files } { t with files }
  /-- Writing to the output. -/
  emits : ∀ {s t} (text : String), R s t →
    R { s with output := s.output ++ text } { t with output := t.output ++ text }
  /-- Entering a stage. -/
  enters : ∀ {s t} (stage : Stage), R s t → R { s with stage } { t with stage }

namespace MirrorsRunning

theorem enter (h : MirrorsRunning R) (stage : Stage) : Mirrored R (Deployment.enter stage) :=
  mirrored_modify (h.enters stage)

theorem writeFile (h : MirrorsRunning R) (path : File.Path) (content : String) :
    Mirrored R (Registry.writeFile path content) := by
  intro s t hR
  rw [Registry.writeFile_eq, Registry.writeFile_eq, h.files hR]
  split
  · next fault made _ => exact .error fault (h.stores made hR)
  · next made _ =>
    split
    · next fault _ => exact .error fault (h.stores made hR)
    · next files _ => exact .ok () (h.stores files hR)

theorem publish (h : MirrorsRunning R) (deployment : Deployment) : Mirrored R deployment.publish := by
  refine mirrored_get fun {s t} hR => ?_
  rw [h.registry hR]
  suffices hpublish : Mirrored R (Registry.publish s.registry.entries deployment.output) from
    hpublish hR
  cases deployment.output with
  | none => exact mirrored_modify (h.emits _)
  | some path =>
    refine ((h.writeFile path _).tryCatch fun fault => ?_).bind fun _ => h.toMirrorsCreation.notice _
    cases fault <;> exact mirrored_throw _

theorem steps (h : MirrorsRunning R) (hcheck : deployment.checkPredeployed = false) :
    Mirrored R deployment.steps := by
  have hsupply : Mirrored R deployment.supply := by
    rw [supply, hcheck]
    exact mirrored_pure ()
  rw [steps_eq]
  refine hsupply.bind fun _ => (h.toMirrorsResolving.resolve .hotShot).bind fun _ => (h.enter _).bind fun _ => ?_
  refine (h.toMirrorsResolving.resolve .lightClientProxy).bind fun _ => (h.enter _).bind fun _ => ?_
  exact (h.publish deployment).bind fun _ => h.enter _

/-- A deployment that checks no code ends alike in related sessions. -/
theorem run (h : MirrorsRunning R) (hcheck : deployment.checkPredeployed = false) :
    Mirrored R deployment.run := by
  rw [run_eq]
  refine ((h.steps hcheck).tryCatch fun fault => ?_).bind fun _ => h.enter .done
  refine mirrored_ite (mirrored_throw fault) (mirrored_get fun {s t} hR => ?_)
  rw [h.stage hR]
  exact ((h.toMirrorsCreation.notice _).bind fun _ => (h.enter _).bind fun _ => mirrored_throw fault) hR

end MirrorsRunning

/-- Two sessions have come from one session by doing the same and telling the same, but that in one of
them something was done and told before, and the node was asked for code. -/
structure Beside (origin : Session) (done : List Deed) (told : String) (s t : Session) : Prop where
  deeds : ∃ added, s.deeds = origin.deeds ++ added ∧ t.deeds = origin.deeds ++ (done ++ added)
  notices : ∃ text, s.notices = origin.notices ++ text ∧ t.notices = origin.notices ++ (told ++ text)
  node : s.node.Matches t.node
  rest : t = { s with deeds := t.deeds, notices := t.notices, node := t.node }

variable {origin : Session} {done : List Deed} {told : String}

theorem Beside.tells (h : Beside origin done told s t) (text : String) :
    Beside origin done told { s with notices := s.notices ++ text }
      { t with notices := t.notices ++ text } := by
  obtain ⟨said, hs, ht⟩ := h.notices
  refine ⟨h.deeds, ⟨said ++ text, ?_, ?_⟩, h.node, by rw [h.rest]⟩
  · rw [hs, String.append_assoc]
  · rw [ht, String.append_assoc, String.append_assoc]

theorem Beside.logs (h : Beside origin done told s t) (deed : Deed) :
    Beside origin done told { s with deeds := s.deeds ++ [deed] }
      { t with deeds := t.deeds ++ [deed] } := by
  obtain ⟨added, hs, ht⟩ := h.deeds
  refine ⟨⟨added ++ [deed], ?_, ?_⟩, h.notices, h.node, by rw [h.rest]⟩
  · rw [hs, List.append_assoc]
  · rw [ht, List.append_assoc, List.append_assoc]

theorem Beside.artifact (contract : Contract) :
    Mirrored (Beside origin done told) (Action.artifact contract) := by
  intro s t h
  have hsame : t.artifacts.get t.files contract = s.artifacts.get s.files contract := by rw [h.rest]
  cases hget : s.artifacts.get s.files contract with
  | error fault =>
    rw [artifact_of_error hget, artifact_of_error (hsame.trans hget)]
    exact .error fault h
  | ok found =>
    rw [artifact_of_get hget, artifact_of_get (hsame.trans hget)]
    exact .ok found.1 ⟨h.deeds, h.notices, h.node, by rw [h.rest]⟩

theorem beside_mirrorsFetching : MirrorsFetching (Beside origin done told) where
  input h := by rw [h.rest]
  node h := h.node
  client h := by rw [h.rest]
  web h := by rw [h.rest]
  source h := by rw [h.rest]
  tells text h := h.tells text
  logs deed h := h.logs deed
  hears _ h := ⟨h.deeds, h.notices, h.node, by rw [h.rest]⟩
  accesses step h := ⟨h.deeds, h.notices, h.node.accessed step, by rw [h.rest]⟩
  counts h := ⟨h.deeds, h.notices, h.node.counted, by rw [h.rest]⟩
  learns _ h := ⟨h.deeds, h.notices, h.node, by rw [h.rest]⟩
  concludes _ h := ⟨h.deeds, h.notices, h.node, by rw [h.rest]⟩
  requests _ h := ⟨h.deeds, h.notices, h.node, by rw [h.rest]⟩
  keeps _ h := ⟨h.deeds, h.notices, h.node, by rw [h.rest]⟩

theorem beside_mirrorsRunning : MirrorsRunning (Beside origin done told) where
  toMirrorsCreation := beside_mirrorsFetching.toMirrorsCreation
  registry h := by rw [h.rest]
  files h := by rw [h.rest]
  stage h := by rw [h.rest]
  reads := Beside.artifact
  fetches := beside_mirrorsFetching.genesis
  records h _ := ⟨h.deeds, h.notices, h.node, by rw [h.rest]⟩
  stores _ h := ⟨h.deeds, h.notices, h.node, by rw [h.rest]⟩
  emits _ h := ⟨h.deeds, h.notices, h.node, by rw [h.rest]⟩
  enters _ h := ⟨h.deeds, h.notices, h.node, by rw [h.rest]⟩

/-! ## The gate -/

theorem run_of_steps_eq {other : Deployment} (h : deployment.steps s = other.steps t) :
    deployment.run s = other.run t := by
  cases hsteps : other.steps t with
  | ok _ mid => rw [run_of_steps (h.trans hsteps), run_of_steps hsteps]
  | error fault mid => rw [run_of_error (h.trans hsteps), run_of_error hsteps]

variable {output : Option File.Path}

/-- Once the supplied addresses are found to host code, a deployment goes on as one that does not
check them. -/
theorem run_of_checked (h : checkSupplied s = .ok () checked) :
    (Deployment.mk output true).run s = (Deployment.mk output false).run checked := by
  refine run_of_steps_eq ?_
  rw [steps_eq, steps_eq]
  exact (bind_of_ok h).trans (bind_of_ok rfl).symm

theorem run_of_unchecked (h : checkSupplied s = .error fault checked) :
    (Deployment.mk output true).run s =
      .error fault (if fault = .refusal then checked else aborted checked) := by
  refine run_of_error ?_
  rw [steps_eq]
  exact bind_of_error h

/-- What the check of the supplied addresses, taken in some order, means for a deployment. -/
structure Gated (output : Option File.Path) (s : Session) (entries : List (Contract × Address)) :
    Prop where
  supplied : (entries.map (·.1)).Perm s.registry.predeployed
  recorded : ∀ entry ∈ entries, s.registry.get? entry.1 = some entry.2
  increasing : entries.Pairwise fun a b => a.1.variableName < b.1.variableName
  /-- At the first address with a flaw, be it that its code cannot be had or that there is none, the
  deployment ends. The codes up to this one were asked for, and nothing else was done. -/
  stops : ∀ before entry after fault, entries = before ++ entry :: after →
    Hosted before s → flaw? (inquired before s) entry = some fault →
    (Deployment.mk output true).run s = .error fault
      (if fault = .refusal then inquired (before ++ [entry]) s
        else aborted (inquired (before ++ [entry]) s))
  /-- If no address has a flaw, the deployment ends like one that does not check them, but that the
  codes were asked for before. -/
  passes : Hosted entries s →
    Alike (Beside s (entries.map inquiry) (String.join (entries.map inquiryNotice)))
      ((Deployment.mk output false).run s) ((Deployment.mk output true).run s)

/-- Before anything is done a session stands beside the one in which the codes were asked for. -/
theorem beside_inquired (entries : List (Contract × Address)) (s : Session) :
    Beside s (entries.map inquiry) (String.join (entries.map inquiryNotice)) s
      (inquired entries s) where
  deeds := ⟨[], by simp, by simp [inquired]⟩
  notices := ⟨"", by simp, by simp [inquired]⟩
  node := ⟨rfl, fun step hstep => by simp [inquired, List.count_replicate, hstep.symm]⟩
  rest := rfl

/-- **The check as a gate.** A deployment that checks the supplied addresses asks for their codes in
the order of the variables' names. It ends at the first one that has no code, or the code of which
cannot be had, with nothing else done. If all have code, it ends like a deployment that does not check
them. -/
theorem run_gated (output : Option File.Path) (supplied : s.registry.Supplied) :
    ∃ entries, Gated output s entries := by
  have hrecorded : ∀ contract ∈ sortContracts s.registry.predeployed,
      contract ∈ s.registry.contracts := fun contract hcontract =>
    supplied.recorded contract ((sortContracts_perm _).mem_iff.1 hcontract)
  obtain ⟨entries, hmap, hget⟩ := Registry.exists_entries hrecorded
  refine ⟨entries, hmap ▸ sortContracts_perm _, hget, ?_, ?_, ?_⟩
  · have hincreasing := pairwise_sortContracts supplied.nodup
    rw [← hmap, List.pairwise_map] at hincreasing
    exact hincreasing
  · -- stops
    rintro before entry after fault rfl hhost hflaw
    have hupTo : ∀ other ∈ before ++ [entry], s.registry.get? other.1 = some other.2 := by
      intro other hother
      refine hget other ?_
      rw [List.append_cons]
      exact List.mem_append_left _ hother
    have hcheck := checkAll_of_flaw (after.map (·.1)) hupTo hhost hflaw
    rw [← List.map_cons, ← List.map_append, hmap, ← checkSupplied_eq] at hcheck
    exact run_of_unchecked hcheck
  · -- passes
    intro hhost
    have hcheck := checkAll_append hget hhost []
    rw [List.append_nil, hmap, ← checkSupplied_eq] at hcheck
    rw [run_of_checked hcheck]
    exact beside_mirrorsRunning.run rfl (beside_inquired entries s)

/-- Where the supplied address of the proxy hosts no code, the deployment ends with this. -/
theorem run_gated_of_proxySupplied : proxySupplied.registry.Supplied ∧
    ∃ entries address, proxySupplied.registry.get? .lightClientProxy = some address ∧
      Gated none proxySupplied entries ∧ (Deployment.mk none true).run proxySupplied =
        .error (.deployment (.noCode address.text) (some .lightClientProxy))
          (aborted (inquired entries proxySupplied)) := by
  have accepted : Registry.ofSupply
      [(.lightClientProxy, .text "0x1111111111111111111111111111111111111111")] =
        .ok proxySupplied.registry := by rfl
  have supplied := Registry.supplied_of_ofSupply accepted
  obtain ⟨entries, hgated⟩ := run_gated none supplied
  obtain ⟨⟨contract, address⟩, rfl, hcontract⟩ :=
    List.map_eq_singleton_iff.1 (List.perm_singleton.1 hgated.supplied)
  obtain rfl : contract = .lightClientProxy := hcontract
  have hrecorded := hgated.recorded (.lightClientProxy, address) List.mem_cons_self
  exact ⟨supplied, _, address, hrecorded, hgated, hgated.stops [] _ [] _ rfl (by simp [Hosted]) rfl⟩

end Deployment

end Rollout
