import Rollout.CommandLine.Run
import Rollout.Proofs.Deployment.Regular
import Rollout.Proofs.Deployment.Supplied

/-!
# What is told of malformed artifacts

Where the node and the genesis service serve and nothing is asked, a deployment succeeds or tells what
is wrong, provided that those of the artifacts it needs that can be read are regular (`run_reported`).
An artifact that can be read and is irregular may end it with a fault that the command does not answer
for (`not_always_reported`).
-/

namespace Rollout.Deployment

open Rollout.Action Resolution

variable {s₀ s s' : Session} {contract : Contract} {deployment : Deployment} {fault : Fault}

/-- What a deployment tells, if all that can be wrong are the artifacts, the supplied addresses, and the
file for the registry. -/
inductive Reported (deployment : Deployment) (s : Session) : Fault → Prop where
  | artifact {fault : Fault} : Blamed s fault → Reported deployment s fault
  | codeless {contract : Contract} {address : String} : deployment.checkPredeployed = true →
    contract ∈ s.registry.predeployed →
    Reported deployment s (.deployment (.noCode address) (some contract))
  | unwritten {path : File.Path} {text : String} : deployment.output = some path →
    Reported deployment s (.deployment (.registryUnwritable path.text text) none)

theorem enter_upholds (stage : Stage) :
    Upholds (Later s₀) (Reported deployment s₀) (fun _ => True) (enter stage) := by
  refine upholds_modify fun s hlater => Follows.trans hlater ?_
  exact later_of_frame ⟨rfl, rfl, rfl, fun _ => rfl, rfl⟩ rfl rfl

/-- If the node serves, only a missing code can end the check of a supplied address. -/
theorem checkCode_upholds (hserved : Served s₀) (hcheck : deployment.checkPredeployed = true)
    (hsupplied : contract ∈ s₀.registry.predeployed) :
    Upholds (Later s₀) (Reported deployment s₀) (fun _ => True) (checkCode contract) := by
  unfold checkCode
  refine upholds_get fun session _ => ?_
  refine ((notice_upholds _).mono fun _ => .artifact).bind fun _ _ => ?_
  generalize ((session.registry.get? contract).map Address.text).getD "" = address
  have hquery : Upholds (Later s₀) (Reported deployment s₀) (fun _ => True)
      (Client.queryCode address) := by
    intro s hlater
    have hcode := queryCode_of_none address (hlater.outage? hserved .code)
    refine Or.inl ⟨_, _, hcode, trivial, Follows.trans hlater ?_⟩
    exact later_of_frame ⟨rfl, rfl, rfl, fun _ => rfl, rfl⟩ rfl rfl
  refine hquery.bind fun code _ => ?_
  by_cases hempty : code.isEmpty = true
  · rw [if_pos hempty]
    exact upholds_throw (.codeless hcheck hsupplied)
  · rw [if_neg hempty]
    exact upholds_pure trivial

theorem supply_upholds (hserved : Served s₀) :
    Upholds (Later s₀) (Reported deployment s₀) (fun _ => True) deployment.supply := by
  unfold supply
  by_cases hcheck : deployment.checkPredeployed = true
  · rw [if_pos hcheck]
    refine upholds_get fun session hlater => ?_
    have hall := upholds_forIn fun contract hcontract => by
      have hsupplied := (sortContracts_perm session.registry.predeployed).mem_iff.1 hcontract
      rw [hlater.predeployed] at hsupplied
      exact checkCode_upholds hserved hcheck hsupplied
    exact hall.bind fun _ _ => upholds_pure trivial
  · rw [if_neg hcheck]
    exact upholds_pure trivial

theorem prepare_upholds (hserved : Served s₀) (hregular : Regular s₀) :
    Upholds (Later s₀) (Reported deployment s₀) (fun _ => True) deployment.prepare := by
  have hhotShot := resolve_upholds hserved hregular (.target List.mem_cons_self)
  have hproxy := resolve_upholds hserved hregular
    (.target (List.mem_cons_of_mem _ List.mem_cons_self))
  refine (supply_upholds hserved).bind fun _ _ => ?_
  refine (hhotShot.mono fun _ => .artifact).bind fun _ _ => (enter_upholds _).bind fun _ _ => ?_
  exact (hproxy.mono fun _ => .artifact).bind fun _ _ => enter_upholds _

/-- A registry is published, or it is told that the file for it cannot be written. -/
theorem reported_of_publish (hclean : ∀ path, deployment.output = some path → path.Clean)
    (h : deployment.publish s = .error fault s') : Reported deployment s₀ fault := by
  have hpublish : Registry.publish s.registry.entries deployment.output s = .error fault s' := h
  cases hpath : deployment.output with
  | none =>
    rw [hpath] at hpublish
    cases hpublish
  | some path =>
    rw [hpath] at hpublish
    obtain ⟨⟨text, rfl⟩, -⟩ := Registry.publish_eq_error (hclean path hpath) hpublish
    exact .unwritten hpath

/-- What is reported is told by the command in the words of the deployment. -/
theorem Reported.ending_eq (h : Reported deployment s fault) :
    CommandLine.Ending.ofFault fault = .failed fault.text := by
  cases h with
  | artifact hblamed => cases hblamed <;> rfl
  | codeless _ _ => rfl
  | unwritten _ => rfl

/-- **What is told of malformed artifacts.** Where the node and the genesis service serve and nothing is
asked, a deployment succeeds or tells what is wrong, and the command ends with these words, provided
that those of the artifacts it needs that can be read are regular. Of an artifact that cannot be read or
used it tells the contract. -/
theorem run_reported (hserved : Served s) (hregular : Regular s)
    (hclean : ∀ path, deployment.output = some path → path.Clean) :
    (∃ s', deployment.run s = .ok () s') ∨
      ∃ fault s', deployment.run s = .error fault s' ∧ Reported deployment s fault ∧
        CommandLine.Ending.ofFault fault = .failed fault.text ∧
        (CommandLine.Ending.ofFault fault).exitCode = 1 := by
  have hreported : ∀ {fault mid}, deployment.steps s = .error fault mid →
      Reported deployment s fault → ∃ fault s', deployment.run s = .error fault s' ∧
        Reported deployment s fault ∧ CommandLine.Ending.ofFault fault = .failed fault.text ∧
        (CommandLine.Ending.ofFault fault).exitCode = 1 := by
    intro fault mid hsteps h
    exact ⟨fault, _, run_of_error hsteps, h, h.ending_eq, by rw [h.ending_eq]; rfl⟩
  rcases prepare_upholds hserved hregular s (Follows.refl s) with
    ⟨_, prepared, hprepare, -, -⟩ | ⟨fault, mid, herror, h⟩
  · cases hpublish : deployment.publish prepared with
    | ok _ published => exact Or.inl ⟨_, run_of_prepare hprepare hpublish⟩
    | error fault published =>
      have hsteps : deployment.steps s = .error fault published := by
        rw [steps_eq_prepare]
        exact (bind_of_ok hprepare).trans (bind_of_error hpublish)
      exact Or.inr (hreported hsteps (reported_of_publish hclean hpublish))
  · have hsteps : deployment.steps s = .error fault mid := by
      rw [steps_eq_prepare]
      exact bind_of_error herror
    exact Or.inr (hreported hsteps h)

/-- An interface with which the consensus contract cannot be created ends a deployment with a fault that
is passed on as it arises. -/
theorem run_of_uncreatable {artifact : Artifact} {code : Octets} (hsigns : s.client.autosign = true)
    (hunchecked : deployment.checkPredeployed = false) (habsent : s.registry.get? .hotShot = none)
    (hartifact : artifactOf s .hotShot = .ok artifact) (hlink : artifact.bytecode.link [] = .ok code)
    (hcheck : Abi.checkCreatable artifact.interface = .error fault) :
    ∃ s', deployment.run s = .error fault s' := by
  let opened := Registry.opening .hotShot s
  have hdeploy : ∃ mid, deploy .hotShot [] opened = .error fault mid := by
    rcases artifact_cases .hotShot opened with
      ⟨found, store, hfound, hread, -⟩ | ⟨other, hfound, -⟩
    · obtain rfl := Except.ok.inj (hartifact.symm.trans hfound)
      let creation : Client.Creation := ⟨.hotShot, artifact.interface, code, []⟩
      obtain ⟨asked, hask⟩ := Client.Creation.ask_eq_ok_iff.2
        (.signs hsigns : creation.Agreed { opened with artifacts := store })
      have hrun : creation.run { opened with artifacts := store } = .error fault asked := by
        rw [Client.Creation.run, Client.deploy_eq_preface, ← Client.Creation.ask, bind_of_ok hask,
          Client.proceed, hcheck]
        rfl
      refine ⟨asked, (bind_of_ok hread).trans ?_⟩
      exact (bind_of_ok (ofExcept_eq_ok.2 ⟨hlink, rfl⟩)).trans hrun
    · cases hartifact.symm.trans hfound
  obtain ⟨mid, hdeploy⟩ := hdeploy
  have hbelow : resolveBelow .hotShot opened = .ok [] opened := rfl
  have hresolve : Resolution.resolve .hotShot s = .error fault mid := by
    rw [resolve_eq, Registry.resolve_of_none habsent]
    exact bind_of_error ((bind_of_ok hbelow).trans (bind_of_error hdeploy))
  have hsupply : deployment.supply s = .ok () s := by
    rw [supply, hunchecked]
    rfl
  have hsteps : deployment.steps s = .error fault mid := by
    rw [steps_eq]
    exact (bind_of_ok hsupply).trans (bind_of_error hresolve)
  exact ⟨_, run_of_error hsteps⟩

/-- A session in which the proxy is supplied and the genesis state is known, and the artifact of the
consensus contract is the only file. -/
def consensusNeeded (document : String) : Session where
  files := ⟨[(["out"], .directory), (["out", "HotShot.sol"], .directory),
    (["out", "HotShot.sol", "HotShot.json"], .file (Utf8.encode document))]⟩
  registry := ⟨[(.lightClientProxy, .filled 0x11)], [.lightClientProxy]⟩
  genesis := { url := "", fetched := some ⟨0, 0, 0, 0, 0, 0, 0, 0⟩ }

/-- Only the artifact of the consensus contract is used. -/
theorem uses_consensusNeeded {document : String} (h : Uses (consensusNeeded document) contract) :
    contract = .hotShot := by
  have hneeded : needed (consensusNeeded document).registry.contracts = [.hotShot] := by rfl
  unfold Uses at h
  rw [hneeded] at h
  simpa using h

theorem served_consensusNeeded (document : String) : Served (consensusNeeded document) where
  signs := rfl
  node := by
    refine ⟨rfl, fun number => ?_⟩
    have hread := Address.read_hexText ⟨Octets.ofNat 20 (0x1000 + (number + 1)), by simp⟩
    exact ⟨.integer 1, _, rfl, .integer, hread⟩
  genesis := ⟨_, rfl⟩
  unread := rfl
  holds contract huses := by
    obtain rfl := uses_consensusNeeded huses
    have hpath : ((consensusNeeded document).artifacts.path .hotShot).text =
        "out/HotShot.sol/HotShot.json" := rfl
    rw [hpath]
    exact ⟨true, rfl⟩

/-- The artifact of the consensus contract is what its document describes. -/
theorem artifactOf_consensusNeeded (document : String) (fields : Fields)
    (hreturn : '\r' ∉ document.toList)
    (hparse : Json.parse Json.nestingLimit document.toList = .ok (.record fields)) :
    artifactOf (consensusNeeded document) .hotShot =
      Artifact.ofDocument .hotShot "out/HotShot.sol/HotShot.json" (.record fields) := by
  have hdocument : Artifact.documentAt (consensusNeeded document).artifacts.nesting
      (consensusNeeded document).files "out/HotShot.sol/HotShot.json" = .ok (.record fields) :=
    Artifact.documentAt_of_read rfl hreturn hparse
  have hpath : ((consensusNeeded document).artifacts.path .hotShot).text =
      "out/HotShot.sol/HotShot.json" := rfl
  rw [artifactOf_of_unread rfl, hpath, Artifact.load_of_holds rfl, hdocument]

/-- Of bytecode that is no hexadecimal text it is told that it is none, and for which contract. -/
theorem run_reported_of_consensusNeeded :
    let s := consensusNeeded
      "\x7b\"abi\":[\x7b\"type\":\"constructor\",\"inputs\":[]\x7d],\"bytecode\":\"0x60__\"\x7d"
    Served s ∧ Regular s ∧
      ((∃ s', (Deployment.mk none false).run s = .ok () s') ∨
        ∃ fault s', (Deployment.mk none false).run s = .error fault s' ∧
          Reported (Deployment.mk none false) s fault ∧
          CommandLine.Ending.ofFault fault = .failed fault.text ∧
          (CommandLine.Ending.ofFault fault).exitCode = 1) := by
  intro s
  let interface : Value :=
    .list [.record [("type", .text "constructor"), ("inputs", .list [])]]
  have hartifact : artifactOf s .hotShot =
      .ok ⟨.hotShot, interface, { object := "0x60__", contract := some .hotShot }⟩ :=
    artifactOf_consensusNeeded _ [("abi", interface), ("bytecode", .text "0x60__")]
      (by decide) (by cbv)
  have hused : ∀ {contract}, contract ∈ needed s.registry.contracts → contract = .hotShot :=
    fun h => uses_consensusNeeded (Or.inl h)
  have hserved : Served s := served_consensusNeeded _
  have hregular : Regular s := by
    refine ⟨fun contract huses => ?_, fun contract h artifact hread => ?_,
      fun contract h _ artifact hread => ?_, fun h => by cases hused h⟩
    · obtain rfl := uses_consensusNeeded huses
      rw [hartifact]
      simp
    · obtain rfl := hused h
      obtain rfl := Except.ok.inj (hartifact.symm.trans hread)
      refine ⟨trivial, fun names hnames => ?_⟩
      obtain rfl : [] = names := Except.ok.inj hnames
      simp
    · obtain rfl := hused h
      obtain rfl := Except.ok.inj (hartifact.symm.trans hread)
      refine ⟨[[("type", .text "constructor"), ("inputs", .list [])]], ⟨⟨rfl, ?_⟩, ?_, ?_⟩, ?_, ?_, ?_⟩
      · simpa using ⟨[], rfl, by simp⟩
      · intro entry hentry hnamed
        obtain rfl := List.mem_singleton.1 hentry
        exact absurd hnamed (by decide)
      · decide
      · decide
      · exact ⟨[], rfl, rfl⟩
      · simpa using fun _ => ⟨[], rfl, rfl⟩
  exact ⟨hserved, hregular, run_reported hserved hregular (fun _ h => by cases h)⟩

/-- What is wrong with an artifact that can be read is not always told: an interface that is no list
ends a deployment with a fault that the command does not answer for. -/
theorem not_always_reported : ¬ ∀ (deployment : Deployment) (s s' : Session) (fault : Fault),
    Served s → deployment.output = none → deployment.run s = .error fault s' →
    ∃ cause contract, fault = .deployment cause (some contract) := by
  intro h
  let s := consensusNeeded "\x7b\"abi\":null,\"bytecode\":\"0x6001\"\x7d"
  have hartifact : artifactOf s .hotShot =
      .ok ⟨.hotShot, .null, { object := "0x6001", contract := some .hotShot }⟩ :=
    artifactOf_consensusNeeded _ [("abi", .null), ("bytecode", .text "0x6001")]
      (by decide) (by cbv)
  have hlink : Bytecode.link { object := "0x6001", contract := some .hotShot } [] =
      .ok [0x60, 0x01] := by rfl
  have hrun : ∃ s', (Deployment.mk none false).run s = .error .unusableInterface s' :=
    run_of_uncreatable rfl rfl rfl hartifact hlink rfl
  obtain ⟨s', hrun⟩ := hrun
  obtain ⟨cause, contract, hfault⟩ := h _ s s' _ (served_consensusNeeded _) rfl hrun
  cases hfault

end Rollout.Deployment
