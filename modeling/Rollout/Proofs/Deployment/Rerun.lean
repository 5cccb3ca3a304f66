import Rollout.Proofs.Deployment.Output

/-!
# Running again from a record

A deployment that starts from the record of an earlier one has nothing left to do but to write the
same record again (`run_rerun`): all that it needs is found in the registry, so it accesses neither
the node nor the web, and reads no artifact.
-/

namespace Rollout.Deployment

open Rollout.Action Resolution File File.Tree

variable {s s' : Session} {deployment : Deployment}

/-- What a deployment does if both its contracts have addresses: it finds them. -/
theorem run_of_found {first second : Address} {path : Path}
    (hcheck : deployment.checkPredeployed = false) (houtput : deployment.output = some path)
    (hfirst : s.registry.get? .hotShot = some first)
    (hsecond : s.registry.get? .lightClientProxy = some second)
    (hwrite : Registry.CanWrite path s) : ∃ s', deployment.run s = .ok () s' ∧
      s'.files.read path.text = .ok (Utf8.encode (Registry.write s.registry.entries)) ∧
      s'.events = s.events ∧ s'.node = s.node ∧ s'.web = s.web := by
  let standalone := Registry.finding .hotShot first s
  let chained := Registry.finding .lightClientProxy second
    { standalone with stage := .standaloneDeployed }
  let prepared : Session := { chained with stage := .proxyChainResolved }
  have hprepare : deployment.prepare s = .ok () prepared :=
    prepare_of_resolves hcheck (resolve_of_get? hfirst) (resolve_of_get? hsecond)
  have hfiles : prepared.files = s.files := rfl
  have hevents : prepared.events = s.events := by
    show (((s.deeds ++ [_]) ++ [_]).filterMap Deed.event?) = _
    rw [List.filterMap_append, List.filterMap_append]
    exact (List.append_nil _).trans (List.append_nil _)
  obtain ⟨written, hfile⟩ := hwrite.writeFile hfiles (Registry.write s.registry.entries)
  obtain ⟨published, hpublish⟩ : ∃ published, deployment.publish prepared = .ok () published := by
    show ∃ published, Registry.publish s.registry.entries deployment.output prepared = _
    rw [houtput]
    exact ⟨_, Registry.publish_of_writeFile hfile⟩
  have hwrites : WritesOnly (Registry.write s.registry.entries) prepared published (some path) :=
    houtput ▸ writesOnly_of_publish hpublish
  have hkeeps : Registry.OnlyPublishes prepared published :=
    after_of_ok hpublish ▸ Registry.publish_keeps _ _ prepared
  refine ⟨_, run_of_prepare hprepare hpublish, hwrites.2.read, ?_, hkeeps.node_eq, hkeeps.web_eq⟩
  calc published.events = prepared.events := by rw [Session.events, hkeeps.deeds_eq, Session.events]
    _ = s.events := hevents

/-- The addresses of a deployment that has succeeded, supplied to another one, have all that it
needs. -/
theorem get?_of_sorted {registry : Registry} {contract : Contract} (predeployed : List Contract)
    (h : contract ∈ registry.contracts) :
    ∃ address, (Registry.mk registry.sorted predeployed).get? contract = some address :=
  Registry.get?_of_mem_contracts ((registry.sorted_perm.map _).mem_iff.2 h)

/-- **Running again from a record.** A deployment that succeeds leaves a file from which its record
is read. A deployment that starts from these addresses and checks no code succeeds, whatever the
artifacts, the node and the web are; it accesses neither the node nor the web, and writes the same
octets, to another file or to the same one. -/
theorem run_rerun {name : String} (nodup : s.registry.contracts.Nodup)
    (output : deployment.output = some (.ofText name)) (succeeds : deployment.run s = .ok () s') :
    ∃ content, s'.files.read (Path.ofText name).text = .ok content ∧
      ∀ t : Session, t.files.read (Path.ofText name).text = .ok content →
        ∃ addresses registry, Registry.load (Path.ofText name).text t = .ok addresses t ∧
          Registry.ofSupply (Registry.toSupply addresses) = .ok registry ∧
          ∀ (again : Deployment) (path : Path), again.checkPredeployed = false →
            again.output = some path → path = .ofText name ∨ Registry.CanWrite path t →
            ∃ t', again.run { t with registry } = .ok () t' ∧
              t'.files.read path.text = .ok content ∧
              t'.events = t.events ∧ t'.node = t.node ∧ t'.web = t.web := by
  obtain ⟨made, resolved, published, hmade, hneeded, hpublish, rfl⟩ := run_eq_ok succeeds
  have hresolved := nodup_of_makes hmade hneeded nodup
  have hwrites : WritesOnly (Registry.write resolved.registry.entries) resolved published
      (some (.ofText name)) := output ▸ writesOnly_of_publish hpublish
  refine ⟨_, hwrites.2.read, fun t hread => ?_⟩
  have hload := Registry.load_of_read hresolved hread
  have hsorted : (resolved.registry.sorted.map (·.1)).Nodup :=
    (resolved.registry.sorted_perm.map _).nodup_iff.2 hresolved
  refine ⟨_, _, hload, Registry.ofSupply_toSupply hsorted, fun again path hcheck hagain htarget => ?_⟩
  have hwrite : Registry.CanWrite path t := by
    rcases htarget with rfl | hwrite
    · exact Registry.canWrite_of_read (Path.spelled_ofText name) hread
    · exact hwrite
  have hrecorded : ∀ {contract}, contract = .hotShot ∨ contract = .lightClientProxy →
      contract ∈ resolved.registry.contracts := by
    intro contract hcontract
    rw [hmade.contracts, hneeded]
    exact mem_append_needed hcontract _
  let supplied : Registry :=
    ⟨resolved.registry.sorted, resolved.registry.sorted.map (·.1)⟩
  obtain ⟨first, hfirst⟩ := get?_of_sorted supplied.predeployed (hrecorded (Or.inl rfl))
  obtain ⟨second, hsecond⟩ := get?_of_sorted supplied.predeployed (hrecorded (Or.inr rfl))
  have hwrite' : Registry.CanWrite path { t with registry := supplied } := by
    have hfiles : ({ t with registry := supplied } : Session).files = t.files := rfl
    exact hwrite.writeFile hfiles ""
  obtain ⟨t', hrun, hcontent, hquiet⟩ := run_of_found hcheck hagain hfirst hsecond hwrite'
  refine ⟨t', hrun, ?_, hquiet⟩
  rw [hcontent, Registry.entries_of_sorted]

theorem run_rerun_of_toRecords : ∃ s' content,
    toRecords.run proxySupplied = .ok () s' ∧
    s'.files.read (Path.ofText "/records/out.env").text = .ok content ∧
    ∃ addresses registry t',
      Registry.load (Path.ofText "/records/out.env").text s' = .ok addresses s' ∧
      Registry.ofSupply (Registry.toSupply addresses) = .ok registry ∧
      toRecords.run { s' with registry } = .ok () t' ∧
      t'.files.read (Path.ofText "/records/out.env").text = .ok content ∧ t'.events = s'.events := by
  have nodup : proxySupplied.registry.contracts.Nodup := by decide
  obtain ⟨s', succeeds⟩ := run_toRecords
  obtain ⟨content, hread, hagain⟩ := run_rerun nodup rfl succeeds
  obtain ⟨addresses, registry, hload, hsupply, hrun⟩ := hagain s' hread
  obtain ⟨t', hrerun, hcontent, hevents, -, -⟩ := hrun toRecords _ rfl rfl (Or.inl rfl)
  exact ⟨s', content, succeeds, hread, addresses, registry, t', hload, hsupply, hrerun, hcontent,
    hevents⟩

end Rollout.Deployment
