import Rollout.Proofs.Deployment.Record
import Rollout.Proofs.Deployment.Steps

/-!
# All or nothing

A deployment writes its record all at once or not at all (`run_allOrNothing`). Nothing is written
before the registry is published, which comes last; a deployment that fails has written nothing, and
one that succeeds has written the record of the whole registry, in the output or in its file, and
nothing else.
-/

namespace Rollout

open Rollout.Action File File.Tree

variable {s s' : Session} {contract : Contract} {fault : Fault}

/-! ## The lines of a record -/

namespace Registry

variable {registry : Registry}

theorem get?_of_mem {address : Address} (hnodup : registry.contracts.Nodup)
    (h : (contract, address) ∈ registry.addresses) : registry.get? contract = some address := by
  obtain ⟨before, after, hsplit⟩ := List.append_of_mem h
  refine List.lookup_eq_some_iff.2 ⟨before, after, hsplit, fun entry hentry => ?_⟩
  rw [contracts, hsplit, List.map_append, List.nodup_append] at hnodup
  have hne := hnodup.2.2 entry.1 (List.mem_map_of_mem hentry) contract (by simp)
  simpa using hne.symm

/-- In the sorted addresses of a registry the names of the variables strictly increase. -/
theorem pairwise_sorted (hnodup : registry.contracts.Nodup) :
    registry.sorted.Pairwise fun a b => a.1.variableName < b.1.variableName :=
  Contract.pairwise_variableName _ hnodup

end Registry

namespace Deployment

open Resolution

variable {deployment : Deployment}

/-- A text is the record of a registry: the record of some addresses, which are those of the
registry, with the names of the variables strictly increasing. -/
structure Lists (registry : Registry) (text : String) (record : List (Contract × Address)) : Prop
    extends Records text record where
  increasing : record.Pairwise fun a b => a.1.variableName < b.1.variableName
  complete : ∀ contract address,
    (contract, address) ∈ record ↔ registry.get? contract = some address
  full : text ≠ ""

theorem lists_write {registry : Registry} (hnodup : registry.contracts.Nodup)
    (hmem : contract ∈ registry.contracts) :
    Lists registry (Registry.write registry.entries) registry.sorted where
  nodup := (registry.sorted_perm.map _).nodup_iff.2 hnodup
  lines := registry.toList_write
  read := Registry.read_write hnodup
  increasing := Registry.pairwise_sorted hnodup
  complete contract address := by
    rw [registry.sorted_perm.mem_iff]
    exact ⟨Registry.get?_of_mem hnodup, Registry.mem_addresses_of_get?⟩
  full := by
    intro hempty
    obtain ⟨entry, hentry, -⟩ := List.mem_map.1 hmem
    have hsorted := registry.sorted_perm.mem_iff.2 hentry
    have hlines := registry.toList_write
    rw [hempty] at hlines
    have hbreak : '\n' ∈ "".toList := by
      rw [hlines]
      refine List.mem_flatMap.2 ⟨_, List.mem_map_of_mem hsorted, ?_⟩
      exact List.mem_append_right _ (List.mem_singleton.2 rfl)
    exact absurd hbreak (by decide)

/-! ## What is written -/

/-- A text is added to the output, and the files stay as they are; or it is all that a file holds,
and the output and all other files stay as they are. -/
def WritesOnly (text : String) (s s' : Session) : Option Path → Prop
  | none => s'.output = s.output ++ text ∧ s'.files = s.files
  | some path => s'.output = s.output ∧ Stores path (Utf8.encode text) s.files s'.files

theorem WritesOnly.congr {text : String} {mid : Session} {path : Option Path}
    (h : WritesOnly text mid s' path) (hfiles : mid.files = s.files)
    (houtput : mid.output = s.output) : WritesOnly text s s' path := by
  cases path with
  | none =>
    obtain ⟨hadded, hkept⟩ := h
    exact ⟨houtput ▸ hadded, hfiles ▸ hkept⟩
  | some path =>
    obtain ⟨hkept, hstores⟩ := h
    exact ⟨houtput ▸ hkept, hfiles ▸ hstores⟩

theorem writesOnly_of_publish (h : deployment.publish s = .ok () s') :
    WritesOnly (Registry.write s.registry.entries) s s' deployment.output := by
  have hpublish : Registry.publish s.registry.entries deployment.output s = .ok () s' := h
  cases hpath : deployment.output with
  | none =>
    rw [hpath] at hpublish
    cases hpublish
    exact ⟨rfl, rfl⟩
  | some path =>
    rw [hpath] at hpublish
    obtain ⟨hstores, houtput⟩ := Registry.publish_stores hpublish
    exact ⟨houtput, hstores⟩

/-- A deployment that fails with a fault leaves the output and all files as they are. Directories
above its file may have been made, but only if the registry cannot be written, and no file is in
them. -/
structure WritesNothing (deployment : Deployment) (fault : Fault) (s s' : Session) : Prop where
  output : s'.output = s.output
  files : ∀ place content,
    s'.files.at? place = some (.file content) ↔ s.files.at? place = some (.file content)
  directories : s'.files = s.files ∨ ∃ path text, deployment.output = some path ∧
    fault = .deployment (.registryUnwritable path.text text) none ∧
    AddsDirectories path.TextAbove s.files s'.files
  empty : s.files.Closed → ∀ place, s.files.at? place = none → ∀ names content,
    s'.files.at? (place ++ names) ≠ some (.file content)

theorem writesNothing_of_unchanged (houtput : s'.output = s.output) (hfiles : s'.files = s.files) :
    WritesNothing deployment fault s s' where
  output := houtput
  files place content := by rw [hfiles]
  directories := Or.inl hfiles
  empty hclosed place hnone names content := by
    rw [hfiles]
    exact (AddsDirectories.refl (fun _ => False) s.files).not_file hclosed hnone names content

theorem writesNothing_of_unwritable {path : Path} {text : String}
    (hpath : deployment.output = some path)
    (hfault : fault = .deployment (.registryUnwritable path.text text) none)
    (houtput : s'.output = s.output) (hadds : AddsDirectories path.TextAbove s.files s'.files) :
    WritesNothing deployment fault s s' where
  output := houtput
  files := hadds.file_iff
  directories := Or.inr ⟨path, text, hpath, hfault, hadds⟩
  empty hclosed _ := hadds.not_file hclosed

/-! ## Before the registry is published -/

/-- The files and the output stay as they are. -/
abbrev KeepsFiles : Session → Session → Prop := Unchanged fun s => (s.files, s.output)

theorem keepsFiles_keptBySettling : KeptBySettling KeepsFiles where
  finding _ := rfl
  opening _ := rfl
  deploying {contract dependencies s} _ := by
    rw [KeepsFiles, Unchanged, deploy_onlyDeploys contract dependencies s]
  settling _ _ := rfl

theorem keepsFiles_kept : KeptByDeploying KeepsFiles where
  toKeptByResolving := keepsFiles_keptBySettling.keptByResolving
  converses h := by
    rw [Client.OnlyConverses] at h
    rw [KeepsFiles, Unchanged, h]
  inquires _ _ := rfl
  enters _ _ := rfl

/-- Nothing is written before the registry is published. -/
theorem prepare_keepsFiles (deployment : Deployment) (s : Session) :
    (deployment.prepare.after s).files = s.files ∧
      (deployment.prepare.after s).output = s.output := by
  have h : KeepsFiles s _ := keepsFiles_kept.prepare deployment s
  exact Prod.mk.inj h

/-- A deployment whose steps fail has written nothing. -/
theorem writesNothing_of_steps (clean : ∀ path ∈ deployment.output, path.Clean)
    (h : deployment.steps s = .error fault s') : WritesNothing deployment fault s s' := by
  obtain ⟨hfiles, houtput⟩ := prepare_keepsFiles deployment s
  rw [steps_eq_prepare] at h
  cases hprepare : deployment.prepare s with
  | error first mid =>
    rw [after_of_error hprepare] at hfiles houtput
    rw [bind_of_error hprepare] at h
    cases h
    exact writesNothing_of_unchanged houtput hfiles
  | ok _ mid =>
    rw [after_of_ok hprepare] at hfiles houtput
    rw [bind_of_ok hprepare] at h
    cases hpublish : deployment.publish mid with
    | ok _ published =>
      rw [bind_of_ok hpublish] at h
      cases h
    | error first published =>
      rw [bind_of_error hpublish] at h
      cases h
      have hwrite : Registry.publish mid.registry.entries deployment.output mid = .error fault s' :=
        hpublish
      cases hpath : deployment.output with
      | none =>
        rw [hpath] at hwrite
        cases hwrite
      | some path =>
        rw [hpath] at hwrite
        obtain ⟨⟨text, hfault⟩, hadds, hkept⟩ := Registry.publish_eq_error (clean path hpath) hwrite
        rw [hfiles] at hadds
        exact writesNothing_of_unwritable hpath hfault (hkept.trans houtput) hadds

/-- The consensus contract and the proxy are recorded once what is needed is. -/
theorem mem_append_needed (h : contract = .hotShot ∨ contract = .lightClientProxy)
    (recorded : List Contract) : contract ∈ recorded ++ needed recorded := by
  by_cases hmem : contract ∈ recorded
  · exact List.mem_append_left _ hmem
  · refine List.mem_append_right _ ?_
    rcases h with rfl | rfl
    · rw [needed, if_neg hmem]
      exact List.mem_append_left _ (List.mem_singleton.2 rfl)
    · rw [needed, if_neg hmem]
      exact List.mem_append_right _ (List.mem_append_right _ (List.mem_singleton.2 rfl))

/-- A deployment that succeeds writes the record of its registry, and nothing else. -/
theorem writesOnly_of_run (nodup : s.registry.contracts.Nodup)
    (h : deployment.run s = .ok () s') : ∃ text record, Lists s'.registry text record ∧
      WritesOnly text s s' deployment.output := by
  obtain ⟨made, resolved, published, hmade, hneeded, hpublish, rfl⟩ := run_eq_ok h
  have hresolved := nodup_of_makes hmade hneeded nodup
  have hfull : Contract.hotShot ∈ resolved.registry.contracts := by
    rw [hmade.contracts, hneeded]
    exact mem_append_needed (Or.inl rfl) _
  have hregistry : published.registry = resolved.registry :=
    (after_of_ok hpublish ▸ Registry.publish_keeps _ _ resolved :
      Registry.OnlyPublishes resolved published).registry_eq
  have hlists := lists_write hresolved hfull
  have hwrites := writesOnly_of_publish hpublish
  rw [← hregistry] at hlists
  refine ⟨_, _, hlists, ?_⟩
  rw [hregistry]
  exact hwrites.congr hmade.frame.files hmade.frame.output

/-- **All or nothing.** A deployment that fails has written nothing; one that succeeds has written
the record of its registry, in the output if it has no file and else in its file, and nothing
else. -/
theorem run_allOrNothing (nodup : s.registry.contracts.Nodup)
    (clean : ∀ path ∈ deployment.output, path.Clean) :
    match deployment.run s with
    | .error fault s' => WritesNothing deployment fault s s'
    | .ok _ s' => ∃ text record, Lists s'.registry text record ∧
        WritesOnly text s s' deployment.output := by
  cases hrun : deployment.run s with
  | error fault s' =>
    obtain ⟨mid, notices, stage, hsteps, rfl⟩ := run_eq_error hrun
    have hnothing := writesNothing_of_steps clean hsteps
    exact ⟨hnothing.output, hnothing.files, hnothing.directories, hnothing.empty⟩
  | ok _ s' => exact writesOnly_of_run nodup hrun

/-- In an empty tree any text can be written to a file below the root, in a directory that is not
there yet. -/
theorem writeFile_of_empty (hfiles : s.files = {}) (content : String) :
    ∃ s', Registry.writeFile (.ofText "/records/out.env") content s = .ok () s' := by
  let made : Tree := ⟨[(["/", "records"], .directory)]⟩
  have hmake : ({} : Tree).makeDirectories "/" ["records"] = (.ok (), made) := by rfl
  have hwrite : made.write "/records/out.env" (Utf8.encode content) =
      .ok (made.put ["/", "records", "out.env"] (.file (Utf8.encode content))) := by rfl
  rw [← hfiles] at hmake
  exact ⟨_, Registry.writeFile_of_ok hmake hwrite⟩

/-- A deployment that writes to a file in a directory of its own. -/
def toRecords : Deployment := ⟨some (.ofText "/records/out.env"), false⟩

/-- Where the proxy is supplied, the deployment creates the consensus contract and writes its record.
-/
theorem run_toRecords : ∃ s', toRecords.run proxySupplied = .ok () s' := by
  obtain ⟨standalone, hhotShot, hproxy⟩ := resolve_proxySupplied
  have hprepare : toRecords.prepare proxySupplied = .ok () _ :=
    prepare_of_resolves rfl hhotShot (resolve_of_get? hproxy)
  obtain ⟨hfiles, -⟩ := prepare_keepsFiles toRecords proxySupplied
  rw [after_of_ok hprepare] at hfiles
  obtain ⟨written, hwrite⟩ := writeFile_of_empty hfiles (Registry.write _)
  exact ⟨_, run_of_prepare hprepare (Registry.publish_of_writeFile hwrite)⟩

theorem run_allOrNothing_of_toRecords : ∃ s' text record,
    proxySupplied.registry.contracts.Nodup ∧ (∀ path ∈ toRecords.output, path.Clean) ∧
    toRecords.run proxySupplied = .ok () s' ∧ Lists s'.registry text record ∧
    WritesOnly text proxySupplied s' (some (.ofText "/records/out.env")) := by
  have nodup : proxySupplied.registry.contracts.Nodup := by decide
  have clean : ∀ path ∈ toRecords.output, path.Clean := by
    rintro path ⟨⟩
    rw [File.Path.Clean]
    decide
  obtain ⟨s', succeeds⟩ := run_toRecords
  have hall := run_allOrNothing nodup clean
  rw [succeeds] at hall
  obtain ⟨text, record, hlists, hwrites⟩ := hall
  exact ⟨s', text, record, nodup, clean, succeeds, hlists, hwrites⟩

end Deployment

end Rollout
