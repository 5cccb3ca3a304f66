import Rollout.Proofs.File.Overwrite
import Rollout.Proofs.Registry.Resolve

/-!
# What publishing changes

A registry is published in one step that comes last: either it is all in the output, or it is all in
the file (`publish_stores`), or nothing is written, and then no more than directories above the file
were made (`publish_eq_error`).
-/

namespace Rollout.Registry

open File File.Tree

variable {path : Path} {content : String} {entries : List RegistryEntry} {s s' : Session}
  {fault : Fault}

/-- What writing a file does, in terms of the tree of files. -/
theorem writeFile_eq (path : Path) (content : String) (s : Session) : writeFile path content s =
    match s.files.makeDirectories path.parent.root path.parent.names with
    | (.error fault, made) => .error fault { s with files := made }
    | (.ok (), made) =>
      match made.write path.text (Utf8.encode content) with
      | .error fault => .error fault { s with files := made }
      | .ok files => .ok () { s with files } := by
  have hget : (get : Action Session) s = .ok s s := rfl
  rw [writeFile, Action.bind_of_ok hget]
  dsimp only
  cases s.files.makeDirectories path.parent.root path.parent.names with
  | mk result made =>
    refine (Action.bind_of_ok rfl).trans ?_
    cases result with
    | error fault => rfl
    | ok _ =>
      refine (Action.bind_of_ok rfl).trans ?_
      dsimp only
      cases made.write path.text (Utf8.encode content) with
      | error fault => rfl
      | ok files => rfl

theorem writeFile_of_ok {made files : Tree}
    (hmake : s.files.makeDirectories path.parent.root path.parent.names = (.ok (), made))
    (hwrite : made.write path.text (Utf8.encode content) = .ok files) :
    writeFile path content s = .ok () { s with files } := by
  rw [writeFile_eq, hmake]
  simp only [hwrite]

theorem writeFile_of_error {made : Tree}
    (hmake : s.files.makeDirectories path.parent.root path.parent.names = (.error fault, made)) :
    writeFile path content s = .error fault { s with files := made } := by
  rw [writeFile_eq, hmake]

theorem writeFile_eq_ok (h : writeFile path content s = .ok () s') : ∃ made files,
    s.files.makeDirectories path.parent.root path.parent.names = (.ok (), made) ∧
      made.write path.text (Utf8.encode content) = .ok files ∧ s' = { s with files } := by
  rw [writeFile_eq] at h
  split at h
  · cases h
  · next made hmake =>
    split at h
    · cases h
    · next files hwrite =>
      cases h
      exact ⟨made, files, hmake, hwrite, rfl⟩

/-- A file that is written is stored. -/
theorem writeFile_stores (h : writeFile path content s = .ok () s') :
    Stores path (Utf8.encode content) s.files s'.files ∧ s'.output = s.output := by
  obtain ⟨made, files, hmake, hwrite, rfl⟩ := writeFile_eq_ok h
  have hadds := makeDirectories_adds path s.files
  rw [hmake] at hadds
  exact ⟨stores_of_write hadds hwrite, rfl⟩

/-- If a file cannot be written, directories above it were made at most. -/
theorem writeFile_eq_error (hclean : path.Clean) (h : writeFile path content s = .error fault s') :
    (∃ problem, fault = .file problem) ∧
      AddsDirectories path.TextAbove s.files s'.files ∧ s'.output = s.output := by
  have hadds := makeDirectories_adds path s.files
  rw [writeFile_eq] at h
  split at h
  · next other made hmake =>
    rw [hmake] at hadds
    cases h
    have hfault : (s.files.makeDirectories path.parent.root path.parent.names).1 = .error fault := by
      rw [hmake]
    exact ⟨makeDirectories_eq_error hclean hfault, hadds, rfl⟩
  · next made hmake =>
    rw [hmake] at hadds
    split at h
    · next other hwrite =>
      cases h
      exact ⟨write_eq_error hclean hwrite, hadds, rfl⟩
    · cases h

/-- A file can be written at a path. -/
def CanWrite (path : Path) (s : Session) : Prop := ∃ s', writeFile path "" s = .ok () s'

/-- Whether a file can be written at a path is for the files to say, and not for what it is to
hold. -/
theorem CanWrite.writeFile {mid : Session} (h : CanWrite path s) (hfiles : mid.files = s.files)
    (content : String) : ∃ s', Registry.writeFile path content mid = .ok () s' := by
  obtain ⟨s', hwrite⟩ := h
  obtain ⟨made, files, hmake, hfile, -⟩ := writeFile_eq_ok hwrite
  obtain ⟨files', hfile'⟩ := write_of_write hfile (Utf8.encode content)
  exact ⟨_, writeFile_of_ok (hfiles ▸ hmake) hfile'⟩

/-- A file can be written where one can be read. -/
theorem canWrite_of_read {octets : Octets} (hspelled : path.Spelled)
    (h : s.files.read path.text = .ok octets) : CanWrite path s := by
  obtain ⟨hmake, files, hwrite⟩ := write_of_read hspelled h (Utf8.encode "")
  exact ⟨_, writeFile_of_ok hmake hwrite⟩

theorem publish_of_writeFile (h : writeFile path (write entries) s = .ok () s') :
    publish entries (some path) s = .ok ()
      { s' with notices := s'.notices ++ ("(i) Registry written to " ++ path.text ++ "!" ++ "\n") } :=
  Action.bind_of_ok (Action.tryCatch_of_ok h)

theorem writeFile_of_publish (h : publish entries (some path) s = .ok () s') :
    ∃ mid, writeFile path (write entries) s = .ok () mid ∧
      s' = { mid with
        notices := mid.notices ++ ("(i) Registry written to " ++ path.text ++ "!" ++ "\n") } := by
  cases hfile : writeFile path (write entries) s with
  | ok _ mid =>
    have e := (publish_of_writeFile hfile).symm.trans h
    cases e
    exact ⟨mid, rfl, rfl⟩
  | error fault mid =>
    obtain ⟨_, _, hnaming, -⟩ := Action.bind_eq_ok.1 h
    have e := (Action.tryCatch_of_error hfile).symm.trans hnaming
    cases fault <;> cases e

/-- A registry that is published to a file is stored there. -/
theorem publish_stores (h : publish entries (some path) s = .ok () s') :
    Stores path (Utf8.encode (write entries)) s.files s'.files ∧ s'.output = s.output := by
  obtain ⟨mid, hfile, rfl⟩ := writeFile_of_publish h
  have hstores := writeFile_stores hfile
  exact hstores

/-- If a registry cannot be published, it is because the file cannot be written, and directories
above the file were made at most. -/
theorem publish_eq_error (hclean : path.Clean)
    (h : publish entries (some path) s = .error fault s') :
    (∃ text, fault = .deployment (.registryUnwritable path.text text) none) ∧
      AddsDirectories path.TextAbove s.files s'.files ∧ s'.output = s.output := by
  cases hfile : writeFile path (write entries) s with
  | ok _ mid =>
    have e := (publish_of_writeFile hfile).symm.trans h
    cases e
  | error first mid =>
    obtain ⟨⟨problem, rfl⟩, hadds, houtput⟩ := writeFile_eq_error hclean hfile
    have hnaming : namingFile path (writeFile path (write entries)) s =
        .error (.deployment (.registryUnwritable path.text problem.message) none) mid :=
      Action.tryCatch_of_error hfile
    have e : _ = EStateM.Result.error fault s' :=
      (Action.bind_of_error hnaming).symm.trans h
    cases e
    exact ⟨⟨problem.message, rfl⟩, hadds, houtput⟩

end Rollout.Registry
