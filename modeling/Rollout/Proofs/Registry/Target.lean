import Rollout.Proofs.File.Room
import Rollout.Proofs.Registry.Publish
import Rollout.Proofs.Registry.RoundTrip

/-!
# The target of a registry

Lines that are published to a path change nothing but the file there (`publish_target`). If
there is room for the file, it holds just the sorted lines afterwards, whatever it held before, and the
directories above it stand. If there is none, it is told at which path the registry cannot be written;
then all files are as before, and directories above the path were made at most.
-/

namespace Rollout.Registry

open File File.Tree

variable {path : Path} {content : String} {entries : List RegistryEntry} {s s' : Session}
  {fault : Fault}

/-! ## The sorted lines -/

theorem variableName_le {a b : Contract} (h : a.rank ≤ b.rank) : a.variableName ≤ b.variableName := by
  rcases Nat.lt_or_eq_of_le h with hlt | heq
  · exact Std.le_of_lt (Contract.variableName_lt hlt)
  · obtain rfl := Contract.rank_injective heq
    exact Std.le_refl _

/-- A text has one line for each entry, in the order of the names of the variables; the lines of one
variable keep their order. -/
structure HoldsLines (entries sorted : List RegistryEntry) (text : String) : Prop where
  perm : sorted.Perm entries
  ordered : sorted.Pairwise fun a b => a.contract.variableName ≤ b.contract.variableName
  stable : ∀ contract, sorted.filter (fun entry => entry.contract = contract) =
    entries.filter fun entry => entry.contract = contract
  lines : text = String.join (sorted.map fun entry =>
    entry.contract.variableName ++ "=" ++ entry.address ++ "\n")

theorem holdsLines_write (entries : List RegistryEntry) :
    HoldsLines entries (sortEntries entries) (write entries) where
  perm := List.mergeSort_perm entries _
  ordered := (Contract.pairwise_rank RegistryEntry.contract entries).imp fun h =>
    variableName_le (of_decide_eq_true h)
  stable := filter_mergeSort RegistryEntry.contract entries
  lines := rfl

/-! ## The ways that writing ends -/

/-- What is left when lines are published to a file. -/
structure Written (entries : List RegistryEntry) (path : Path) (s s' : Session) : Prop where
  /-- The path leads to a file that holds the sorted lines. -/
  file : ∃ sorted text, HoldsLines entries sorted text ∧
    s'.files.locate path.text = .ok (placeOf path) ∧
    s'.files.at? (placeOf path) = some (.file (Utf8.encode text))
  /-- Every directory above the path stands. -/
  above : ∀ parent : Path, parent.IsAbove path →
    s'.files.locate parent.text = .ok (placeOf parent) ∧
      s'.files.at? (placeOf parent) = some .directory
  /-- Every other file is as before. -/
  others : ∀ place, place ≠ placeOf path → ∀ octets,
    s'.files.at? place = some (.file octets) ↔ s.files.at? place = some (.file octets)
  /-- Nothing else is new but directories above the path. -/
  directories : ∀ place, place ≠ placeOf path → s'.files.at? place = s.files.at? place ∨
    MadeDirectory path.TextAbove s.files s'.files place
  /-- Apart from the files, it is told that the registry is written. -/
  rest : s' = { s with
    files := s'.files
    notices := s.notices ++ ("(i) Registry written to " ++ path.text ++ "!" ++ "\n") }

/-- What is left when lines cannot be published to a file. -/
structure Unwritten (path : Path) (fault : Fault) (s s' : Session) : Prop where
  /-- It is told at which path the registry cannot be written, and no contract is blamed. -/
  told : ∃ problem : Problem,
    fault = .deployment (.registryUnwritable path.text problem.message) none
  /-- Every file is as before. -/
  files : ∀ place octets,
    s'.files.at? place = some (.file octets) ↔ s.files.at? place = some (.file octets)
  /-- Nothing is new but directories above the path. -/
  directories : AddsDirectories path.TextAbove s.files s'.files
  /-- These are empty but for each other. -/
  empty : s.files.Closed → ∀ place, s.files.at? place = none →
    ∀ names octets, s'.files.at? (place ++ names) ≠ some (.file octets)
  /-- Apart from the files, nothing changes. -/
  rest : s' = { s with files := s'.files }

/-- A file that cannot be written changes nothing but the files. -/
theorem writeFile_error_rest (h : writeFile path content s = .error fault s') :
    s' = { s with files := s'.files } := by
  rw [writeFile_eq] at h
  split at h
  · cases h
    rfl
  · split at h
    · cases h
      rfl
    · cases h

theorem publish_of_problem {problem : Problem}
    (h : writeFile path (write entries) s = .error (.file problem) s') :
    publish entries (some path) s =
      .error (.deployment (.registryUnwritable path.text problem.message) none) s' := by
  have hnaming : namingFile path (writeFile path (write entries)) s =
      .error (.deployment (.registryUnwritable path.text problem.message) none) s' :=
    Action.tryCatch_of_error h
  exact Action.bind_of_error hnaming

/-- Where a file is written in directories that stand, the path leads to it and they still stand. -/
theorem locate_of_put {tree : Tree} (hspelled : path.Spelled) (hclean : path.Clean)
    (hshort : Short path) (hhere : tree.at? (placeOf path) ≠ some .directory)
    (habove : ∀ parent : Path, parent.IsAbove path → tree.at? (placeOf parent) = some .directory)
    (octets : Octets) :
    (tree.put (placeOf path) (.file octets)).locate path.text = .ok (placeOf path) ∧
      ∀ parent : Path, parent.IsAbove path →
        (tree.put (placeOf path) (.file octets)).locate parent.text = .ok (placeOf parent) ∧
          (tree.put (placeOf path) (.file octets)).at? (placeOf parent) = some .directory := by
  have hkept : ∀ parent : Path, parent.IsAbove path →
      (tree.put (placeOf path) (.file octets)).at? (placeOf parent) = some .directory := by
    intro parent hparent
    have hdirectory := habove parent hparent
    have hne : placeOf parent ≠ placeOf path := fun hsame => hhere (hsame ▸ hdirectory)
    rw [at?_put_other hne]
    exact hdirectory
  refine ⟨(locate_eq_ok_iff hspelled hclean).2 ⟨rfl, hshort, hkept⟩, fun parent hparent => ?_⟩
  refine ⟨?_, hkept parent hparent⟩
  rw [locate_eq_ok_iff (hparent.spelled hspelled) (hparent.clean hclean)]
  exact ⟨rfl, hshort.above hparent, fun other hother => hkept other (hother.trans hparent)⟩

/-- A file that is written, once the directories above it are made, leaves what publishing is to
leave. -/
theorem written_of_write {made files : Tree} (hspelled : path.Spelled) (hclean : path.Clean)
    (hmake : s.files.makeDirectories path.parent.root path.parent.names = (.ok (), made))
    (hwrite : made.write path.text (Utf8.encode (write entries)) = .ok files) :
    ∃ s', publish entries (some path) s = .ok () s' ∧ Written entries path s s' := by
  have hadds := makeDirectories_adds path s.files
  rw [hmake] at hadds
  obtain ⟨_, hlocate, -, hother⟩ := stores_of_write hadds hwrite
  obtain ⟨rfl, hshort, hhere, habove⟩ := write_leaves hspelled hclean hwrite
  obtain ⟨hto, hdirectories⟩ := locate_of_put hspelled hclean hshort hhere habove
    (Utf8.encode (write entries))
  obtain rfl := Except.ok.inj (hlocate.symm.trans hto)
  have hfile : (made.put (placeOf path) (.file (Utf8.encode (write entries)))).at? (placeOf path) =
      some (.file (Utf8.encode (write entries))) := at?_put_same (isGround_eq_false hhere)
  refine ⟨_, publish_of_writeFile (writeFile_of_ok hmake hwrite),
    { file := ⟨_, _, holdsLines_write entries, hto, hfile⟩, above := hdirectories,
      others := ?others, directories := hother, rest := rfl }⟩
  intro place hne octets
  show (made.put (placeOf path) _).at? place = _ ↔ _
  rw [at?_put_other hne]
  exact hadds.file_iff place octets

/-- Where no file can be written, it is told that the registry cannot be, and nothing is left but
directories. -/
theorem unwritten_of_not_hasRoom (hspelled : path.Spelled) (hclean : path.Clean)
    (hroom : ¬ s.files.HasRoom path) :
    ∃ fault s', publish entries (some path) s = .error fault s' ∧ Unwritten path fault s s' := by
  cases hfile : writeFile path (write entries) s with
  | ok _ mid =>
    obtain ⟨made, files, hmake, hwrite, -⟩ := writeFile_eq_ok hfile
    have hsome := (writes_iff_hasRoom hspelled hclean _).1 ⟨made, files, hmake, hwrite⟩
    exact absurd hsome hroom
  | error first mid =>
    obtain ⟨⟨problem, rfl⟩, hadds, -⟩ := writeFile_eq_error hclean hfile
    refine ⟨_, mid, publish_of_problem hfile,
      { told := ⟨problem, rfl⟩, files := hadds.file_iff, directories := hadds, empty := ?empty,
        rest := writeFile_error_rest hfile }⟩
    intro hclosed place hnone
    exact hadds.not_file hclosed hnone

/-- **The target of a registry.** Lines that are published to a path are written to the file there if
there is room for it, and to nothing else; if there is none, no file changes. -/
theorem publish_target (entries : List RegistryEntry) {text : String}
    (clean : '\x00' ∉ text.toList) (s : Session) :
    match publish entries (some (.ofText text)) s with
    | .ok _ s' => s.files.HasRoom (.ofText text) ∧ Written entries (.ofText text) s s'
    | .error fault s' => ¬ s.files.HasRoom (.ofText text) ∧ Unwritten (.ofText text) fault s s' := by
  have hspelled := Path.spelled_ofText text
  have hclean := Path.clean_ofText clean
  by_cases hroom : s.files.HasRoom (.ofText text)
  · obtain ⟨made, files, hmake, hwrite⟩ :=
      (writes_iff_hasRoom hspelled hclean (Utf8.encode (write entries))).2 hroom
    obtain ⟨s', hpublish, hwritten⟩ := written_of_write hspelled hclean hmake hwrite
    rw [hpublish]
    exact ⟨hroom, hwritten⟩
  · obtain ⟨fault, s', hpublish, hunwritten⟩ :
        ∃ fault s', publish entries (some (.ofText text)) s = .error fault s' ∧
          Unwritten (.ofText text) fault s s' :=
      unwritten_of_not_hasRoom hspelled hclean hroom
    rw [hpublish]
    exact ⟨hroom, hunwritten⟩

/-- A session with a record from before, and a file beside it. -/
def recordedBefore : Session where
  files := ⟨[(["records"], .directory), (["records", "out.env"], .file [0x58]),
    (["notes"], .file [0x21])]⟩

/-- The record can be written again on a way that goes through a directory that is not there yet. -/
theorem publish_again (entries : List RegistryEntry) : ∃ s',
    publish entries (some (.ofText "new/../records/out.env")) recordedBefore = .ok () s' := by
  let made : Tree := ⟨[(["records"], .directory), (["records", "out.env"], .file [0x58]),
    (["notes"], .file [0x21]), (["new"], .directory)]⟩
  have hmake : recordedBefore.files.makeDirectories "" ["new", "..", "records"] = (.ok (), made) := by
    rfl
  have hwrite : made.write "new/../records/out.env" (Utf8.encode (write entries)) =
      .ok (made.put ["records", "out.env"] (.file (Utf8.encode (write entries)))) := by rfl
  exact ⟨_, publish_of_writeFile (writeFile_of_ok hmake hwrite)⟩

/-- No record can be written below a file. -/
theorem publish_below_file (entries : List RegistryEntry) : ∃ fault s',
    publish entries (some (.ofText "notes/out.env")) recordedBefore = .error fault s' := by
  have hmake : recordedBefore.files.makeDirectories "" ["notes"] =
      (.error (.file ⟨.present, "notes"⟩), recordedBefore.files) := by rfl
  have hwrite : writeFile (.ofText "notes/out.env") (write entries) recordedBefore =
      .error (.file ⟨.present, "notes"⟩) recordedBefore := writeFile_of_error hmake
  exact ⟨_, _, publish_of_problem hwrite⟩

theorem publish_target_of_recordedBefore :
    let entries : List RegistryEntry := [⟨.lightClientProxy, (Address.filled 0x22).text⟩,
      ⟨.hotShot, (Address.filled 0x11).text⟩]
    (∃ s', '\x00' ∉ "new/../records/out.env".toList ∧
      publish entries (some (.ofText "new/../records/out.env")) recordedBefore = .ok () s' ∧
      recordedBefore.files.HasRoom (.ofText "new/../records/out.env") ∧
      Written entries (.ofText "new/../records/out.env") recordedBefore s') ∧
    ∃ fault s', '\x00' ∉ "notes/out.env".toList ∧
      publish entries (some (.ofText "notes/out.env")) recordedBefore = .error fault s' ∧
      ¬ recordedBefore.files.HasRoom (.ofText "notes/out.env") ∧
      Unwritten (.ofText "notes/out.env") fault recordedBefore s' := by
  intro entries
  obtain ⟨s', hagain⟩ := publish_again entries
  obtain ⟨fault, s'', hbelow⟩ := publish_below_file entries
  have clean : '\x00' ∉ "new/../records/out.env".toList := by decide
  have clean' : '\x00' ∉ "notes/out.env".toList := by decide
  have hwritten := publish_target entries clean recordedBefore
  have hunwritten := publish_target entries clean' recordedBefore
  rw [hagain] at hwritten
  rw [hbelow] at hunwritten
  exact ⟨⟨s', clean, hagain, hwritten⟩, fault, s'', clean', hbelow, hunwritten⟩

end Rollout.Registry
