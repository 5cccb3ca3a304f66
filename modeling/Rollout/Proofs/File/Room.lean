import Rollout.Proofs.File.Way

/-!
# Room for a file

A file can be written at a path, and the directories above it made, just if there is room for it: the
path is not too long, no file stands where it needs a directory, and no directory stands or has to be
made where it needs a file (`writes_iff_hasRoom`). It does not matter how many of the directories are
there already.
-/

namespace Rollout.File.Tree

variable {tree tree' mid : Tree} {path parent : Path} {place : Place} {text : String}
  {content : Octets}

/-- There is room for a file at a path. -/
structure HasRoom (tree : Tree) (path : Path) : Prop where
  /-- The path is not too long. -/
  short : Short path
  /-- No file stands where the path needs a directory. -/
  above : ∀ parent : Path, parent.IsAbove path →
    ∀ content, tree.at? (placeOf parent) ≠ some (.file content)
  /-- No directory stands where the path needs a file. -/
  here : tree.at? (placeOf path) ≠ some .directory
  /-- The path needs no directory where it needs a file, as one does that goes up and down again. -/
  apart : ∀ parent : Path, parent.IsAbove path → placeOf parent ≠ placeOf path

/-! ## Making one directory -/

theorem makeDirectory_of_locate (hlocate : tree.locate text = .ok place)
    (hnone : tree.at? place = none) :
    tree.makeDirectory text = .ok (tree.put place .directory) := by
  rw [makeDirectory, hlocate]
  simp only [bind, Except.bind, hnone]
  rfl

/-- Where a text leads to a place without a file, a directory stands once it is made. -/
theorem settle_of_locate (hlocate : tree.locate text = .ok place)
    (hfree : ∀ content, tree.at? place ≠ some (.file content)) : ∃ made,
      makeDirectories.settle tree text = (.ok (), made) ∧ made.at? place = some .directory := by
  cases hat : tree.at? place with
  | none =>
    refine ⟨tree.put place .directory, ?_, ?_⟩
    · rw [makeDirectories.settle, makeDirectory_of_locate hlocate hat]
    · exact at?_put_same (isGround_eq_false (by rw [hat]; simp))
  | some found =>
    cases found with
    | file content => exact absurd hat (hfree content)
    | directory => exact ⟨tree, settle_of_directory hlocate hat, hat⟩

/-- Where directories stand above a path, and no file at it, directories stand all the way once the
last one is made. -/
theorem settle_of_above (hspelled : path.Spelled) (hclean : path.Clean) (hshort : Short path)
    (habove : ∀ parent : Path, parent.IsAbove path → tree.at? (placeOf parent) = some .directory)
    (hfree : ∀ content, tree.at? (placeOf path) ≠ some (.file content)) :
    ∃ made, makeDirectories.settle tree path.text = (.ok (), made) ∧
      ∀ front, front <+: path.names → made.at? (placeOf ⟨path.root, front⟩) = some .directory := by
  have hlocate : tree.locate path.text = .ok (placeOf path) :=
    (locate_eq_ok_iff hspelled hclean).2 ⟨rfl, hshort, habove⟩
  obtain ⟨made, hsettle, hmade⟩ := settle_of_locate hlocate hfree
  have hadds : AddsDirectories (fun _ => True) tree made := by
    have h : AddsDirectories (fun _ => True) tree (makeDirectories.settle tree path.text).2 :=
      settle_adds trivial tree
    rwa [hsettle] at h
  refine ⟨made, hsettle, fun front hfront => ?_⟩
  rcases prefix_iff_dropLast.1 hfront with rfl | hfront
  · exact hmade
  · exact hadds.directory_kept _ (habove ⟨path.root, front⟩ ⟨rfl, hfront⟩)

/-! ## Making the directories on the way -/

/-- Where the text of a directory can be followed, this directory is all that is made. -/
theorem go_of_locate {root name : String} {rest : List String}
    (hlocate : tree.locate (Path.mk root (rest.reverse ++ [name])).text = .ok place) :
    makeDirectories.go root (name :: rest) tree =
      makeDirectories.settle tree (Path.mk root (rest.reverse ++ [name])).text := by
  rw [makeDirectories.go, makeDirectories.settle, makeDirectory, hlocate]
  simp only [bind, Except.bind]
  cases tree.at? place <;> rfl

/-- Where something on the way to a directory is missing, the directories on the way are made first. -/
theorem go_of_missing {root name : String} {rest : List String}
    (hlocate : tree.locate (Path.mk root (rest.reverse ++ [name])).text =
      .error (.file ⟨.missing, (Path.mk root (rest.reverse ++ [name])).text⟩))
    (hgo : makeDirectories.go root rest tree = (.ok (), mid)) :
    makeDirectories.go root (name :: rest) tree =
      makeDirectories.settle mid (Path.mk root (rest.reverse ++ [name])).text := by
  rw [makeDirectories.go, makeDirectory, hlocate]
  simp only [bind, Except.bind, hgo]

/-- Where no file is in the way, directories stand all the way once they are made. -/
theorem go_of_open {root : String} {names : List String}
    (hspelled : (Path.mk root names).Spelled) (hclean : (Path.mk root names).Clean)
    (hshort : Short ⟨root, names⟩)
    (hopen : ∀ front, front <+: names →
      ∀ content, tree.at? (placeOf ⟨root, front⟩) ≠ some (.file content)) :
    ∃ made, makeDirectories.go root names.reverse tree = (.ok (), made) ∧
      ∀ front, front <+: names → made.at? (placeOf ⟨root, front⟩) = some .directory := by
  induction names using List.reverseRecOn with
  | nil =>
    refine settle_of_above hspelled hclean hshort ?_ (hopen [] List.prefix_rfl)
    rintro ⟨_, front⟩ ⟨rfl, hfront⟩
    obtain rfl := List.prefix_nil.1 hfront
    exact at?_startOf tree _
  | append_singleton names name ih =>
    have hlast : Path.IsAbove ⟨root, names⟩ ⟨root, names ++ [name]⟩ :=
      ⟨rfl, prefix_dropLast_concat names name⟩
    have hbefore : ∀ front, front <+: names → front <+: names ++ [name] := fun front hfront =>
      hfront.trans (List.prefix_append names [name])
    have hpath : Path.mk root (names.reverse.reverse ++ [name]) = ⟨root, names ++ [name]⟩ := by
      rw [List.reverse_reverse]
    have hfree := hopen (names ++ [name]) List.prefix_rfl
    rw [List.reverse_concat]
    cases hlocate : tree.locate (Path.mk root (names ++ [name])).text with
    | ok place =>
      obtain ⟨-, -, habove⟩ := (locate_eq_ok_iff hspelled hclean).1 hlocate
      rw [go_of_locate (hpath ▸ hlocate), hpath]
      exact settle_of_above hspelled hclean hshort habove hfree
    | error fault =>
      obtain ⟨made, hgo, hmade⟩ := ih (hlast.spelled hspelled) (hlast.clean hclean)
        (hshort.above hlast) fun front hfront => hopen front (hbefore front hfront)
      have hmissing : fault = .file ⟨.missing, (Path.mk root (names ++ [name])).text⟩ := by
        rcases locate_eq_error_of_short hspelled hclean hshort hlocate with
          hmissing | ⟨-, ⟨_, front⟩, ⟨rfl, hfront⟩, content, hfile⟩
        · exact hmissing
        · rw [List.dropLast_concat] at hfront
          exact absurd hfile (hopen front (hbefore front hfront) content)
      have hadds : AddsDirectories (fun _ => True) tree made := by
        have h : AddsDirectories (fun _ => True) tree
            (makeDirectories.go root names.reverse tree).2 :=
          go_adds (fun _ _ _ => trivial) tree
        rwa [hgo] at h
      rw [hmissing] at hlocate
      rw [go_of_missing (hpath ▸ hlocate) hgo, hpath]
      refine settle_of_above hspelled hclean hshort ?_ ?_
      · rintro ⟨_, front⟩ ⟨rfl, hfront⟩
        rw [List.dropLast_concat] at hfront
        exact hmade front hfront
      · exact fun content hfile => hfree content ((hadds.file_iff _ content).1 hfile)

/-- The directories above a path in which there is room for a file can be made, and then they stand. -/
theorem makeDirectories_of_hasRoom (h : tree.HasRoom path) (hspelled : path.Spelled)
    (hclean : path.Clean) :
    ∃ made, tree.makeDirectories path.parent.root path.parent.names = (.ok (), made) ∧
      ∀ parent : Path, parent.IsAbove path → made.at? (placeOf parent) = some .directory := by
  have hparent : path.parent.IsAbove path := ⟨rfl, List.prefix_rfl⟩
  obtain ⟨made, hgo, hmade⟩ := go_of_open (hparent.spelled hspelled) (hparent.clean hclean)
    (h.short.above hparent) fun front hfront => h.above ⟨path.root, front⟩ ⟨rfl, hfront⟩
  refine ⟨made, hgo, ?_⟩
  rintro ⟨_, front⟩ ⟨rfl, hfront⟩
  exact hmade front hfront

/-! ## Writing the file -/

/-- Where directories stand above a path that is not too long, and none at it, a file can be written. -/
theorem write_of_above (hspelled : path.Spelled) (hclean : path.Clean) (hshort : Short path)
    (habove : ∀ parent : Path, parent.IsAbove path → tree.at? (placeOf parent) = some .directory)
    (hhere : tree.at? (placeOf path) ≠ some .directory) (content : Octets) :
    tree.write path.text content = .ok (tree.put (placeOf path) (.file content)) := by
  have hlocate : tree.locate path.text = .ok (placeOf path) :=
    (locate_eq_ok_iff hspelled hclean).2 ⟨rfl, hshort, habove⟩
  rw [write, hlocate]
  simp only [bind, Except.bind]
  cases hat : tree.at? (placeOf path) with
  | none => rfl
  | some found =>
    cases found with
    | file old => rfl
    | directory => exact absurd hat hhere

/-- A file that could be written stands at the place of its path, in directories that stand all the
way. -/
theorem write_leaves (hspelled : path.Spelled) (hclean : path.Clean)
    (h : mid.write path.text content = .ok tree') :
    tree' = mid.put (placeOf path) (.file content) ∧ Short path ∧
      mid.at? (placeOf path) ≠ some .directory ∧
      ∀ parent : Path, parent.IsAbove path → mid.at? (placeOf parent) = some .directory := by
  obtain ⟨place, hlocate, hhere, rfl⟩ := write_eq_ok h
  obtain ⟨rfl, hshort, habove⟩ := (locate_eq_ok_iff hspelled hclean).1 hlocate
  exact ⟨rfl, hshort, hhere, habove⟩

/-- A directory that was made above a path stands at the place of a path above it. -/
theorem exists_isAbove_of_made (hspelled : path.Spelled) (hclean : path.Clean)
    (h : MadeDirectory path.TextAbove tree tree' place) :
    ∃ parent : Path, parent.IsAbove path ∧ placeOf parent = place := by
  obtain ⟨-, -, _, ⟨parent, habove, rfl⟩, hlocate⟩ := h
  obtain ⟨rfl, -, -⟩ := (locate_eq_ok_iff (habove.spelled hspelled) (habove.clean hclean)).1 hlocate
  exact ⟨parent, habove, rfl⟩

/-- A file can be written at a path, once the directories above it are made, just if there is room for
it. -/
theorem writes_iff_hasRoom (hspelled : path.Spelled) (hclean : path.Clean) (content : Octets) :
    (∃ made tree', tree.makeDirectories path.parent.root path.parent.names = (.ok (), made) ∧
      made.write path.text content = .ok tree') ↔ tree.HasRoom path := by
  have hadds := makeDirectories_adds path tree
  constructor
  · rintro ⟨made, tree', hmake, hwrite⟩
    rw [hmake] at hadds
    obtain ⟨-, hshort, hhere, habove⟩ := write_leaves hspelled hclean hwrite
    refine ⟨hshort, fun parent hparent content hfile => ?_, fun hdirectory => ?_,
      fun parent hparent hsame => ?_⟩
    · have hkept := (hadds.file_iff _ _).2 hfile
      rw [habove parent hparent] at hkept
      cases hkept
    · exact hhere (hadds.directory_kept _ hdirectory)
    · exact hhere (hsame ▸ habove parent hparent)
  · intro hroom
    obtain ⟨made, hmake, habove⟩ := makeDirectories_of_hasRoom hroom hspelled hclean
    rw [hmake] at hadds
    have hhere : made.at? (placeOf path) ≠ some .directory := by
      rcases hadds (placeOf path) with hsame | hmade
      · rw [hsame]
        exact hroom.here
      · obtain ⟨parent, hparent, hplace⟩ := exists_isAbove_of_made hspelled hclean hmade
        exact absurd hplace (hroom.apart parent hparent)
    exact ⟨made, _, hmake, write_of_above hspelled hclean hroom.short habove hhere content⟩

end Rollout.File.Tree
