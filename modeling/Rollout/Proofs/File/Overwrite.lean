import Rollout.Proofs.File.Directories

/-!
# Writing to a file that is there

Where a path leads to a file, the directory in which the path ends is there (`locate_parent`), so
making directories changes nothing (`makeDirectories_of_directory`), and the file can be written
whatever it is to hold (`write_of_read`).
-/

namespace Rollout.File.Tree

variable {tree : Tree} {path : Path} {place start above : Place} {names : List String}
  {text : String} {content : Octets}

/-! ## Following the names of a path -/

/-- The place from which the names of a path are followed. -/
def startOf (path : Path) : Place := if path.root = "" then [] else ["/"]

theorem at?_startOf (tree : Tree) (path : Path) : tree.at? (startOf path) = some .directory := by
  rw [startOf]
  split <;> rfl

/-- Names that lead nowhere can be left out. -/
theorem follow_idle {idle : List String} (hstart : tree.at? start = some .directory)
    (hidle : ∀ name ∈ idle, name = "" ∨ name = ".") (names : List String) :
    tree.follow start (idle ++ names) = tree.follow start names := by
  induction idle with
  | nil => rfl
  | cons name rest ih =>
    have henter : enter start name = .ok start := if_pos (hidle name List.mem_cons_self)
    rw [List.cons_append, follow, hstart, henter]
    exact ih fun other hother => hidle other (List.mem_cons_of_mem _ hother)

/-- The way to a place leads through a directory. -/
theorem follow_concat {name : String} (h : tree.follow start (names ++ [name]) = .ok place) :
    ∃ above, tree.follow start names = .ok above ∧ tree.at? above = some .directory := by
  induction names generalizing start with
  | nil =>
    obtain ⟨hstart, -⟩ := follow_cons_eq_ok_iff.1 h
    exact ⟨start, rfl, hstart⟩
  | cons first rest ih =>
    obtain ⟨hstart, entered, henter, hrest⟩ := follow_cons_eq_ok_iff.1 h
    obtain ⟨above, habove, hat⟩ := ih hrest
    exact ⟨above, follow_cons_eq_ok_iff.2 ⟨hstart, entered, henter, habove⟩, hat⟩

/-! ## Locating a path -/

/-- A text that leads to a place has no NUL and is short enough. -/
theorem admits_of_locate (h : tree.locate text = .ok place) :
    '\x00' ∉ text.toList ∧ text ≠ "" ∧ text.utf8ByteSize < textLimit := by
  rw [locate] at h
  split at h
  · cases h
  · next hnull =>
    split at h
    · cases h
    · next hempty =>
      split at h
      · cases h
      · next hlimit => exact ⟨by simpa using hnull, hempty, Nat.lt_of_not_le hlimit⟩

/-- A path leads where its names lead. -/
theorem locate_text (h : path.Spelled) (hclean : path.Clean)
    (hlimit : path.text.utf8ByteSize < textLimit) : tree.locate path.text =
      (tree.follow (startOf path) path.names).mapError fun trouble => .file ⟨trouble, path.text⟩ := by
  obtain ⟨idle, hidle, hsplit⟩ := h.splitAll_text
  have hnull : path.text.toList.contains '\x00' = false := by
    rw [Path.Clean] at hclean
    simpa using hclean
  have hstart : (if path.text.toList.head? = some '/' then ["/"] else []) = startOf path := by
    rw [startOf]
    by_cases hroot : path.root = ""
    · rw [if_pos hroot, if_neg fun hhead => h.head?_text.1 hhead hroot]
    · rw [if_neg hroot, if_pos (h.head?_text.2 hroot)]
  have hnames : (Text.splitAll '/' path.text.toList).map String.ofList =
      idle.map String.ofList ++ path.names := by
    rw [hsplit, List.map_append, List.map_map]
    simp
  rw [locate, hnull, if_neg Bool.false_ne_true, if_neg path.text_ne_empty,
    if_neg (Nat.not_le_of_lt hlimit)]
  dsimp only
  rw [hstart, hnames, follow_idle (at?_startOf tree path)]
  intro name hname
  obtain ⟨part, hpart, rfl⟩ := List.mem_map.1 hname
  rcases hidle part hpart with rfl | rfl
  · exact Or.inl rfl
  · exact Or.inr rfl

/-- Where a path leads to a place, the directory in which the path ends is there. -/
theorem locate_parent (h : path.Spelled) (hlocate : tree.locate path.text = .ok place) :
    ∃ above, tree.locate path.parent.text = .ok above ∧ tree.at? above = some .directory := by
  obtain ⟨hclean, -, hlimit⟩ := admits_of_locate hlocate
  have habove : path.parent.IsAbove path := ⟨rfl, List.prefix_rfl⟩
  have hlimit' : path.parent.text.utf8ByteSize < textLimit :=
    Nat.lt_of_le_of_lt habove.utf8ByteSize_le hlimit
  rw [locate_text h hclean hlimit] at hlocate
  rw [locate_text (habove.spelled h) (habove.clean hclean) hlimit']
  have hfollow : tree.follow (startOf path) path.names = .ok place := by
    cases hfound : tree.follow (startOf path) path.names with
    | error trouble => rw [hfound] at hlocate; cases hlocate
    | ok found => rw [hfound] at hlocate; cases hlocate; rfl
  have hway : ∃ above, tree.follow (startOf path) path.names.dropLast = .ok above ∧
      tree.at? above = some .directory := by
    rcases List.eq_nil_or_concat path.names with hnil | ⟨init, last, hnames⟩
    · rw [hnil]
      exact ⟨startOf path, rfl, at?_startOf tree path⟩
    · rw [hnames, List.concat_eq_append] at hfollow ⊢
      rw [List.dropLast_concat]
      exact follow_concat hfollow
  obtain ⟨above, hto, hat⟩ := hway
  refine ⟨above, ?_, hat⟩
  show (tree.follow (startOf path) path.names.dropLast).mapError _ = _
  rw [hto]
  rfl

/-! ## Directories that are there -/

theorem makeDirectory_of_directory (hlocate : tree.locate text = .ok place)
    (hat : tree.at? place = some .directory) :
    tree.makeDirectory text = .error (.file ⟨.present, text⟩) := by
  rw [makeDirectory, hlocate]
  simp only [bind, Except.bind, hat]

theorem settle_of_directory (hlocate : tree.locate text = .ok place)
    (hat : tree.at? place = some .directory) :
    makeDirectories.settle tree text = (.ok (), tree) := by
  have hlook : tree.look text = .ok .directory := by
    rw [look, hlocate]
    simp only [bind, Except.bind, hat]
    rfl
  have hholds : tree.holdsDirectory text = .ok true := by
    rw [holdsDirectory, holds, hlook]
    rfl
  rw [makeDirectories.settle, makeDirectory_of_directory hlocate hat]
  simp only [hholds]

/-- Making a directory that is there changes nothing. -/
theorem makeDirectories_of_directory (hlocate : tree.locate path.text = .ok place)
    (hat : tree.at? place = some .directory) :
    tree.makeDirectories path.root path.names = (.ok (), tree) := by
  have hsettle := settle_of_directory hlocate hat
  obtain ⟨root, names⟩ := path
  rw [makeDirectories]
  rcases List.eq_nil_or_concat names with rfl | ⟨init, last, rfl⟩
  · exact hsettle
  · have htext : (Path.mk root (init.concat last)).text =
        (Path.mk root (init.reverse.reverse ++ [last])).text := by simp
    have hmake := makeDirectory_of_directory hlocate hat
    rw [htext] at hmake hsettle
    rw [List.concat_eq_append, List.reverse_append, List.reverse_singleton, List.singleton_append,
      makeDirectories.go]
    simp only [hmake]
    exact hsettle

/-! ## Files that are there -/

theorem look_eq_ok {node : Node} (h : tree.look text = .ok node) : ∃ place,
    tree.locate text = .ok place ∧ tree.at? place = some node := by
  obtain ⟨place, hlocate, hlook⟩ := except_bind_eq_ok.1 h
  refine ⟨place, hlocate, ?_⟩
  split at hlook
  · next found hat =>
    cases hlook
    exact hat
  · cases hlook

theorem read_eq_ok (h : tree.read text = .ok content) : ∃ place,
    tree.locate text = .ok place ∧ tree.at? place = some (.file content) := by
  obtain ⟨node, hlook, hread⟩ := except_bind_eq_ok.1 h
  cases node with
  | directory => cases hread
  | file octets =>
    cases hread
    exact look_eq_ok hlook

/-- A file that can be read can be written, and no directory is made for it. -/
theorem write_of_read (h : path.Spelled) (hread : tree.read path.text = .ok content)
    (other : Octets) :
    tree.makeDirectories path.parent.root path.parent.names = (.ok (), tree) ∧
      ∃ tree', tree.write path.text other = .ok tree' := by
  obtain ⟨place, hlocate, hat⟩ := read_eq_ok hread
  obtain ⟨above, hlocate', hat'⟩ := locate_parent h hlocate
  refine ⟨makeDirectories_of_directory hlocate' hat', tree.put place (.file other), ?_⟩
  rw [write, hlocate]
  simp only [bind, Except.bind, hat]
  rfl

end Rollout.File.Tree
