import Rollout.Proofs.File.Path
import Rollout.Proofs.File.Tree

/-!
# What writing a file changes

Before a file is written the directories on the way to it are made. However this goes, it adds
nothing but directories on the way, each where nothing stood (`makeDirectories_adds`), and no file
stands in one of them (`AddsDirectories.not_file`). If the file is written then, nothing else changes
(`stores_of_write`). With a path that has no NUL nothing can go wrong but a file operation
(`makeDirectories_eq_error`, `write_eq_error`).
-/

namespace Rollout.File

namespace Tree

variable {tree tree' mid : Tree} {place : Place} {text : String} {content : Octets} {fault : Fault}

/-! ## Adding directories -/

/-- A directory was made at a place: nothing stood there, and one of some texts leads there. -/
def MadeDirectory (texts : String → Prop) (tree tree' : Tree) (place : Place) : Prop :=
  tree.at? place = none ∧ tree'.at? place = some .directory ∧
    ∃ text, texts text ∧ tree'.locate text = .ok place

/-- A tree is another one with directories added where nothing stood, at places to which some texts
lead. -/
def AddsDirectories (texts : String → Prop) (tree tree' : Tree) : Prop :=
  ∀ place, tree'.at? place = tree.at? place ∨ MadeDirectory texts tree tree' place

/-- Whatever stands in a tree stands in a directory. -/
def Closed (tree : Tree) : Prop :=
  ∀ place name, tree.at? (place ++ [name]) ≠ none → tree.at? place = some .directory

/-- In a closed tree, directories stand all the way to whatever stands in it. -/
theorem Closed.above (h : tree.Closed) {names : List String} (hnames : names ≠ [])
    (hfound : tree.at? (place ++ names) ≠ none) : tree.at? place = some .directory := by
  induction names generalizing place with
  | nil => exact absurd rfl hnames
  | cons name rest ih =>
    cases rest with
    | nil => exact h place name hfound
    | cons next others =>
      have hnext : tree.at? (place ++ [name]) = some .directory := by
        refine ih (by simp) ?_
        rwa [List.append_assoc]
      exact h place name (by rw [hnext]; simp)

namespace AddsDirectories

variable {texts : String → Prop}

theorem refl (texts : String → Prop) (tree : Tree) : AddsDirectories texts tree tree :=
  fun _ => Or.inl rfl

theorem directory_kept (h : AddsDirectories texts tree tree') (place : Place)
    (hplace : tree.at? place = some .directory) : tree'.at? place = some .directory := by
  rcases h place with hsame | ⟨-, hmade, -⟩
  · exact hsame.trans hplace
  · exact hmade

theorem trans (h : AddsDirectories texts tree mid) (h' : AddsDirectories texts mid tree') :
    AddsDirectories texts tree tree' := by
  intro place
  rcases h' place with hsame | ⟨hnone, hmade, hway⟩
  · refine (h place).imp hsame.trans ?_
    rintro ⟨hnone, hmade, text, htext, hlocate⟩
    exact ⟨hnone, hsame.trans hmade, text, htext, locate_mono h'.directory_kept hlocate⟩
  · rcases h place with hsame | ⟨-, hfull, -⟩
    · exact Or.inr ⟨hsame ▸ hnone, hmade, hway⟩
    · rw [hfull] at hnone
      cases hnone

/-- A file stands where it stood, and with the same content. -/
theorem file_iff (h : AddsDirectories texts tree tree') (place : Place) (content : Octets) :
    tree'.at? place = some (.file content) ↔ tree.at? place = some (.file content) := by
  rcases h place with hsame | ⟨hnone, hmade, -⟩
  · rw [hsame]
  · rw [hnone, hmade]
    simp

/-- No file stands where nothing stood, nor below it: the directories that were added are empty but
for each other. -/
theorem not_file (h : AddsDirectories texts tree tree') (hclosed : tree.Closed)
    (hnone : tree.at? place = none) (names : List String) (content : Octets) :
    tree'.at? (place ++ names) ≠ some (.file content) := by
  intro hfile
  have hold := (h.file_iff _ _).1 hfile
  by_cases hnames : names = []
  · rw [hnames, List.append_nil, hnone] at hold
    cases hold
  · have hplace := hclosed.above hnames (by rw [hold]; simp)
    rw [hnone] at hplace
    cases hplace

end AddsDirectories

/-! ## Making directories -/

theorem makeDirectory_eq_ok (h : tree.makeDirectory text = .ok tree') : ∃ place,
    tree.locate text = .ok place ∧ tree.at? place = none ∧ tree' = tree.put place .directory := by
  obtain ⟨place, hlocate, hmake⟩ := except_bind_eq_ok.1 h
  refine ⟨place, hlocate, ?_⟩
  split at hmake
  · cases hmake
  · next hat =>
    cases hmake
    exact ⟨hat, rfl⟩

theorem makeDirectory_adds {texts : String → Prop} (htext : texts text)
    (h : tree.makeDirectory text = .ok tree') : AddsDirectories texts tree tree' := by
  obtain ⟨place, hlocate, hnone, rfl⟩ := makeDirectory_eq_ok h
  have hfree : tree.at? place ≠ some .directory := by rw [hnone]; simp
  intro other
  by_cases e : other = place
  · subst e
    have hmade : (tree.put other .directory).at? other = some .directory :=
      at?_put_same (isGround_eq_false hfree)
    exact Or.inr ⟨hnone, hmade, text, htext, locate_put hfree hlocate⟩
  · exact Or.inl (at?_put_other e)

theorem settle_adds {texts : String → Prop} (htext : texts text) (tree : Tree) :
    AddsDirectories texts tree (makeDirectories.settle tree text).2 := by
  rw [makeDirectories.settle]
  cases hmake : tree.makeDirectory text with
  | ok made => exact makeDirectory_adds htext hmake
  | error fault =>
    dsimp only
    split
    · split <;> exact .refl texts tree
    · exact .refl texts tree

theorem go_adds {texts : String → Prop} {root : String} {names : List String}
    (htexts : ∀ front back, names.reverse = front ++ back → texts (Path.mk root front).text)
    (tree : Tree) : AddsDirectories texts tree (makeDirectories.go root names tree).2 := by
  induction names generalizing tree with
  | nil => exact settle_adds (htexts [] [] rfl) tree
  | cons name rest ih =>
    have htext := htexts (rest.reverse ++ [name]) [] (by simp)
    have hrest : ∀ tree, AddsDirectories texts tree (makeDirectories.go root rest tree).2 := by
      refine ih fun front back e => htexts front (back ++ [name]) ?_
      rw [List.reverse_cons, e, List.append_assoc]
    rw [makeDirectories.go]
    split
    · next made hmake => exact makeDirectory_adds htext hmake
    · -- the directories before this one are made first
      have hbefore := hrest tree
      split
      · next fault made hgo => exact hgo ▸ hbefore
      · next made hgo =>
        rw [hgo] at hbefore
        exact hbefore.trans (settle_adds htext made)
    · exact settle_adds htext tree

/-- Making the directories above a path adds such directories, and nothing else. -/
theorem makeDirectories_adds (path : Path) (tree : Tree) :
    AddsDirectories path.TextAbove tree
      (tree.makeDirectories path.parent.root path.parent.names).2 := by
  refine go_adds (fun front back e => ⟨⟨path.root, front⟩, ⟨rfl, ?_⟩, rfl⟩) tree
  rw [List.reverse_reverse] at e
  exact ⟨back, e.symm⟩

/-! ## Storing a file -/

/-- A file with the given content stands where a path leads; nothing else changed, but directories
above the path may have been made. -/
def Stores (path : Path) (content : Octets) (tree tree' : Tree) : Prop :=
  ∃ place, tree'.locate path.text = .ok place ∧ tree'.at? place = some (.file content) ∧
    ∀ other, other ≠ place →
      tree'.at? other = tree.at? other ∨ MadeDirectory path.TextAbove tree tree' other

/-- A file that is written once the directories above it are made is stored. -/
theorem stores_of_write {path : Path} (hmade : AddsDirectories path.TextAbove tree mid)
    (h : mid.write path.text content = .ok tree') : Stores path content tree tree' := by
  obtain ⟨place, hlocate, hfree, rfl⟩ := write_eq_ok h
  refine ⟨place, locate_put hfree hlocate, at?_put_same (isGround_eq_false hfree), ?_⟩
  intro other hother
  have hsame : (mid.put place (.file content)).at? other = mid.at? other := at?_put_other hother
  refine (hmade other).imp hsame.trans ?_
  rintro ⟨hnone, hdirectory, text, htext, hway⟩
  exact ⟨hnone, hsame.trans hdirectory, text, htext, locate_put hfree hway⟩

/-- **Reading a file back.** What is stored is what is read. -/
theorem Stores.read {path : Path} (h : Stores path content tree tree') :
    tree'.read path.text = .ok content := by
  obtain ⟨place, hlocate, hat, -⟩ := h
  exact read_of_locate hlocate hat

/-- A file can be written where another one can: what it holds does not matter. -/
theorem write_of_write (h : tree.write text content = .ok tree') (other : Octets) :
    ∃ tree'', tree.write text other = .ok tree'' := by
  rw [write] at h ⊢
  cases hlocate : tree.locate text with
  | error fault =>
    rw [hlocate] at h
    cases h
  | ok place =>
    rw [hlocate] at h
    simp only [bind, Except.bind] at h ⊢
    split at h
    · cases h
    · exact ⟨_, rfl⟩

/-! ## What can go wrong -/

theorem locate_eq_error (hclean : '\x00' ∉ text.toList) (h : tree.locate text = .error fault) :
    ∃ problem, fault = .file problem := by
  rw [locate, if_neg (by simpa using hclean)] at h
  split at h
  · cases h
    exact ⟨_, rfl⟩
  · split at h
    · cases h
      exact ⟨_, rfl⟩
    · revert h
      dsimp only
      cases tree.follow _ _ with
      | error trouble =>
        intro h
        cases h
        exact ⟨_, rfl⟩
      | ok place =>
        intro h
        cases h

theorem look_eq_error (hclean : '\x00' ∉ text.toList) (h : tree.look text = .error fault) :
    ∃ problem, fault = .file problem := by
  rw [look] at h
  cases hlocate : tree.locate text with
  | error other =>
    rw [hlocate] at h
    cases h
    exact locate_eq_error hclean hlocate
  | ok place =>
    rw [hlocate] at h
    simp only [bind, Except.bind] at h
    split at h
    · cases h
    · cases h
      exact ⟨_, rfl⟩

theorem holds_eq_error (hclean : '\x00' ∉ text.toList) (h : tree.holds text = .error fault) :
    ∃ problem, fault = .file problem := by
  rw [holds] at h
  cases hlook : tree.look text with
  | ok node =>
    rw [hlook] at h
    cases h
  | error other =>
    obtain ⟨problem, rfl⟩ := look_eq_error hclean hlook
    rw [hlook] at h
    dsimp only at h
    split at h
    · cases h
    · cases h
      exact ⟨_, rfl⟩

theorem look_of_holds (h : tree.holds text = .ok true) : ∃ node, tree.look text = .ok node := by
  rw [holds] at h
  split at h
  · next node hlook => exact ⟨node, hlook⟩
  · cases h
  · split at h <;> cases h
  · cases h

theorem holdsDirectory_eq_error (hclean : '\x00' ∉ text.toList)
    (h : tree.holdsDirectory text = .error fault) : ∃ problem, fault = .file problem := by
  rw [holdsDirectory] at h
  cases hholds : tree.holds text with
  | error other =>
    rw [hholds] at h
    cases h
    exact holds_eq_error hclean hholds
  | ok found =>
    rw [hholds] at h
    cases found with
    | false => cases h
    | true =>
      obtain ⟨node, hlook⟩ := look_of_holds hholds
      simp only [bind, Except.bind, hlook] at h
      cases h

theorem makeDirectory_eq_error (hclean : '\x00' ∉ text.toList)
    (h : tree.makeDirectory text = .error fault) : ∃ problem, fault = .file problem := by
  rw [makeDirectory] at h
  cases hlocate : tree.locate text with
  | error other =>
    rw [hlocate] at h
    cases h
    exact locate_eq_error hclean hlocate
  | ok place =>
    rw [hlocate] at h
    simp only [bind, Except.bind] at h
    split at h
    · cases h
      exact ⟨_, rfl⟩
    · cases h

theorem settle_eq_error (hclean : '\x00' ∉ text.toList)
    (h : (makeDirectories.settle tree text).1 = .error fault) : ∃ problem, fault = .file problem := by
  rw [makeDirectories.settle] at h
  cases hmake : tree.makeDirectory text with
  | ok made =>
    rw [hmake] at h
    cases h
  | error first =>
    obtain ⟨problem, rfl⟩ := makeDirectory_eq_error hclean hmake
    rw [hmake] at h
    dsimp only at h
    split at h
    · cases h
    · cases h
      exact ⟨problem, rfl⟩
    · next other hholds =>
      cases h
      exact holdsDirectory_eq_error hclean hholds

theorem go_eq_error {root : String} {names : List String}
    (hclean : ∀ front back, names.reverse = front ++ back → (Path.mk root front).Clean)
    (h : (makeDirectories.go root names tree).1 = .error fault) : ∃ problem, fault = .file problem := by
  induction names generalizing tree with
  | nil => exact settle_eq_error (hclean [] [] rfl) h
  | cons name rest ih =>
    have hlast := hclean (rest.reverse ++ [name]) [] (by simp)
    have hrest : ∀ {tree : Tree}, (makeDirectories.go root rest tree).1 = .error fault →
        ∃ problem, fault = .file problem := by
      refine ih fun front back e => hclean front (back ++ [name]) ?_
      rw [List.reverse_cons, e, List.append_assoc]
    rw [makeDirectories.go] at h
    split at h
    · cases h
    · split at h
      · next other made hgo =>
        have hfirst : (makeDirectories.go root rest tree).1 = .error other := by rw [hgo]
        cases h
        exact hrest hfirst
      · exact settle_eq_error hlast h
    · exact settle_eq_error hlast h

/-- If the path has no NUL, nothing goes wrong in making the directories above it but a file
operation. -/
theorem makeDirectories_eq_error {path : Path} (hclean : path.Clean)
    (h : (tree.makeDirectories path.parent.root path.parent.names).1 = .error fault) :
    ∃ problem, fault = .file problem := by
  refine go_eq_error (fun front back e => ?_) h
  rw [List.reverse_reverse] at e
  have habove : Path.IsAbove ⟨path.root, front⟩ path := ⟨rfl, back, e.symm⟩
  exact habove.clean hclean

theorem write_eq_error (hclean : '\x00' ∉ text.toList) (h : tree.write text content = .error fault) :
    ∃ problem, fault = .file problem := by
  rw [write] at h
  cases hlocate : tree.locate text with
  | error other =>
    rw [hlocate] at h
    cases h
    exact locate_eq_error hclean hlocate
  | ok place =>
    rw [hlocate] at h
    simp only [bind, Except.bind] at h
    split at h
    · cases h
      exact ⟨_, rfl⟩
    · cases h

end Tree

end Rollout.File
