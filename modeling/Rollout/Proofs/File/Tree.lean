import Rollout.File.Tree
import Rollout.Proofs.Except
import Rollout.Proofs.Text
import Rollout.Proofs.Text.Utf8

/-!
# Reading files

A text leads to the same place in a tree that has the directories of another one (`locate_mono`), so
also when something is put where no directory stands (`locate_put`). Plain text is read as the same
text (`readText_of_read`).
-/

namespace Rollout.File.Tree

variable {tree tree' : Tree} {place start next : Place} {node : Node} {text : String}
  {content : Octets}

theorem isGround_eq_false (h : tree.at? place ≠ some .directory) : isGround place = false := by
  rw [at?] at h
  split at h
  · exact absurd rfl h
  · next hground => exact Bool.eq_false_iff.2 hground

/-- A name is followed from a directory, and then the others from where it leads. -/
theorem follow_cons_eq_ok_iff {name : String} {names : List String} :
    tree.follow start (name :: names) = .ok next ↔
      tree.at? start = some .directory ∧
        ∃ entered, enter start name = .ok entered ∧ tree.follow entered names = .ok next := by
  rw [follow]
  cases tree.at? start with
  | none => simp
  | some found =>
    cases found with
    | file content => simp
    | directory => cases enter start name <;> simp

/-- Where the directories of a tree stand in another one too, names lead there to the same place. -/
theorem follow_mono {names : List String}
    (hkept : ∀ place, tree.at? place = some .directory → tree'.at? place = some .directory)
    (h : tree.follow start names = .ok next) : tree'.follow start names = .ok next := by
  induction names generalizing start with
  | nil => exact h
  | cons name rest ih =>
    obtain ⟨hstart, entered, henter, hrest⟩ := follow_cons_eq_ok_iff.1 h
    exact follow_cons_eq_ok_iff.2 ⟨hkept start hstart, entered, henter, ih hrest⟩

theorem locate_mono
    (hkept : ∀ place, tree.at? place = some .directory → tree'.at? place = some .directory)
    (h : tree.locate text = .ok next) : tree'.locate text = .ok next := by
  unfold locate at h ⊢
  split at h
  · cases h
  · split at h
    · cases h
    · split at h
      · cases h
      · next hnull hempty hlimit =>
        rw [if_neg hnull, if_neg hempty, if_neg hlimit]
        revert h
        dsimp only
        cases hfollow : tree.follow _ _ with
        | error trouble => rintro ⟨⟩
        | ok found =>
          intro h
          rw [follow_mono hkept hfollow]
          exact h

/-- Putting a node where no directory stands does not block the way to another place. -/
theorem locate_put (hplace : tree.at? place ≠ some .directory) (h : tree.locate text = .ok next) :
    (tree.put place node).locate text = .ok next := by
  refine locate_mono (fun other hother => ?_) h
  have hne : other ≠ place := by
    rintro rfl
    exact hplace hother
  rw [at?_put_other hne, hother]

theorem write_eq_ok (h : tree.write text content = .ok tree') : ∃ place,
    tree.locate text = .ok place ∧ tree.at? place ≠ some .directory ∧
      tree' = tree.put place (.file content) := by
  obtain ⟨place, hlocate, hwrite⟩ := except_bind_eq_ok.1 h
  refine ⟨place, hlocate, ?_⟩
  split at hwrite
  · cases hwrite
  · next hfree =>
    cases hwrite
    exact ⟨hfree, rfl⟩

/-- What is read from a file is what stands at the place to which its text leads. -/
theorem read_of_locate (hlocate : tree.locate text = .ok place)
    (hat : tree.at? place = some (.file content)) : tree.read text = .ok content := by
  have hlook : tree.look text = .ok (.file content) := by
    rw [look, hlocate]
    simp only [bind, Except.bind, hat]
    rfl
  rw [read, hlook]
  rfl

/-- A text is read with every line end a line feed. -/
theorem readText_eq {written : String} (h : tree.read text = .ok (Utf8.encode written)) :
    tree.readText text = .ok (Text.normalizeLineEnds written.toList) := by
  rw [readText, h]
  simp only [bind, Except.bind, Utf8.decode_encode]
  rfl

/-- Text that has no carriage returns is read as it was written. -/
theorem readText_of_read {written : String} (h : tree.read text = .ok (Utf8.encode written))
    (hreturn : '\r' ∉ written.toList) : tree.readText text = .ok written.toList := by
  rw [readText_eq h, Text.normalizeLineEnds_eq_self hreturn]

end Rollout.File.Tree
